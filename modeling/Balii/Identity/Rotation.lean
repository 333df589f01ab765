import Balii.Identity.SuperAdmin
/-!
# Rotation — one refresh token at a time

Redis keeps the hash of a user's one refresh token.  A refresh compares it in one command and stores the next in another, and
a logout deletes it in a third: a token is redeemed once, and not after a logout, while nothing comes between the two commands of
a refresh.
-/
namespace Balii.Identity

open Rowdb Rowdb.Atomic List

def refreshHash (id : Uuid) (s : State) : Option String := (s.refreshToken id).map Entry.value

/-- The hash an operation is to leave in Redis for the user. -/
def refreshSet (id : Uuid) (op : Op) (_ : State) : Option (Option String) :=
  match op with
  | .setRefresh id' hash _ => if id' = id then some (some hash) else none
  | .delRefresh id' => if id' = id then some none else none
  | _ => none

theorem live_value {α : Type} {now : ℕ} {e : Option (Entry α)} {a : α} (h : Entry.live now e = some a) : e.map Entry.value = some a := by
  obtain ⟨e, rfl, he⟩ := Option.bind_eq_some_iff.1 h
  split at he
  · exact he
  · cases he

section Runs
variable {cfg : Config} {Init : State → Prop} {r : (identity cfg).Run Init} {n m i : ℕ} {call : Call} {id : Uuid}

theorem refreshHash_tracks (r : (identity cfg).Run Init) (id : Uuid) : Tracks r.init r.trace (refreshHash id) (refreshSet id) := by
  refine (tracks_iff r.lawful).2 fun n i call op b hdoes => ?_
  obtain ⟨hb, a, hperf⟩ := hdoes.at r.lawful
  have hperf' : perform op b = .ok (a, stateAt r.init r.trace (n + 1)) := hperf
  rw [← hb]
  by_cases hop : op.refreshOf = some id
  · cases op with
    | setRefresh id' hash ttl =>
      obtain rfl := Option.some.inj hop
      obtain ⟨_, hnext⟩ := Prod.mk.inj (Except.ok.inj hperf')
      rw [← hnext]
      simp [refreshHash, refreshSet]
    | delRefresh id' =>
      obtain rfl := Option.some.inj hop
      obtain ⟨_, hnext⟩ := Prod.mk.inj (Except.ok.inj hperf')
      rw [← hnext]
      simp [refreshHash, refreshSet]
    | _ => cases hop
  · have hset : refreshSet id op b = none := by
      cases op with
      | setRefresh id' hash ttl =>
        have hne : id' ≠ id := fun heq => hop (congrArg some heq)
        simp [refreshSet, hne]
      | delRefresh id' =>
        have hne : id' ≠ id := fun heq => hop (congrArg some heq)
        simp [refreshSet, hne]
      | _ => rfl
    rw [hset, Option.getD_none]
    unfold refreshHash
    rw [(perform_frame hperf').refreshToken id hop]

/-- A refresh of the user with the token has stored a new hash: the token is redeemed. -/
def Redeems (r : (identity cfg).Run Init) (n i : ℕ) (id : Uuid) (token : Token) : Prop :=
  ∃ hash ttl b, Does r.trace n i (.refreshToken id token) (.setRefresh id hash ttl) b

/-- The hash was stored for the user before the place, or at the start. -/
def StoredBefore (r : (identity cfg).Run Init) (n : ℕ) (id : Uuid) (hash : String) : Prop :=
  refreshHash id r.init = some hash ∨ ∃ k i call ttl b, k < n ∧ Does r.trace k i call (.setRefresh id hash ttl) b

/-- **Nothing comes between**: the two commands of a refresh, what is stored anew, the end of a logout. -/
structure OneAtATime (r : (identity cfg).Run Init) : Prop where
  /-- Between the comparison and the storing of a refresh its token is not redeemed, nor the user logged out. -/
  refresh : ∀ m n i id token b, m < n → Does r.trace m i (.refreshToken id token) (.getRefresh id) b → Redeems r n i id token →
    ∀ k j, m < k → k < n → ¬ Redeems r k j id token ∧ ∀ token' b', ¬ Does r.trace k j (.logout token') (.delRefresh id) b'
  /-- No hash is stored twice. -/
  fresh : ∀ n i call id hash ttl b, Does r.trace n i call (.setRefresh id hash ttl) b → ¬ StoredBefore r n id hash
  /-- No session is stored between the deletion and the answer of a logout. -/
  logout : ∀ d f i id token b reply, Does r.trace d i (.logout token) (.delRefresh id) b →
    Returns r.trace f i (.logout token) (.ok reply) → ∀ k j call hash ttl b', d < k → k < f →
      ¬ Does r.trace k j call (.setRefresh id hash ttl) b'

/-- **What is stored at a place** was there at the start, or the last command on it stored it. -/
theorem last_stored {hash : String} (h : refreshHash id (r.state n) = some hash) :
    (Unwritten r.trace (refreshSet id) 0 n ∧ refreshHash id r.init = some hash) ∨
      ∃ k i call ttl b, k < n ∧ Does r.trace k i call (.setRefresh id hash ttl) b ∧ Unwritten r.trace (refreshSet id) (k + 1) n := by
  have htracks := refreshHash_tracks r id n
  by_cases hun : Unwritten r.trace (refreshSet id) 0 n
  · exact .inl ⟨hun, (htracks.2 hun).symm.trans h⟩
  · obtain ⟨k, i, call, op, b, v, hk, hdoes, hv, hlast⟩ := exists_last hun
    have hvalue : v = some hash := (htracks.1 k i call op b v hk hdoes hv hlast).symm.trans h
    subst hvalue
    cases op with
    | setRefresh id' hash' ttl =>
      unfold refreshSet at hv
      dsimp only at hv
      split at hv
      · rename_i hid
        subst hid
        cases hv
        exact .inr ⟨k, i, call, ttl, b, hk, hdoes, hlast⟩
      · cases hv
    | delRefresh id' =>
      unfold refreshSet at hv
      dsimp only at hv
      split at hv <;> cases hv
    | _ => cases hv

theorem storedBefore_of_hash {hash : String} (h : refreshHash id (r.state n) = some hash) : StoredBefore r n id hash := by
  rcases last_stored h with ⟨_, hinit⟩ | ⟨k, i, call, ttl, b, hk, hdoes, _⟩
  · exact .inl hinit
  · exact .inr ⟨k, i, call, ttl, b, hk, hdoes⟩

/-- What is stored after a command that left something else was stored since. -/
theorem stored_since {hash : String} {op : Op} {b : State} {v : Option String} (hm : Does r.trace m i call op b)
    (hw : refreshSet id op b = some v) (hmn : m < n) (hne : v ≠ some hash) (h : refreshHash id (r.state n) = some hash) :
    ∃ k j call' ttl b', m < k ∧ k < n ∧ Does r.trace k j call' (.setRefresh id hash ttl) b' := by
  rcases last_stored h with ⟨hun, _⟩ | ⟨k, j, call', ttl, b', hk, hdoes, hun⟩
  · have hnone := hun m i call op b (Nat.zero_le m) hmn hm
    rw [hw] at hnone
    cases hnone
  · rcases Nat.lt_trichotomy k m with hlt | heq | hgt
    · have hnone := hun m i call op b hlt hmn hm
      rw [hw] at hnone
      cases hnone
    · subst heq
      obtain ⟨_, _, rfl, rfl⟩ := hdoes.unique hm
      have hset : refreshSet id (.setRefresh id hash ttl) b' = some (some hash) := by simp [refreshSet]
      rw [hset] at hw
      exact absurd (Option.some.inj hw).symm hne
    · exact ⟨k, j, call', ttl, b', hgt, hk, hdoes⟩

theorem StoredBefore.mono {hash : String} (h : StoredBefore r m id hash) (hmn : m ≤ n) : StoredBefore r n id hash :=
  h.imp_right fun ⟨k, i, call, ttl, b, hk, hdoes⟩ => ⟨k, i, call, ttl, b, lt_of_lt_of_le hk hmn, hdoes⟩

/-- The comparison a refresh made before it stored. -/
theorem Redeems.compares {token : Token} (h : Redeems r n i id token) :
    ∃ m b, m < n ∧ Does r.trace m i (.refreshToken id token) (.getRefresh id) b ∧
      refreshHash id (r.state m) = some (cfg.hashActionToken token) := by
  obtain ⟨hash, ttl, b, hdoes⟩ := h
  obtain ⟨l, ⟨hlog, _⟩, hplaces, x, y, account, role, hsub, ⟨_, hx, hlive⟩, _⟩ :=
    (meets r.traced fun call => proc_logs call).1 _ _ _ _ _ hdoes
  have hxl : x ∈ l := hsub.subset List.mem_cons_self
  have hread := hlog x hxl
  have hbx : x.before = r.state x.place := (hread.at r.lawful).1
  rw [hx] at hread
  refine ⟨x.place, x.before, hplaces x hxl, hread, ?_⟩
  rw [← hbx]
  exact live_value hlive

/-- **One at a time, a token is redeemed once at most, and no token stored before a logout was over is redeemed after.** -/
theorem rotation_sound (r : (identity cfg).Run Init) (h : OneAtATime r) :
    (∀ n n' i j id token, Redeems r n i id token → Redeems r n' j id token → n = n') ∧
    ∀ i secret claims reply f n j token, Returns r.trace f i (.logout (.jwt secret claims)) (.ok reply) → f < n →
      Redeems r n j claims.sub token → ¬ StoredBefore r f claims.sub (cfg.hashActionToken token) := by
  have honce : ∀ n n' i j id token, n < n' → Redeems r n i id token → Redeems r n' j id token → False := by
    intro n n' i j id token hlt hn hn'
    obtain ⟨g, _, hg, hget, hhash⟩ := hn.compares
    obtain ⟨g', _, hg', hget', hhash'⟩ := hn'.compares
    obtain ⟨hash, ttl, b, hset⟩ := hn
    have hstored := storedBefore_of_hash hhash
    by_cases hbefore : g' < n
    · exact (h.refresh g' n' j id token _ hg' hget' hn' n i hbefore hlt).1 ⟨hash, ttl, b, hset⟩
    · have hne : n ≠ g' := by
        rintro rfl
        obtain ⟨_, _, hop, _⟩ := hset.unique hget'
        cases hop
      -- the first redeeming stored another hash, so this one was stored a second time
      have hother : hash ≠ cfg.hashActionToken token := by
        rintro rfl
        exact h.fresh n i _ id _ ttl b hset (hstored.mono hg.le)
      obtain ⟨k, j', call', ttl', b', hnk, _, hagain⟩ := stored_since (v := some hash) hset (by simp [refreshSet]) (by omega)
        (fun heq => hother (Option.some.inj heq)) hhash'
      exact h.fresh k j' call' id _ ttl' b' hagain (hstored.mono (by omega))
  refine ⟨fun n n' i j id token hn hn' => ?_, fun i secret claims reply f n j token hret hfn hn hstored => ?_⟩
  · rcases Nat.lt_trichotomy n n' with hlt | heq | hgt
    · exact (honce n n' i j id token hlt hn hn').elim
    · exact heq
    · exact (honce n' n j i id token hgt hn' hn).elim
  · obtain ⟨l, ⟨hlog, _⟩, hplaces, secret', claims', x, hjwt, hsub, hx⟩ := (meets r.traced fun call => proc_logs call).2 _ _ _ _ hret
    cases hjwt
    have hxl : x ∈ l := hsub.subset List.mem_cons_self
    have hdel := hlog x hxl
    rw [hx] at hdel
    have hdf := hplaces x hxl
    obtain ⟨g, b, hg, hget, hhash⟩ := hn.compares
    by_cases hbefore : g < x.place
    · exact (h.refresh g n j _ token b hg hget hn x.place i hbefore (by omega)).2 _ _ hdel
    · have hne : x.place ≠ g := by
        intro heq
        rw [heq] at hdel
        obtain ⟨_, _, hop, _⟩ := hdel.unique hget
        cases hop
      obtain ⟨k, j', call', ttl', b', hdk, hkg, hset⟩ := stored_since (v := none) hdel (by simp [refreshSet]) (by omega)
        (fun heq => nomatch heq) hhash
      rcases hstored with hinit | ⟨k', j'', call'', ttl'', b'', hk', hset'⟩
      · exact h.fresh k j' call' _ _ ttl' b' hset (.inl hinit)
      · rcases Nat.lt_trichotomy k k' with hlt | rfl | hgt
        · exact h.fresh k' j'' call'' _ _ ttl'' b'' hset' (.inr ⟨k, j', call', ttl', b', hlt, hset⟩)
        · exact h.logout x.place f i _ _ _ reply hdel hret k j' call' _ ttl' b' hdk hk' hset
        · exact h.fresh k j' call' _ _ ttl' b' hset (.inr ⟨k', j'', call'', ttl'', b'', hgt, hset'⟩)

end Runs

/-! ## A token refreshed once, and twice at the same time -/

/-- The refresh token user 1 gets by logging in at a time. -/
def sampleRefresh (now : ℕ) : Token := refreshTokenOf devConfig ⟨1, sampleUser "1" "old" 2, some "ADMIN"⟩ "ADMIN" now

/-- Log in, refresh, log out. -/
def refreshedOnce : List (System.Cmd (identity devConfig).system) :=
  flatten [[.arrive (.login "1" "old"), .go 0, .go 0, .go 0, .go 0, .arrive (.pass 5), .go 1],
    [.arrive (.refreshToken 1 (sampleRefresh 1000000))], replicate 6 (.go 2), [.arrive (.logout (sampleToken 1 "ADMIN" 1000000))],
    replicate 5 (.go 3)]

def refreshedOnceRun : (identity devConfig).Run fun _ => True := .ofSchedule (shopOf [2]) refreshedOnce trivial

/-- Where the commands on the hash stand. -/
def refreshedOncePlaces (n _ : ℕ) (call : Call) : Op → Bool
  | .setRefresh _ hash _ =>
    match call with
    | .refreshToken .. => n == 9 && hash == "refresh_secret:1:ADMIN:1000005"
    | _ => n == 2 && hash == "refresh_secret:1:ADMIN:1000000"
  | .delRefresh _ => n == 12
  | .getRefresh _ => n == 6
  | _ => true

theorem refreshedOnce_places {n i : ℕ} {call : Call} {op : Op} {b : State} (h : Does refreshedOnceRun.trace n i call op b) :
    refreshedOncePlaces n i call op = true :=
  forall_does (p := refreshedOncePlaces) (by decide +kernel) h

theorem refreshedOnce_set {n i : ℕ} {call : Call} {id : Uuid} {hash : String} {ttl : ℕ} {b : State}
    (h : Does refreshedOnceRun.trace n i call (.setRefresh id hash ttl) b) :
    (n = 9 ∧ hash = "refresh_secret:1:ADMIN:1000005") ∨ (n = 2 ∧ hash = "refresh_secret:1:ADMIN:1000000") := by
  have hplace := refreshedOnce_places h
  cases call <;> simp [refreshedOncePlaces] at hplace <;> simp [hplace]

/-- The token of the login was redeemed by the one refresh. -/
theorem refreshedOnce_sound : (∃ i, Redeems refreshedOnceRun 9 i 1 (sampleRefresh 1000000)) ∧
    ∀ n i, Redeems refreshedOnceRun n i 1 (sampleRefresh 1000000) → n = 9 := by
  have hact : actAt refreshedOnceRun.trace 9 = some (2, Call.refreshToken 1 (sampleRefresh 1000000),
      Op.setRefresh 1 "refresh_secret:1:ADMIN:1000005" 604800) := by decide +kernel
  obtain ⟨b₉, hdoes₉⟩ := does_of_actAt hact
  have hredeemed : Redeems refreshedOnceRun 9 2 1 (sampleRefresh 1000000) := ⟨_, _, b₉, hdoes₉⟩
  refine ⟨⟨2, hredeemed⟩, fun n i hn => (rotation_sound refreshedOnceRun ⟨?_, ?_, ?_⟩).1 n 9 i 2 1 _ hn hredeemed⟩
  · intro m n i id token b _ hget hn k j hmk hkn
    have hm : m = 6 := by simpa [refreshedOncePlaces] using refreshedOnce_places hget
    have hredeems : ∀ {n i}, Redeems refreshedOnceRun n i id token → n = 9 := by
      rintro n i ⟨hash, ttl, b, hset⟩
      have hplace := refreshedOnce_places hset
      simp [refreshedOncePlaces] at hplace
      exact hplace.1
    have hn9 := hredeems hn
    refine ⟨fun hk => ?_, fun token' b' hdel => ?_⟩
    · have hk9 := hredeems hk
      omega
    · have hk12 : k = 12 := by simpa [refreshedOncePlaces] using refreshedOnce_places hdel
      omega
  · rintro n i call id hash ttl b hset (hinit | ⟨k, j, call', ttl', b', hkn, hset'⟩)
    · cases hinit
    · rcases refreshedOnce_set hset with ⟨hn, hhash⟩ | ⟨hn, hhash⟩ <;>
        rcases refreshedOnce_set hset' with ⟨hk, hhash'⟩ | ⟨hk, hhash'⟩
      · omega
      · rw [hhash] at hhash'
        exact absurd hhash' (by decide)
      · omega
      · omega
  · intro d f i id token b reply hdel _ k j call hash ttl b' hdk _ hset
    have hd : d = 12 := by simpa [refreshedOncePlaces] using refreshedOnce_places hdel
    rcases refreshedOnce_set hset with ⟨hk, _⟩ | ⟨hk, _⟩ <;> omega

/-- Two refreshes compare before either stores. -/
def refreshedTwice : List (System.Cmd (identity devConfig).system) :=
  flatten [[.arrive (.login "1" "old"), .go 0, .go 0, .go 0, .go 0, .arrive (.pass 5), .go 1],
    [.arrive (.refreshToken 1 (sampleRefresh 1000000)), .arrive (.refreshToken 1 (sampleRefresh 1000000))], replicate 3 (.go 2),
    replicate 3 (.go 3), [.go 2, .go 2, .arrive (.pass 5), .go 4, .go 3, .go 3]]

def redeemsSample (call : Call) : Op → Bool
  | .setRefresh .. =>
    match call with
    | .refreshToken id token => decide (id = 1 ∧ token = sampleRefresh 1000000)
    | _ => false
  | _ => false

/-- The one token yields two sessions. -/
theorem refreshedTwice_redeemed : ¬ ∀ r : (identity devConfig).Run fun _ => True, ∀ n n' i j id token,
    Redeems r n i id token → Redeems r n' j id token → n = n' := by
  intro hall
  let r : (identity devConfig).Run fun _ => True := .ofSchedule (shopOf [2]) refreshedTwice trivial
  have redeemed : ∀ n, (actAt r.trace n).any (fun x => redeemsSample x.2.1 x.2.2) = true →
      ∃ i, Redeems r n i 1 (sampleRefresh 1000000) := by
    intro n h
    obtain ⟨i, call, op, b, hdoes, hp⟩ := exists_does (A := identity devConfig) (p := fun _ call op => redeemsSample call op) h
    cases op with
    | setRefresh id hash ttl =>
      cases call with
      | refreshToken id' token =>
        obtain ⟨rfl, rfl⟩ := of_decide_eq_true hp
        obtain ⟨l, _, _, x, y, account, role, _, ⟨rfl, _⟩, _⟩ := (meets r.traced fun call => proc_logs call).1 _ _ _ _ _ hdoes
        exact ⟨i, hash, ttl, b, hdoes⟩
      | _ => cases hp
    | _ => cases hp
  obtain ⟨i, hi⟩ := redeemed 12 (by decide +kernel)
  obtain ⟨j, hj⟩ := redeemed 15 (by decide +kernel)
  have hsame := hall r 12 15 i j 1 _ hi hj
  omega

end Balii.Identity
