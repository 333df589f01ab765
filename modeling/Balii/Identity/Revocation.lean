import Balii.Identity.Rotation
/-!
# Revocation — sessions from before a change of role or password

A change deletes the user's refresh hash and makes the access tokens void that were issued up to the time it read.  A session
opens when it checks a password or a stored hash, is signed when it reads the clock, and is stored by a last command: one that
opened before the change and is signed or stored after its revocation lives on.
-/
namespace Balii.Identity

open Rowdb Rowdb.Atomic List

/-- The clock shows a time after the epoch. -/
def ClockRunning (s : State) : Prop := 0 < s.now

section Sessions
variable {cfg : Config} {Init : State → Prop} (r : (identity cfg).Run Init) (id : Uuid)

/-- **A completed change** of the user's role or password, with its places: the change, the time it read, the deletion, the
watermark, the answer. -/
structure Change where
  session : ℕ
  call : Call
  changed : ℕ
  timed : ℕ
  deleted : ℕ
  marked : ℕ
  answered : ℕ
  op : Op
  change : Does r.trace changed session call op (r.state changed)
  changes : Changes id op (r.state changed)
  time : Does r.trace timed session call .now (r.state timed)
  delete : Does r.trace deleted session call (.delRefresh id) (r.state deleted)
  mark : Does r.trace marked session call (.setValidAfter id (r.state timed).now (15 * 60)) (r.state marked)
  changed_lt_deleted : changed < deleted
  timed_lt_marked : timed < marked
  deleted_lt_marked : deleted < marked
  marked_lt_answered : marked < answered

variable {r id} in
/-- The time up to which a change makes tokens void. -/
def Change.watermark (c : Change r id) : ℕ := (r.state c.timed).now

/-- A session of the user opens at the place. -/
def Opens (n i : ℕ) (call : Call) : Prop :=
  ∃ op, Does r.trace n i call op (r.state n) ∧ Begins cfg call id ⟨n, op, r.state n⟩

/-- The session that opened at `m` is stored at `n`. -/
def Stores (m n : ℕ) : Prop :=
  ∃ i call hash ttl b, Opens r id m i call ∧ Does r.trace n i call (.setRefresh id hash ttl) b ∧ m < n

/-- The session that opened at `m` is signed at `y`, to be stored. -/
def Signs (m y : ℕ) : Prop :=
  ∃ i call hash ttl b n, Opens r id m i call ∧ Does r.trace y i call .now (r.state y) ∧
    Does r.trace n i call (.setRefresh id hash ttl) b ∧ m < y ∧ y < n

/-- The session that opened at `m` has these two tokens. -/
def Issues (m : ℕ) (access refresh : Token) : Prop :=
  ∃ y l account role, Signs r id m y ∧ account.id = id ∧ access = accessToken cfg account role (r.state y).now ∧
    refresh = refreshTokenOf cfg account role (r.state y).now ∧ m ≤ l ∧ (r.state l).roleOf id = some role ∧
      ∃ i call op, Does r.trace l i call op (r.state l) ∧ op.findsUser = true

/-- Nothing is stored for the user from one place to another. -/
def NothingStored (m n : ℕ) : Prop :=
  ∀ k i call hash ttl b, m ≤ k → k < n → ¬ Does r.trace k i call (.setRefresh id hash ttl) b

/-- **A session from before the change**: its password was checked before, or Google's user was read before, or its refresh token was
stored before, or stems from such a session. -/
inductive Stale (p : ℕ) : ℕ → Prop
  | login {m i : ℕ} {email password : String} (h : Opens r id m i (.login email password)) (hm : m < p) : Stale p m
  | google {m i : ℕ} (h : Opens r id m i (.googleCallback id)) (hm : m < p) : Stale p m
  | stored {m i : ℕ} {token : Token} (h : Opens r id m i (.refreshToken id token)) (hm : NothingStored r id p m) : Stale p m
  | derived {m i k m' : ℕ} {token : Token} (h : Opens r id m i (.refreshToken id token)) (hk : k < m) (hlast : NothingStored r id (k + 1) m)
      (hstores : Stores r id m' k) (hstale : Stale p m') : Stale p m

/-- The gateway lets a request with the token pass after the place. -/
def PassesAfter (f : ℕ) (token : Token) : Prop :=
  ∃ n j identity, f < n ∧ Returns r.trace n j (.request (.bearer token)) (.ok (.passed (some identity)))

variable {r id}

/-- **The change meets no session half way.** -/
structure Uncrossed (c : Change r id) : Prop where
  /-- A session from before it, open before its deletion, is signed no later than the time it read, -/
  signed : ∀ m y, Stale r id c.changed m → m < c.deleted → Signs r id m y → (r.state y).now ≤ c.watermark
  /-- and stored before its deletion. -/
  stored : ∀ m n, Stale r id c.changed m → m < c.deleted → Stores r id m n → n < c.deleted
  /-- No later change sets an earlier time. -/
  later : ∀ n i call date ttl b, c.marked < n → Does r.trace n i call (.setValidAfter id date ttl) b → c.watermark ≤ date
  /-- A request that passes after it reads the watermark after it was set, with a token that has not expired by then. -/
  request : ∀ n j token identity, c.answered < n → Returns r.trace n j (.request (.bearer token)) (.ok (.passed (some identity))) →
    ∀ g b, g < n → Does r.trace g j (.request (.bearer token)) (.getValidAfter id) b →
      c.marked < g ∧ token.verify cfg.jwtSecret b.now ≠ none

theorem place_lt {i : ℕ} {call : Call} {l : Log cfg} {x y : Act (identity cfg)} (h : Logged r.trace i call l) (hsub : [x, y] <+ l) :
    x.place < y.place :=
  (pairwise_cons.1 (h.2.sublist hsub)).1 y (mem_singleton.2 rfl)

theorem Logged.does {i : ℕ} {call : Call} {l : Log cfg} {x : Act (identity cfg)} {op : Op} (h : Logged r.trace i call l) (hx : [x] <+ l)
    (hop : x.op = op) : Does r.trace x.place i call op (r.state x.place) ∧ x.before = r.state x.place := by
  have hdoes := h.1 x (singleton_sublist.1 hx)
  have hbefore : x.before = r.state x.place := (hdoes.at r.lawful).1
  rw [hop, hbefore] at hdoes
  exact ⟨hdoes, hbefore⟩

theorem change_of_revoked {n i : ℕ} {call : Call} {l : Log cfg} (h : Logged r.trace i call l) (hplaces : ∀ x ∈ l, x.place < n)
    (hrevoked : Revoked cfg id l) : ∃ c : Change r id, c.call = call ∧ c.answered = n := by
  obtain ⟨c, t, d, w, hctw, hcdw, hchanges, ht, hd, hw⟩ := hrevoked
  have htw : [t, w] <+ l := (sublist_cons_self _ _).trans hctw
  have hdw : [d, w] <+ l := (sublist_cons_self _ _).trans hcdw
  have hcd : [c, d] <+ l := ((sublist_append_left [c, d] [w])).trans hcdw
  obtain ⟨hdoesc, hc⟩ := Logged.does h ((sublist_append_left [c] _).trans hcd) rfl
  obtain ⟨hdoest, hbefore⟩ := Logged.does h ((sublist_append_left [t] _).trans htw) ht
  obtain ⟨hdoesd, _⟩ := Logged.does h ((sublist_append_left [d] _).trans hdw) hd
  obtain ⟨hdoesw, _⟩ := Logged.does h ((sublist_cons_self _ _).trans hdw) hw
  rw [hc] at hchanges
  rw [hbefore] at hdoesw
  exact ⟨⟨i, call, c.place, t.place, d.place, w.place, n, c.op, hdoesc, hchanges, hdoest, hdoesd, hdoesw, place_lt h hcd, place_lt h htw,
    place_lt h hdw, hplaces w (hdw.subset (mem_cons_of_mem _ (mem_singleton.2 rfl)))⟩, rfl, rfl⟩

/-- **Every answered change is a `Change`**: of a role, -/
theorem change_of_updateUserRole {n i : ℕ} {token : Token} {target : Uuid} {role : RoleName} {reply : Reply}
    (h : Returns r.trace n i (.updateUserRole token target role) (.ok reply)) : ∃ c : Change r target, c.answered = n := by
  obtain ⟨l, hlog, hplaces, hrevoked⟩ := (meets r.traced fun call => proc_logs call).2 _ _ _ _ h
  obtain ⟨c, _, hc⟩ := change_of_revoked hlog hplaces hrevoked
  exact ⟨c, hc⟩

/-- of one's own password, -/
theorem change_of_changePassword {n i : ℕ} {token : Token} {old new : String} {reply : Reply}
    (h : Returns r.trace n i (.changePassword token old new) (.ok reply)) :
    ∃ secret claims, token = .jwt secret claims ∧ ∃ c : Change r claims.sub, c.answered = n := by
  obtain ⟨l, hlog, hplaces, secret, claims, htoken, hrevoked⟩ := (meets r.traced fun call => proc_logs call).2 _ _ _ _ h
  obtain ⟨c, _, hc⟩ := change_of_revoked hlog hplaces hrevoked
  exact ⟨secret, claims, htoken, c, hc⟩

/-- of a forgotten one. -/
theorem change_of_resetPassword {n i : ℕ} {token new : String} {reply : Reply}
    (h : Returns r.trace n i (.resetPassword token new) (.ok reply)) : ∃ id, ∃ c : Change r id, c.answered = n := by
  obtain ⟨l, hlog, hplaces, id, hrevoked⟩ := (meets r.traced fun call => proc_logs call).2 _ _ _ _ h
  obtain ⟨c, _, hc⟩ := change_of_revoked hlog hplaces hrevoked
  exact ⟨id, c, hc⟩

theorem issues_of_issued {n i : ℕ} {call : Call} {l : Log cfg} {access refresh : Token} (hlog : Logged r.trace i call l)
    (hplaces : ∀ x ∈ l, x.place < n) (hissued : Issued cfg call l access refresh) :
    ∃ id m k, Issues r id m access refresh ∧ Stores r id m k ∧ k < n := by
  obtain ⟨x, f, y, z, account, role, hash, ttl, hxyz, hf, hbegins, hfinds, hrole, hy, hz, haccess, hrefresh⟩ := hissued
  have hxy : [x, y] <+ l := (sublist_append_left [x, y] [z]).trans hxyz
  have hyz : [y, z] <+ l := (sublist_cons_self _ _).trans hxyz
  have hzl : [z] <+ l := (sublist_cons_self _ _).trans hyz
  obtain ⟨hdoesx, hx⟩ := Logged.does hlog ((sublist_append_left [x] _).trans hxy) rfl
  obtain ⟨hdoesy, hbefore⟩ := Logged.does hlog ((sublist_append_left [y] _).trans hyz) hy
  obtain ⟨hdoesz, _⟩ := Logged.does hlog hzl hz
  have hfl : [f] <+ l := by
    rcases hf with rfl | hf
    · exact (sublist_append_left [f] _).trans hxy
    · exact (sublist_cons_self _ _).trans hf
  obtain ⟨hdoesf, hbeforef⟩ := Logged.does hlog hfl rfl
  have hxf : x.place ≤ f.place := by
    rcases hf with rfl | hf
    · exact le_rfl
    · exact (place_lt hlog hf).le
  have hopens : Opens r account.id x.place i call := by
    refine ⟨x.op, hdoesx, ?_⟩
    obtain ⟨place, op, before⟩ := x
    obtain rfl : before = r.state place := hx
    exact hbegins
  have hlt := place_lt hlog hxy
  have hlt' := place_lt hlog hyz
  rw [hbefore] at haccess hrefresh
  rw [hbeforef] at hrole
  exact ⟨account.id, x.place, z.place,
    ⟨y.place, f.place, account, role, ⟨i, call, _, _, _, z.place, hopens, hdoesy, hdoesz, hlt, hlt'⟩, rfl, haccess, hrefresh, hxf, hrole, i,
      call, f.op, hdoesf, hfinds⟩,
    ⟨i, call, _, _, _, hopens, hdoesz, hlt.trans hlt'⟩, hplaces z (singleton_sublist.1 hzl)⟩

/-- **Every session that was answered was opened, signed and stored**: by a password or a refresh token, -/
theorem issues_of_session {n i : ℕ} {call : Call} {access refresh : Token} {user : Account}
    (h : Returns r.trace n i call (.ok (.session access refresh user))) (hcall : (∃ email password, call = .login email password) ∨
      ∃ userId token, call = .refreshToken userId token) :
    ∃ id m k, Issues r id m access refresh ∧ Stores r id m k ∧ k < n := by
  obtain ⟨l, hlog, hplaces, hanswered⟩ := (meets r.traced fun call => proc_logs call).2 _ _ _ _ h
  refine issues_of_issued hlog hplaces ?_
  rcases hcall with ⟨email, password, rfl⟩ | ⟨userId, token, rfl⟩ <;> exact hanswered

/-- or by Google. -/
theorem issues_of_redirect {n i : ℕ} {userId : Uuid} {refresh : Token}
    (h : Returns r.trace n i (.googleCallback userId) (.ok (.redirected refresh))) :
    ∃ id m k access, Issues r id m access refresh ∧ Stores r id m k ∧ k < n := by
  obtain ⟨l, hlog, hplaces, access, hissued⟩ := (meets r.traced fun call => proc_logs call).2 _ _ _ _ h
  obtain ⟨id, m, k, hissues, hstores⟩ := issues_of_issued hlog hplaces hissued
  exact ⟨id, m, k, access, hissues, hstores⟩

theorem opens_stored {m i : ℕ} {token : Token} (h : Opens r id m i (.refreshToken id token)) :
    Does r.trace m i (.refreshToken id token) (.getRefresh id) (r.state m) ∧
      refreshHash id (r.state m) = some (cfg.hashActionToken token) := by
  obtain ⟨op, hdoes, _, hop, hlive⟩ := h
  have hget : op = .getRefresh id := hop
  subst hget
  exact ⟨hdoes, live_value hlive⟩

/-- **A session from before the change opens before its deletion.** -/
theorem Stale.before_deletion {c : Change r id} (h : Uncrossed c) {m : ℕ} (hstale : Stale r id c.changed m) : m < c.deleted := by
  have after : ∀ {m i token}, Opens r id m i (.refreshToken id token) → ¬ m < c.deleted →
      ∃ k j call hash ttl b, c.deleted < k ∧ k < m ∧ Does r.trace k j call (.setRefresh id hash ttl) b := by
    intro m i token hopens hnot
    obtain ⟨hget, hhash⟩ := opens_stored hopens
    have hne : m ≠ c.deleted := by
      rintro rfl
      obtain ⟨_, _, hop, _⟩ := hget.unique c.delete
      cases hop
    obtain ⟨k, j, call, ttl, b, hk, hkm, hset⟩ := stored_since (v := none) c.delete (by simp [refreshSet]) (by omega)
      (fun heq => nomatch heq) hhash
    exact ⟨k, j, call, _, ttl, b, hk, hkm, hset⟩
  induction hstale with
  | login hopens hm => exact hm.trans c.changed_lt_deleted
  | google hopens hm => exact hm.trans c.changed_lt_deleted
  | stored hopens hnone =>
    by_contra hnot
    obtain ⟨k, j, call, hash, ttl, b, hk, hkm, hset⟩ := after hopens hnot
    exact hnone k j call hash ttl b (c.changed_lt_deleted.trans hk).le hkm hset
  | derived hopens hk hlast hstores hstale ih =>
    by_contra hnot
    obtain ⟨k', j, call, hash, ttl, b, hk', hkm, hset⟩ := after hopens hnot
    have hbefore := h.stored _ _ hstale ih hstores
    exact hlast k' j call hash ttl b (by omega) hkm hset

theorem now_mono {m n : ℕ} (hmn : m ≤ n) : (r.state m).now ≤ (r.state n).now :=
  keeps_between (P := fun s : State => (r.state m).now ≤ s.now) r.lawful hmn
    (fun _ _ _ _ _ _ _ _ _ _ hperf hle => hle.trans (perform_frame hperf).now) le_rfl

/-- **The watermark stays**: while it has not expired it is the time of the change, or a later one. -/
theorem watermark_stays {c : Change r id} (h : Uncrossed c) {g : ℕ} (hg : c.marked < g) :
    ∃ e, (r.state g).tokensValidAfter id = some e ∧ c.watermark ≤ e.value ∧ (r.state c.marked).now + 900000 ≤ e.expiresAt := by
  refine (keeps_between (P := fun s : State => (r.state c.marked).now ≤ s.now ∧ ∃ e, s.tokensValidAfter id = some e ∧
    c.watermark ≤ e.value ∧ (r.state c.marked).now + 900000 ≤ e.expiresAt) r.lawful (Nat.succ_le_of_lt hg) ?_ ?_).2
  · rintro k i call op b a b' hk _ hdoes hperf₀ ⟨hnow, e, he, hvalue, hexpiry⟩
    have hperf : perform op b = .ok (a, b') := hperf₀
    refine ⟨hnow.trans (perform_frame hperf).now, ?_⟩
    by_cases hop : op.validAfterOf = some id
    · cases op with
      | setValidAfter id' date ttl =>
        obtain rfl := Option.some.inj hop
        have hlater := h.later k i call date ttl b hk hdoes
        obtain ⟨_, _, _, _, _, _, _, rfl⟩ := (meets r.traced fun call => proc_logs call).1 _ _ _ _ _ hdoes
        obtain ⟨_, hnext⟩ := Prod.mk.inj (Except.ok.inj hperf)
        rw [← hnext]
        refine ⟨⟨date, b.now + 15 * 60 * 1000⟩, by simp, hlater, ?_⟩
        show _ ≤ b.now + 15 * 60 * 1000
        omega
      | _ => cases hop
    · exact ⟨e, by rw [(perform_frame hperf).tokensValidAfter id hop, he], hvalue, hexpiry⟩
  · obtain ⟨_, _, hperf⟩ := c.mark.at r.lawful
    obtain ⟨_, hnext⟩ := Prod.mk.inj (Except.ok.inj hperf)
    show (r.state c.marked).now ≤ (stateAt r.init r.trace (c.marked + 1)).now ∧ ∃ e,
      (stateAt r.init r.trace (c.marked + 1)).tokensValidAfter id = some e ∧ _
    rw [← hnext]
    exact ⟨le_rfl, ⟨_, _⟩, Function.update_self .., le_rfl, le_rfl⟩

/-- **A token signed up to the watermark is refused** as long as it has not expired. -/
theorem refused_of_signed {c : Change r id} (h : Uncrossed c) (hinit : ClockRunning r.init) (hclosed : cfg.failClosed = true)
    {account : Account} {role : String} {y : ℕ} (hid : account.id = id) (hsigned : (r.state y).now ≤ c.watermark) :
    ¬ PassesAfter r c.answered (accessToken cfg account role (r.state y).now) := by
  rintro ⟨n, j, identity, hn, hret⟩
  obtain ⟨l, ⟨hlog, _⟩, hplaces, claims, htoken, _, hopen | ⟨x, hsub, hx, hnot⟩⟩ :=
    (meets r.traced fun call => proc_logs call).2 _ _ _ _ hret
  · exact absurd (hopen.symm.trans hclosed) Bool.false_ne_true
  · cases htoken
    have hxl : x ∈ l := hsub.subset List.mem_cons_self
    have hread := hlog x hxl
    have hbx : x.before = r.state x.place := (hread.at r.lawful).1
    have hsub' : (sessionClaims account role (r.state y).now (15 * 60)).sub = id := hid
    rw [hx, hsub'] at hread
    obtain ⟨hmarked, hvalid⟩ := h.request n j _ identity hn hret x.place _ (hplaces x hxl) hread
    obtain ⟨e, he, hvalue, hexpiry⟩ := watermark_stays h hmarked
    rw [hsub', hbx, he] at hnot
    rw [hbx] at hvalid
    -- the token has not expired, so the watermark has not
    have hfresh : (r.state x.place).now / 1000 < (r.state y).now / 1000 + 15 * 60 := by
      by_contra hexpired
      exact hvalid (if_neg fun hv => hexpired hv.2)
    have hwatermark : c.watermark ≤ (r.state c.marked).now := now_mono c.timed_lt_marked.le
    have hlive : Entry.live (r.state x.place).now (some e) = some e.value := if_pos (by omega)
    have hpositive : 0 < c.watermark := lt_of_lt_of_le hinit (now_mono (m := 0) (Nat.zero_le _))
    rw [hlive] at hnot
    refine hnot ⟨?_, ?_⟩
    · show 0 < e.value
      omega
    · show (r.state y).now ≤ e.value
      omega

/-- **A refresh token is no access token** where the two secrets differ. -/
theorem refresh_refused (hsecrets : cfg.jwtSecret ≠ cfg.refreshSecret) {f : ℕ} {account : Account} {role : String} {now : ℕ} :
    ¬ PassesAfter r f (refreshTokenOf cfg account role now) := by
  rintro ⟨n, j, identity, _, hret⟩
  obtain ⟨_, _, _, claims, htoken, _⟩ := (meets r.traced fun call => proc_logs call).2 _ _ _ _ hret
  exact hsecrets (Token.jwt.inj htoken).1.symm

/-- A session not from before the change read a role the user has had since. -/
theorem role_since {c : Change r id} {m : ℕ} {access refresh : Token} (hissues : Issues r id m access refresh)
    (hnot : ¬ Stale r id c.changed m) :
    ∃ l account role y, c.changed < l ∧ (r.state l).roleOf id = some role ∧ access = accessToken cfg account role (r.state y).now := by
  obtain ⟨y, l, account, role, hsigns, _, haccess, _, hml, hrole, i, call, op, hread, hop⟩ := hissues
  refine ⟨l, account, role, y, ?_, hrole, haccess⟩
  obtain ⟨i', call', _, _, _, _, hopens, _⟩ := hsigns
  have hopen : c.changed ≤ m := by
    by_contra hlt
    cases call' with
    | login email password => exact hnot (.login hopens (by omega))
    | googleCallback id' =>
      obtain ⟨op', hdoes, hbegins⟩ := hopens
      obtain rfl : id' = id := hbegins.1
      exact hnot (.google ⟨op', hdoes, hbegins⟩ (by omega))
    | refreshToken id' token =>
      obtain ⟨op', hdoes, hbegins⟩ := hopens
      obtain rfl : id' = id := hbegins.1
      exact hnot (.stored ⟨op', hdoes, hbegins⟩ fun k _ _ _ _ _ h1 h2 => by omega)
    | _ =>
      obtain ⟨_, _, hbegins⟩ := hopens
      exact hbegins.elim
  refine lt_of_le_of_ne (hopen.trans hml) fun heq => ?_
  have hsame := heq ▸ hread
  obtain ⟨_, _, hsameop, _⟩ := c.change.unique hsame
  have hchanges := c.changes
  rw [hsameop] at hchanges
  cases op <;> first | exact hchanges.elim | cases hop

/-- **What a completed change is to end**: neither token of a session from before it passes the gateway any more, no refresh token
yields such a session, and an access token that passes has a role the user has had since. -/
structure Effective (c : Change r id) : Prop where
  tokens : ∀ m access refresh, Issues r id m access refresh → Stale r id c.changed m →
    ¬ PassesAfter r c.answered access ∧ ¬ PassesAfter r c.answered refresh
  refresh : ∀ m n, Stale r id c.changed m → Stores r id m n → n < c.answered
  role : ∀ m secret claims refresh, Issues r id m (.jwt secret claims) refresh → PassesAfter r c.answered (.jwt secret claims) →
    ∃ l, c.changed < l ∧ (r.state l).roleOf id = some claims.role

/-- **An uncrossed change ends the sessions from before it.** -/
theorem revocation_effective (r : (identity cfg).Run ClockRunning) (c : Change r id) (h : Uncrossed c) (hclosed : cfg.failClosed = true)
    (hsecrets : cfg.jwtSecret ≠ cfg.refreshSecret) : Effective c := by
  have hpasses : ∀ m access refresh, Issues r id m access refresh → Stale r id c.changed m →
      ¬ PassesAfter r c.answered access ∧ ¬ PassesAfter r c.answered refresh := by
    intro m access refresh hissues hstale
    obtain ⟨y, l, account, role, hsigns, hid, rfl, rfl, _⟩ := hissues
    exact ⟨refused_of_signed h r.starts hclosed hid (h.signed m y hstale (hstale.before_deletion h) hsigns), refresh_refused hsecrets⟩
  refine ⟨hpasses, fun m n hstale hstores => ?_, fun m secret claims refresh hissues hpass => ?_⟩
  · have hstored := h.stored m n hstale (hstale.before_deletion h) hstores
    have := c.deleted_lt_marked
    have := c.marked_lt_answered
    omega
  · obtain ⟨l, account, role, y, hl, hrole, haccess⟩ := role_since hissues fun hstale => (hpasses m _ _ hissues hstale).1 hpass
    cases haccess
    exact ⟨l, hl, hrole⟩

end Sessions

/-! ## A change after a login, and one that meets it half way -/

/-- User 2 logs in, is made a customer, is refused, and logs in again. -/
def demotedOnce : List (System.Cmd (identity devConfig).system) :=
  flatten [[.arrive (.login "2" "old")], replicate 4 (.go 0), [.arrive (.pass 5), .go 1],
    [.arrive (.updateUserRole (sampleToken 1 "SUPER_ADMIN" 1000000) 2 .customer)], replicate 5 (.go 2), [.answer 2 ⟨"", 0, true⟩],
    replicate 5 (.go 2), [.arrive (.request (.bearer (sampleToken 2 "ADMIN" 1000000)))], replicate 4 (.go 3), [.arrive (.pass 5), .go 4],
    [.arrive (.login "2" "old")], replicate 4 (.go 5), [.arrive (.request (.bearer (sampleToken 2 "CUSTOMER" 1000010)))],
    replicate 4 (.go 6)]

theorem shopOf_running (roleIds : List ℕ) : ClockRunning (shopOf roleIds) := Nat.zero_lt_succ _

def demotedOnceRun : (identity devConfig).Run ClockRunning := .ofSchedule (shopOf [2, 1]) demotedOnce (shopOf_running _)

def freshToken : Call → Bool
  | .request (.bearer token) => (token.verify "secret" 1000005).isSome && (token.verify "secret" 1000010).isSome
  | _ => false

/-- Where the two sessions of user 2 stand, and the commands that matter to them. -/
def demotedOncePlaces (n i : ℕ) (call : Call) (op : Op) : Bool :=
  (i != 0 || n ≤ 3) && (i != 5 || 20 ≤ n) &&
    match op with
    | .now => (i != 0 || n == 1) && 1 ≤ n
    | .setRefresh .. => (i == 0 && n == 2) || (i == 5 && n == 22)
    | .delRefresh _ => n == 11
    | .setValidAfter .. => n == 12
    | .getValidAfter _ => (n == 17 || n == 26) && freshToken call
    | _ => true

theorem demotedOnce_places {n i : ℕ} {call : Call} {op : Op} {b : State} (h : Does demotedOnceRun.trace n i call op b) :
    demotedOncePlaces n i call op = true :=
  forall_does (p := demotedOncePlaces) (by decide +kernel) h

/-- A session that opened before the deletion is the first one. -/
theorem demotedOnce_first {m n i : ℕ} {call : Call} {op : Op} {b b' : State} {hash : String} {ttl id : ℕ}
    (hopen : Does demotedOnceRun.trace m i call op b) (hm : m < 11) (hset : Does demotedOnceRun.trace n i call (.setRefresh id hash ttl) b') :
    i = 0 ∧ n = 2 := by
  have hfirst := demotedOnce_places hopen
  have hsecond := demotedOnce_places hset
  simp [demotedOncePlaces] at hfirst hsecond
  omega

/-- User 2 is an administrator no more. -/
theorem demotedOnce_effective : ∃ c : Change demotedOnceRun 2, c.answered = 14 ∧ Effective c := by
  have hanswer : replyAt demotedOnceRun.trace 14 = some (2, .updateUserRole (sampleToken 1 "SUPER_ADMIN" 1000000) 2 .customer,
      .ok (.profile (some ⟨2, sampleUser "2" "old" 3, some "CUSTOMER"⟩))) := by decide +kernel
  obtain ⟨c, hanswered⟩ := change_of_updateUserRole (r := demotedOnceRun) (returns_of_replyAt hanswer)
  have hdeleted : c.deleted = 11 := by simpa [demotedOncePlaces] using (Bool.and_eq_true_iff.1 (demotedOnce_places c.delete)).2
  have hmarked : c.marked = 12 := by simpa [demotedOncePlaces] using (Bool.and_eq_true_iff.1 (demotedOnce_places c.mark)).2
  refine ⟨c, hanswered, revocation_effective demotedOnceRun c ⟨?_, ?_, ?_, ?_⟩ rfl (by decide)⟩
  · rintro m y _ hm ⟨i, call, _, _, _, n, ⟨op, hopen, _⟩, hnow, hset, _⟩
    obtain ⟨rfl, rfl⟩ := demotedOnce_first hopen (by omega) hset
    have hy := demotedOnce_places hnow
    have htimed := demotedOnce_places c.time
    simp [demotedOncePlaces] at hy htimed
    exact now_mono (by omega)
  · rintro m n _ hm ⟨i, call, _, _, _, ⟨op, hopen, _⟩, hset, _⟩
    obtain ⟨rfl, rfl⟩ := demotedOnce_first hopen (by omega) hset
    omega
  · intro n i call date ttl b hn hset
    have hplace := demotedOnce_places hset
    simp [demotedOncePlaces] at hplace
    omega
  · intro n j token identity _ _ g b _ hget
    have hplace := demotedOnce_places hget
    simp only [demotedOncePlaces, Bool.and_eq_true, Bool.or_eq_true, beq_iff_eq, freshToken] at hplace
    obtain ⟨_, hg, hearly, hlate⟩ := hplace
    obtain ⟨rfl, _⟩ := hget.at demotedOnceRun.lawful
    refine ⟨by omega, ?_⟩
    rcases hg with rfl | rfl
    · have hnow : (demotedOnceRun.state 17).now = 1000005 := by decide +kernel
      show token.verify "secret" (demotedOnceRun.state 17).now ≠ none
      rw [hnow]
      exact Option.isSome_iff_ne_none.1 hearly
    · have hnow : (demotedOnceRun.state 26).now = 1000010 := by decide +kernel
      show token.verify "secret" (demotedOnceRun.state 26).now ≠ none
      rw [hnow]
      exact Option.isSome_iff_ne_none.1 hlate

/-- User 2 has read the row and is signed after the change. -/
def demotedLate : List (System.Cmd (identity devConfig).system) :=
  flatten [[.arrive (.login "2" "old"), .go 0], [.arrive (.updateUserRole (sampleToken 1 "SUPER_ADMIN" 1000000) 2 .customer)],
    replicate 5 (.go 1), [.answer 1 ⟨"", 0, true⟩], replicate 5 (.go 1), [.arrive (.pass 5), .go 2], replicate 3 (.go 0),
    [.arrive (.request (.bearer (sampleToken 2 "ADMIN" 1000005)))], replicate 4 (.go 3)]

def demotedLateRun : (identity devConfig).Run ClockRunning := .ofSchedule (shopOf [2, 1]) demotedLate (shopOf_running _)

theorem demotedLate_issues : Opens demotedLateRun 2 0 0 (.login "2" "old") ∧
    ∃ refresh, Issues demotedLateRun 2 0 (sampleToken 2 "ADMIN" 1000005) refresh := by
  have hread₀ : actAt demotedLateRun.trace 0 = some (0, .login "2" "old", .findUserByEmail "2") := by decide +kernel
  have hnow₀ : actAt demotedLateRun.trace 12 = some (0, .login "2" "old", .now) := by decide +kernel
  have hset₀ : actAt demotedLateRun.trace 13 =
      some (0, .login "2" "old", .setRefresh 2 "refresh_secret:2:ADMIN:1000005" (7 * 24 * 60 * 60)) := by decide +kernel
  have hrole : (demotedLateRun.state 0).roleOf 2 = some "ADMIN" := by decide +kernel
  have hfound : ((demotedLateRun.state 0).accountByEmail (devConfig.normalized "2")).map Account.id = some 2 := by decide +kernel
  have hemail : Op.findUserByEmail "2" = .findUserByEmail (devConfig.normalized "2") := by decide +kernel
  have hclock : (demotedLateRun.state 12).now = 1000005 := by decide +kernel
  obtain ⟨b, hread⟩ := does_of_actAt hread₀
  obtain ⟨b', hnow⟩ := does_of_actAt hnow₀
  obtain ⟨b'', hset⟩ := does_of_actAt hset₀
  obtain rfl : b = demotedLateRun.state 0 := (hread.at demotedLateRun.lawful).1
  obtain rfl : b' = demotedLateRun.state 12 := (hnow.at demotedLateRun.lawful).1
  have hopens : Opens demotedLateRun 2 0 0 (.login "2" "old") := ⟨_, hread, hemail, hfound⟩
  have htoken : sampleToken 2 "ADMIN" 1000005 =
      accessToken devConfig ⟨2, sampleUser "2" "old" 0, some "ADMIN"⟩ "ADMIN" (demotedLateRun.state 12).now := by
    rw [hclock]
    rfl
  exact ⟨hopens, _, 12, 0, _, "ADMIN", ⟨0, _, _, _, _, 13, hopens, hnow, hset, by decide, by decide⟩, rfl, htoken, rfl, le_rfl, hrole, 0,
    _, _, hread, rfl⟩

/-- The token of an administrator passes after the change to a customer. -/
theorem demotedLate_passes : ¬ ∀ r : (identity devConfig).Run ClockRunning, ∀ id, ∀ c : Change r id, Effective c := by
  intro hall
  have hanswer : replyAt demotedLateRun.trace 10 = some (1, .updateUserRole (sampleToken 1 "SUPER_ADMIN" 1000000) 2 .customer,
      .ok (.profile (some ⟨2, sampleUser "2" "old" 3, some "CUSTOMER"⟩))) := by decide +kernel
  have hpasses : replyAt demotedLateRun.trace 18 = some (3, .request (.bearer (sampleToken 2 "ADMIN" 1000005)),
      .ok (.passed (some ⟨2, some "2", some "ADMIN"⟩))) := by decide +kernel
  obtain ⟨c, hanswered⟩ := change_of_updateUserRole (r := demotedLateRun) (returns_of_replyAt hanswer)
  obtain ⟨hopens, refresh, hissues⟩ := demotedLate_issues
  have hchanged : 0 < c.changed := by
    refine Nat.pos_of_ne_zero fun hzero => ?_
    obtain ⟨op, hread, hbegins⟩ := hopens
    have hfinds : op = .findUserByEmail (devConfig.normalized "2") := hbegins.1
    have hchange := c.change
    have hchanges := c.changes
    rw [hzero] at hchange
    obtain ⟨_, _, hop, _⟩ := hchange.unique hread
    rw [hop, hfinds] at hchanges
    exact hchanges
  exact ((hall demotedLateRun 2 c).tokens 0 _ refresh hissues (.login hopens hchanged)).1
    ⟨18, 3, _, by omega, returns_of_replyAt hpasses⟩

end Balii.Identity
