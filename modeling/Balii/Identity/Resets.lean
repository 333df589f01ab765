import Balii.Identity.SuperAdmin
/-!
# Resets — the password reset tokens of a user

`forgotPassword` retires the user's open tokens and then inserts a new one, in two statements.  While no other call slips its
token in between, a user has one open token at most, and once a token has been used none issued before it is accepted.
-/
namespace Balii.Identity

open Rowdb Rowdb.Atomic List

/-- A user has at most one reset that was not used. -/
def OneUnused (s : State) : Prop :=
  ∀ id id' r r', s.resets.lookup id = some r → s.resets.lookup id' = some r' → r.userId = r'.userId →
    r.usedAt = none → r'.usedAt = none → id = id'

/-- A user has at most one reset that was not used and has not expired. -/
def OneOpen (s : State) : Prop :=
  ∀ id id' r r', s.resets.lookup id = some r → s.resets.lookup id' = some r' → r.userId = r'.userId →
    r.usedAt = none → r'.usedAt = none → s.now ≤ r.expiresAt → s.now ≤ r'.expiresAt → id = id'

theorem OneUnused.oneOpen {s : State} (h : OneUnused s) : OneOpen s :=
  fun id id' r r' hr hr' huser hopen hopen' _ _ => h id id' r r' hr hr' huser hopen hopen'

/-- No two resets have the same token. -/
def DistinctTokens (s : State) : Prop :=
  ∀ id id' r r', s.resets.lookup id = some r → s.resets.lookup id' = some r' → r.token = r'.token → id = id'

def ResetsInOrder (s : State) : Prop := OneUnused s ∧ DistinctTokens s

/-! ## What becomes of a reset -/

/-- The same reset later: once used it stays used. -/
structure Older (r r' : PasswordReset) : Prop where
  userId : r'.userId = r.userId
  token : r'.token = r.token
  used : r'.usedAt = none → r.usedAt = none

theorem Older.refl (r : PasswordReset) : Older r r := ⟨rfl, rfl, fun h => h⟩

theorem Older.trans {r r' r'' : PasswordReset} (h : Older r r') (h' : Older r' r'') : Older r r'' :=
  ⟨h'.userId.trans h.userId, h'.token.trans h.token, fun hu => h.used (h'.used hu)⟩

section Rows
variable {op : Op} {s s' : State} {a : op.Res} {id : Uuid} {r : PasswordReset}

/-- The resets retired one after the other. -/
theorem lookup_retire (retire : PasswordReset → PasswordReset) (hretire : ∀ r, retire (retire r) = retire r) (id : Uuid) :
    ∀ (ids : List Uuid) (t : Table Uuid PasswordReset), (ids.foldl (fun t id => t.modify id retire) t).lookup id =
      if id ∈ ids then (t.lookup id).map retire else t.lookup id := by
  intro ids
  induction ids with
  | nil => intro t; simp
  | cons x ids ih =>
    intro t
    rw [List.foldl_cons, ih, AList.lookup_modify]
    by_cases hx : id = x
    · subst hx
      by_cases hmem : id ∈ ids
      · simp [hmem, Function.comp_def, hretire]
      · simp [hmem]
    · by_cases hmem : id ∈ ids
      · simp [hmem, hx]
      · simp [hmem, hx]

/-- What `retireResets` makes of a row. -/
def retired (userId : Uuid) (usedAt : ℕ) (r : PasswordReset) : PasswordReset :=
  if r.userId = userId ∧ r.usedAt = none then { r with usedAt := some usedAt } else r

theorem lookup_retireResets {userId : Uuid} {usedAt : ℕ} {a : Unit} (h : perform (.retireResets userId usedAt) s = .ok (a, s')) (id : Uuid) :
    s'.resets.lookup id = (s.resets.lookup id).map (retired userId usedAt) := by
  cases h
  have hretire : ∀ r, retired userId usedAt (retired userId usedAt r) = retired userId usedAt r := by
    intro r
    by_cases hr : r.userId = userId ∧ r.usedAt = none
    · simp [retired, hr]
    · simp [retired, hr]
  refine (lookup_retire (retired userId usedAt) hretire id s.resets.keys s.resets).trans ?_
  by_cases hmem : id ∈ s.resets.keys
  · rw [if_pos hmem]
  · rw [if_neg hmem, AList.lookup_eq_none.2 fun h => hmem (AList.mem_keys.1 h)]
    rfl

/-- **A reset after the operation** is one from before, or the one just added. -/
theorem reset_before (h : perform op s = .ok (a, s')) {r' : PasswordReset} (hr : s'.resets.lookup id = some r') :
    (∃ r, s.resets.lookup id = some r ∧ Older r r') ∨ (op = .addReset id r' ∧ s.resets.lookup id = none) := by
  by_cases hw : op.writesResets = true
  · cases op with
    | retireResets userId usedAt =>
      rw [lookup_retireResets h] at hr
      obtain ⟨r, hr₀, rfl⟩ := Option.map_eq_some_iff.1 hr
      refine .inl ⟨r, hr₀, ?_⟩
      unfold retired
      split
      · exact ⟨rfl, rfl, fun hn => nomatch hn⟩
      · exact .refl r
    | addReset id' row =>
      unfold perform at h
      dsimp only at h
      split at h
      · cases h
      · rename_i hnone
        cases h
        have hnew : (s.resets.insertNew id' row).lookup id = some r' := hr
        rw [AList.lookup_insertNew] at hnew
        have hfree : s.resets.lookup id' = none := by simpa using hnone
        split at hnew
        · rename_i hid
          subst hid
          rw [hfree] at hnew
          cases hnew
          exact .inr ⟨rfl, hfree⟩
        · exact .inl ⟨r', hnew, .refl r'⟩
    | resetPassword token hash date =>
      obtain ⟨rid, _, _, _, _, _, rfl⟩ := performReset_ok h
      have hnew : (s.resets.modify rid fun r => { r with usedAt := some date }).lookup id = some r' := hr
      rw [AList.lookup_modify] at hnew
      split at hnew
      · obtain ⟨r, hr₀, rfl⟩ := Option.map_eq_some_iff.1 hnew
        exact .inl ⟨r, hr₀, rfl, rfl, fun hn => nomatch hn⟩
      · exact .inl ⟨r', hnew, .refl r'⟩
    | _ => cases hw
  · rw [(perform_frame h).resets (by simpa using hw)] at hr
    exact .inl ⟨r', hr, .refl r'⟩

/-- **A reset is never lost.** -/
theorem reset_after (h : perform op s = .ok (a, s')) (hr : s.resets.lookup id = some r) :
    ∃ r', s'.resets.lookup id = some r' ∧ Older r r' := by
  by_cases hw : op.writesResets = true
  · cases op with
    | retireResets userId usedAt =>
      refine ⟨retired userId usedAt r, by rw [lookup_retireResets h, hr]; rfl, ?_⟩
      unfold retired
      split
      · exact ⟨rfl, rfl, fun hn => nomatch hn⟩
      · exact .refl r
    | addReset id' row =>
      unfold perform at h
      dsimp only at h
      split at h
      · cases h
      · cases h
        refine ⟨r, ?_, .refl r⟩
        show (s.resets.insertNew id' row).lookup id = some r
        rw [AList.lookup_insertNew, hr]
        split <;> rfl
    | resetPassword token hash date =>
      obtain ⟨rid, _, _, _, _, _, rfl⟩ := performReset_ok h
      by_cases hid : id = rid
      · subst hid
        refine ⟨{ r with usedAt := some date }, ?_, rfl, rfl, fun hn => nomatch hn⟩
        show (s.resets.modify id _).lookup id = _
        rw [AList.lookup_modify_self, hr]
        rfl
      · exact ⟨r, (AList.lookup_modify_ne _ _ hid).trans hr, .refl r⟩
    | _ => cases hw
  · exact ⟨r, by rw [(perform_frame h).resets (by simpa using hw), hr], .refl r⟩

end Rows

/-! ## Along a run -/

section Runs
variable {cfg : Config} {Init : State → Prop} {r : (identity cfg).Run Init} {n m : ℕ}

theorem reset_stays (hmn : m ≤ n) {id : Uuid} {row : PasswordReset} (h : (r.state m).resets.lookup id = some row) :
    ∃ row', (r.state n).resets.lookup id = some row' ∧ Older row row' :=
  keeps_between (P := fun s : State => ∃ row', s.resets.lookup id = some row' ∧ Older row row') r.lawful hmn
    (fun _ _ _ _ _ _ _ _ _ _ hperf ⟨row', hrow, hold⟩ => by
      obtain ⟨row'', hrow'', hold'⟩ := reset_after hperf hrow
      exact ⟨row'', hrow'', hold.trans hold'⟩) ⟨row, h, .refl row⟩

/-- A call of `forgotPassword` inserts its token after it retired those there were; any token the user got in between is used
by then. -/
def Undisturbed (r : (identity cfg).Run Init) : Prop :=
  ∀ i call m n userId usedAt id row b b', m < n → Does r.trace m i call (.retireResets userId usedAt) b →
    Does r.trace n i call (.addReset id row) b' → row.userId = userId →
    ∀ k j call' id' row' b'', m < k → k < n → Does r.trace k j call' (.addReset id' row') b'' → row'.userId = userId →
      ∃ old, b'.resets.lookup id' = some old ∧ old.usedAt ≠ none

/-- A random token is none of those there are. -/
def FreshTokens (r : (identity cfg).Run Init) : Prop :=
  ∀ n i call id row b, Does r.trace n i call (.addReset id row) b → ∀ id' old, b.resets.lookup id' = some old → old.token ≠ row.token

/-- The user's tokens that are open since a retirement were inserted since. -/
theorem open_since {i : ℕ} {call : Call} {userId : Uuid} {usedAt : ℕ} {b : State} (hmn : m < n)
    (h : Does r.trace m i call (.retireResets userId usedAt) b) :
    ∀ id row, (r.state n).resets.lookup id = some row → row.userId = userId → row.usedAt = none →
      ∃ k j call' row' b', m < k ∧ k < n ∧ Does r.trace k j call' (.addReset id row') b' ∧ row'.userId = userId := by
  refine keeps_between (P := fun s : State => ∀ id row, s.resets.lookup id = some row → row.userId = userId → row.usedAt = none →
    ∃ k j call' row' b', m < k ∧ k < n ∧ Does r.trace k j call' (.addReset id row') b' ∧ row'.userId = userId) r.lawful hmn ?_ ?_
  · intro k j call' op b₁ a b₂ h1 h2 hdoes hperf hprev id row hrow huser hopen
    rcases reset_before hperf hrow with ⟨old, hold, holder⟩ | ⟨rfl, _⟩
    · exact hprev id old hold (holder.userId ▸ huser) (holder.used hopen)
    · exact ⟨k, j, call', row, b₁, h1, h2, hdoes, huser⟩
  · intro id row hrow huser hopen
    obtain ⟨rfl, _, hperf⟩ := h.at r.lawful
    have hnext := lookup_retireResets hperf id
    rw [show (stateAt r.init r.trace (m + 1)).resets.lookup id = some row from hrow] at hnext
    obtain ⟨old, _, hretired⟩ := Option.map_eq_some_iff.1 hnext.symm
    subst hretired
    exfalso
    unfold retired at huser hopen
    by_cases hold : old.userId = userId ∧ old.usedAt = none
    · rw [if_pos hold] at hopen
      cases hopen
    · rw [if_neg hold] at huser hopen
      exact hold ⟨huser, hopen⟩

/-- **An undisturbed insertion finds no open token of its user.** -/
theorem none_open (hundisturbed : Undisturbed r) {i : ℕ} {call : Call} {id : Uuid} {row : PasswordReset} {b : State}
    (h : Does r.trace n i call (.addReset id row) b) :
    ∀ id' old, b.resets.lookup id' = some old → old.userId = row.userId → old.usedAt ≠ none := by
  intro id' old hold huser hopen
  obtain ⟨l, ⟨hdoes, _⟩, hplaces, x, usedAt, hsub, hx, _⟩ := (meets r.traced fun call => proc_logs call).1 _ _ _ _ _ h
  have hxl : x ∈ l := hsub.subset List.mem_cons_self
  have hretire := hdoes x hxl
  rw [hx] at hretire
  have hb := (h.at r.lawful).1
  rw [hb] at hold
  obtain ⟨k, j, call', row', b', h1, h2, hadd, huser'⟩ := open_since (hplaces x hxl) hretire id' old hold huser hopen
  obtain ⟨old', hold', hused⟩ := hundisturbed i call x.place n row.userId usedAt id row _ b (hplaces x hxl) hretire h rfl
    k j call' id' row' b' h1 h2 hadd huser'
  rw [hb, hold] at hold'
  cases hold'
  exact hused hopen

/-- In an undisturbed run with fresh tokens the resets are in order at every place. -/
theorem resets_in_order (r : (identity cfg).Run ResetsInOrder) (hundisturbed : Undisturbed r) (hfresh : FreshTokens r) (n : ℕ) :
    ResetsInOrder (r.state n) := by
  refine keeps_between (m := 0) (P := ResetsInOrder) r.lawful (Nat.zero_le n) ?_ r.starts
  rintro k i call op b a b' _ _ hdoes hperf₀ ⟨hone, hdistinct⟩
  have hperf : perform op b = .ok (a, b') := hperf₀
  refine ⟨fun id id' row row' hrow hrow' huser hopen hopen' => ?_, fun id id' row row' hrow hrow' htoken => ?_⟩
  · rcases reset_before hperf hrow with ⟨old, hold, h⟩ | ⟨rfl, _⟩
    · rcases reset_before hperf hrow' with ⟨old', hold', h'⟩ | ⟨rfl, _⟩
      · exact hone id id' old old' hold hold' (h.userId ▸ h'.userId ▸ huser) (h.used hopen) (h'.used hopen')
      · exact absurd (h.used hopen) (none_open hundisturbed hdoes id old hold (h.userId ▸ huser))
    · rcases reset_before hperf hrow' with ⟨old', hold', h'⟩ | ⟨heq, _⟩
      · exact absurd (h'.used hopen') (none_open hundisturbed hdoes id' old' hold' (h'.userId ▸ huser.symm))
      · cases heq
        rfl
  · rcases reset_before hperf hrow with ⟨old, hold, h⟩ | ⟨rfl, _⟩
    · rcases reset_before hperf hrow' with ⟨old', hold', h'⟩ | ⟨rfl, _⟩
      · exact hdistinct id id' old old' hold hold' (h.token ▸ h'.token ▸ htoken)
      · exact absurd (h.token ▸ htoken) (hfresh k i call id' row' b hdoes id old hold)
    · rcases reset_before hperf hrow' with ⟨old', hold', h'⟩ | ⟨heq, _⟩
      · exact absurd (h'.token ▸ htoken.symm) (hfresh k i call id row b hdoes id' old' hold')
      · cases heq
        rfl

/-- What a successful reset finds, and what it leaves. -/
theorem resetPassword_does {i : ℕ} {call : Call} {token hash : String} {date : ℕ} {b : State}
    (h : Does r.trace n i call (.resetPassword token hash date) b) :
    ∃ id row, (r.state n).resets.lookup id = some row ∧ row.token = token ∧ row.usedAt = none ∧
      performReset token hash date b = .ok (row.userId, r.state (n + 1)) ∧
      ∃ row', (r.state (n + 1)).resets.lookup id = some row' ∧ row'.usedAt ≠ none := by
  obtain ⟨hb, a, hperf⟩ := h.at r.lawful
  have hreset : performReset token hash date b = .ok (a, r.state (n + 1)) := hperf
  obtain ⟨id, row, hfound, hopen, _, rfl, hnext⟩ := performReset_ok hreset
  obtain ⟨hrow, htoken⟩ := AList.find_some hfound
  have hnow : (r.state n).resets.lookup id = some row := by
    rw [show r.state n = b from hb.symm]
    exact hrow
  refine ⟨id, row, hnow, eq_of_beq htoken, hopen, hreset, { row with usedAt := some date }, ?_, fun hn => nomatch hn⟩
  rw [hnext]
  show (b.resets.modify id _).lookup id = _
  rw [AList.lookup_modify_self, hrow]
  rfl

/-- A token that was there when another, or itself, was used for the same user is not accepted later. -/
theorem not_accepted_later (r : (identity cfg).Run ResetsInOrder) (hundisturbed : Undisturbed r) (hfresh : FreshTokens r)
    {i j : ℕ} {call call' : Call} {token token' hash hash' : String} {date date' : ℕ} {b b' s s' : State} {userId : Uuid}
    (hmn : m < n) (h : Does r.trace m i call (.resetPassword token hash date) b)
    (hs : performReset token hash date b = .ok (userId, s))
    (h' : Does r.trace n j call' (.resetPassword token' hash' date') b') (hs' : performReset token' hash' date' b' = .ok (userId, s')) :
    ∀ id row, (r.state m).resets.lookup id = some row → row.token ≠ token' := by
  intro id row hrow htoken
  obtain ⟨id₁, row₁, hrow₁, _, hopen₁, hperf₁, used, hused, hnot⟩ := resetPassword_does h
  obtain ⟨id₂, row₂, hrow₂, htoken₂, hopen₂, hperf₂, _⟩ := resetPassword_does h'
  rw [hs] at hperf₁
  rw [hs'] at hperf₂
  have huser₁ : userId = row₁.userId := (Prod.mk.inj (Except.ok.inj hperf₁)).1
  have huser₂ : userId = row₂.userId := (Prod.mk.inj (Except.ok.inj hperf₂)).1
  -- the row with the later token is the one that was there at the earlier reset
  obtain ⟨row', hrow', hold⟩ := reset_stays hmn.le hrow
  have hid : id = id₂ := (resets_in_order r hundisturbed hfresh n).2 id id₂ row' row₂ hrow' hrow₂
    (by rw [hold.token, htoken, htoken₂])
  subst hid
  obtain rfl : row' = row₂ := Option.some.inj (hrow'.symm.trans hrow₂)
  have hid : id = id₁ := (resets_in_order r hundisturbed hfresh m).1 id id₁ row row₁ hrow hrow₁
    (by rw [← hold.userId, ← huser₂, huser₁]) (hold.used hopen₂) hopen₁
  subst hid
  obtain ⟨row'', hrow'', hold'⟩ := reset_stays (Nat.succ_le_of_lt hmn) hused
  obtain rfl : row'' = row' := Option.some.inj (hrow''.symm.trans hrow')
  exact hnot (hold'.used hopen₂)

/-- **In an undisturbed run with fresh tokens** a user has one unused reset at most at every place, a token changes the password
once at most, and once one was used for a user none that was there before is accepted for them. -/
theorem resets_sound (r : (identity cfg).Run ResetsInOrder) (hundisturbed : Undisturbed r) (hfresh : FreshTokens r) :
    (∀ n, OneUnused (r.state n) ∧ OneOpen (r.state n)) ∧
    (∀ m n i j call call' token hash hash' date date' b b', Does r.trace m i call (.resetPassword token hash date) b →
      Does r.trace n j call' (.resetPassword token hash' date') b' → m = n) ∧
    ∀ m n i j call call' token token' hash hash' date date' b b' userId s s', m < n →
      Does r.trace m i call (.resetPassword token hash date) b → performReset token hash date b = .ok (userId, s) →
      Does r.trace n j call' (.resetPassword token' hash' date') b' → performReset token' hash' date' b' = .ok (userId, s') →
      ∀ id row, (r.state m).resets.lookup id = some row → row.token ≠ token' := by
  have honce : ∀ m n i j call call' token hash hash' date date' b b', m < n → Does r.trace m i call (.resetPassword token hash date) b →
      Does r.trace n j call' (.resetPassword token hash' date') b' → False := by
    intro m n i j call call' token hash hash' date date' b b' hmn h h'
    obtain ⟨id₁, row₁, hrow₁, htoken₁, _, hperf₁, used, hused, hnot⟩ := resetPassword_does h
    obtain ⟨id₂, row₂, hrow₂, htoken₂, hopen₂, hperf₂, _⟩ := resetPassword_does h'
    obtain ⟨row', hrow', hold⟩ := reset_stays hmn.le hrow₁
    have hid : id₁ = id₂ := (resets_in_order r hundisturbed hfresh n).2 id₁ id₂ row' row₂ hrow' hrow₂
      (by rw [hold.token, htoken₁, htoken₂])
    subst hid
    obtain ⟨row'', hrow'', hold'⟩ := reset_stays (Nat.succ_le_of_lt hmn) hused
    obtain rfl : row'' = row₂ := Option.some.inj (hrow''.symm.trans hrow₂)
    exact hnot (hold'.used hopen₂)
  have hone : ∀ n, OneUnused (r.state n) := fun n => (resets_in_order r hundisturbed hfresh n).1
  refine ⟨fun n => ⟨hone n, (hone n).oneOpen⟩, ?_, ?_⟩
  · intro m n i j call call' token hash hash' date date' b b' h h'
    rcases Nat.lt_trichotomy m n with hlt | heq | hgt
    · exact (honce m n i j call call' token hash hash' date date' b b' hlt h h').elim
    · exact heq
    · exact (honce n m j i call' call token hash' hash date' date b' b hgt h' h).elim
  · intro m n i j call call' token token' hash hash' date date' b b' userId s s' hmn h hs h' hs'
    exact not_accepted_later r hundisturbed hfresh hmn h hs h' hs'

end Runs

/-! ## One token asked for, and two at a time -/

theorem shopOf_in_order (roleIds : List ℕ) : ResetsInOrder (shopOf roleIds) :=
  ⟨fun _ _ _ _ h => (nomatch h), fun _ _ _ _ h => (nomatch h)⟩

/-- User 1 asks for a token and uses it. -/
def resetOnce : List (System.Cmd (identity devConfig).system) :=
  [.arrive (.forgotPassword "1"), .go 0, .go 0, .go 0, .answer 0 ⟨"token", 10, true⟩, .go 0, .go 0, .go 0,
    .arrive (.resetPassword "token" "new password"), .answer 1 ⟨"new", 0, true⟩, .go 1, .go 1]

def resetOnceRun : (identity devConfig).Run ResetsInOrder := .ofSchedule (shopOf [2]) resetOnce (shopOf_in_order _)

def Op.isAdd : Op → Bool
  | .addReset .. => true
  | _ => false

theorem resetOnce_add {n i : ℕ} {call : Call} {id : Uuid} {row : PasswordReset} {b : State}
    (h : Does resetOnceRun.trace n i call (.addReset id row) b) : n = 4 := by
  have hplace := forall_does (p := fun n _ _ op => !Op.isAdd op || n == 4) (by decide +kernel) h
  simpa [Op.isAdd] using hplace

/-- The token is used, and the user has none left. -/
theorem resetOnce_sound : (∀ n, OneUnused (resetOnceRun.state n) ∧ OneOpen (resetOnceRun.state n)) ∧
    ((resetOnceRun.state 8).resets.lookup 10).any (fun row => row.usedAt.isSome) = true := by
  refine ⟨(resets_sound resetOnceRun ?_ ?_).1, by decide +kernel⟩
  · intro i call m n userId usedAt id row b b' _ _ hadd _ k j call' id' row' b'' _ hkn hadd' _
    have hn := resetOnce_add hadd
    have hk := resetOnce_add hadd'
    omega
  · intro n i call id row b hadd id' old hold
    obtain rfl := resetOnce_add hadd
    have hb : b = resetOnceRun.state 4 := (hadd.at resetOnceRun.lawful).1
    have hnone : (resetOnceRun.state 4).resets.entries = [] := by decide +kernel
    rw [hb] at hold
    have hmem := AList.mem_lookup_iff.1 hold
    rw [hnone] at hmem
    cases hmem

def twoForgot : List (System.Cmd (identity devConfig).system) :=
  [.arrive (.forgotPassword "1"), .arrive (.forgotPassword "1"), .go 0, .go 0, .go 0, .go 1, .go 1, .go 1,
    .answer 0 ⟨"first", 10, true⟩, .go 0, .go 0, .answer 1 ⟨"second", 11, true⟩, .go 1, .go 1]

/-- Both calls retire what there was before either inserts: the user has two open tokens. -/
theorem twoForgot_both_open : ¬ ∀ r : (identity devConfig).Run ResetsInOrder, ∀ n, OneOpen (r.state n) := by
  intro hall
  have hfirst : ((Run.ofSchedule (shopOf [2]) twoForgot (shopOf_in_order _)).state 10).resets.lookup 10 =
      some ⟨1, "first", 1900000, none⟩ := by decide +kernel
  have hsecond : ((Run.ofSchedule (shopOf [2]) twoForgot (shopOf_in_order _)).state 10).resets.lookup 11 =
      some ⟨1, "second", 1900000, none⟩ := by decide +kernel
  have hnow : ((Run.ofSchedule (shopOf [2]) twoForgot (shopOf_in_order _)).state 10).now ≤ 1900000 := by decide +kernel
  have hsame := hall (.ofSchedule (shopOf [2]) twoForgot (shopOf_in_order _)) 10 10 11 _ _ hfirst hsecond rfl rfl rfl hnow hnow
  cases hsame

end Balii.Identity
