import Balii.Identity.SuperAdmin
/-!
# UserRows — what becomes of a user's role and password

`changePassword` saves the whole entity it read: TypeORM writes the columns in which it differs from the row as reloaded.
So the role follows the last `updateUserRole`, and the password hash the last password operation, exactly when no save
finds the role changed since it was read, and its hash is written.
-/
namespace Balii.Identity

open Rowdb Rowdb.Atomic List

def roleIdOf (id : Uuid) (s : State) : Option ℕ := (s.users.lookup id).bind User.roleId

def hashOf (id : Uuid) (s : State) : Option String := (s.users.lookup id).bind User.passwordHash

/-- The role an operation is to give the user. -/
def roleSet (id : Uuid) (op : Op) (s : State) : Option (Option ℕ) :=
  match op with
  | .updateRole id' roleId => if id' = id ∧ (s.users.lookup id).isSome then some (some roleId) else none
  | _ => none

/-- The password hash an operation is to give the user. -/
def hashSet (id : Uuid) (op : Op) (s : State) : Option (Option String) :=
  match op with
  | .saveUser id' entity _ => if id' = id ∧ (s.users.lookup id).isSome then some entity.passwordHash else none
  | .resetPassword token hash date =>
    match performReset token hash date s with
    | .ok (userId, _) => if userId = id ∧ (s.users.lookup id).isSome then some (some hash) else none
    | .error _ => none
  | _ => none

/-- The `UPDATE` of a save writes no role of its own, and writes its hash. -/
def SaveLands (id : Uuid) (entity reloaded : User) (s : State) : Prop :=
  (entity.roleId = reloaded.roleId ∨ entity.roleId = roleIdOf id s) ∧
    (entity.passwordHash ≠ reloaded.passwordHash ∨ entity.passwordHash = hashOf id s)

section Rows
variable {op : Op} {s s' : State} {a : op.Res} {id : Uuid} {u : User}

theorem lookup_perform_none (h : perform op s = .ok (a, s')) (hop : ∀ id entity, op ≠ .saveUser id entity none)
    (hu : s.users.lookup id = none) : s'.users.lookup id = none := by
  have hmodify : ∀ {id' : Uuid} {f : User → User}, (s.users.modify id' f).lookup id = none := by
    intro id' f
    rw [AList.lookup_modify, hu]
    split <;> rfl
  cases op with
  | updateProfile id' dto =>
    rw [updateProfile_ok h]
    exact hmodify
  | updateRole id' roleId => cases h; exact hmodify
  | saveUser id' entity reloaded =>
    cases reloaded with
    | none => exact absurd rfl (hop _ _)
    | some reloaded => cases h; exact hmodify
  | resetPassword token hash date =>
    obtain ⟨_, _, _, _, _, rfl, rfl⟩ := performReset_ok h
    exact hmodify
  | addReset id' row =>
    unfold perform at h
    dsimp only at h
    split at h
    · cases h
    · cases h
      exact hu
  | _ => cases h; exact hu

theorem roleId_perform (h : perform op s = .ok (a, s')) (hop : WritesNoEntity op) :
    roleIdOf id s' = (roleSet id op s).getD (roleIdOf id s) := by
  cases hu : s.users.lookup id with
  | none =>
    have hnext := lookup_perform_none h (fun id' entity => hop id' entity none) hu
    have hset : roleSet id op s = none := by
      cases op <;> simp [roleSet, hu]
    simp [roleIdOf, hnext, hset, hu]
  | some u =>
    have hnext := lookup_perform h hu
    have hrole : roleIdOf id s' = (op.effect s id u).roleId := by simp [roleIdOf, hnext]
    have hprev : roleIdOf id s = u.roleId := by simp [roleIdOf, hu]
    rw [hrole, hprev]
    cases op with
    | updateRole id' roleId =>
      by_cases hid : id = id'
      · subst hid
        simp [Op.effect, roleSet, hu]
      · simp [Op.effect, roleSet, hid, Ne.symm hid]
    | updateProfile id' dto =>
      by_cases hid : id = id'
      · simp [Op.effect, roleSet, hid, ProfileDto.apply]
      · simp [Op.effect, roleSet, hid]
    | saveUser id' entity reloaded => exact absurd rfl (hop _ _ _)
    | resetPassword token hash date =>
      have hreset : performReset token hash date s = .ok (a, s') := h
      by_cases hid : id = a
      · simp [Op.effect, roleSet, hreset, hid]
      · simp [Op.effect, roleSet, hreset, hid]
    | _ => rfl

theorem hash_perform (h : perform op s = .ok (a, s')) (hop : WritesNoEntity op) :
    hashOf id s' = (hashSet id op s).getD (hashOf id s) := by
  cases hu : s.users.lookup id with
  | none =>
    have hnext := lookup_perform_none h (fun id' entity => hop id' entity none) hu
    have hset : hashSet id op s = none := by
      cases op with
      | resetPassword token hash date =>
        have hreset : performReset token hash date s = .ok (a, s') := h
        simp [hashSet, hreset, hu]
      | _ => simp [hashSet, hu]
    simp [hashOf, hnext, hset, hu]
  | some u =>
    have hnext := lookup_perform h hu
    have hhash : hashOf id s' = (op.effect s id u).passwordHash := by simp [hashOf, hnext]
    have hprev : hashOf id s = u.passwordHash := by simp [hashOf, hu]
    rw [hhash, hprev]
    cases op with
    | updateRole id' roleId =>
      by_cases hid : id = id'
      · simp [Op.effect, hashSet, hid]
      · simp [Op.effect, hashSet, hid]
    | updateProfile id' dto =>
      by_cases hid : id = id'
      · simp [Op.effect, hashSet, hid, ProfileDto.apply]
      · simp [Op.effect, hashSet, hid]
    | saveUser id' entity reloaded => exact absurd rfl (hop _ _ _)
    | resetPassword token hash date =>
      have hreset : performReset token hash date s = .ok (a, s') := h
      by_cases hid : id = a
      · have hset : hashSet id (.resetPassword token hash date) s = some (some hash) := by simp [hashSet, hreset, ← hid, hu]
        rw [hset]
        simp [Op.effect, hreset, hid]
      · simp [Op.effect, hashSet, hreset, hid, Ne.symm hid]
    | _ => rfl

theorem save_other {id' : Uuid} {entity reloaded : User} {a : Unit} (h : perform (.saveUser id' entity (some reloaded)) s = .ok (a, s'))
    (hne : id ≠ id') : s'.users.lookup id = s.users.lookup id := by
  cases h
  exact AList.lookup_modify_ne _ _ hne

/-- **A save lands when both columns are as its user meant them**: the role as it was, the hash as given. -/
theorem saveLands_iff {entity reloaded : User} {a : Unit} (h : perform (.saveUser id entity (some reloaded)) s = .ok (a, s'))
    (hu : s.users.lookup id = some u) :
    SaveLands id entity reloaded s ↔ roleIdOf id s' = roleIdOf id s ∧ hashOf id s' = entity.passwordHash := by
  have hnext := lookup_perform h hu
  have heffect : s'.users.lookup id = some (entity.saved reloaded u) := by simpa [Op.effect] using hnext
  have hrole : roleIdOf id s' = column User.roleId entity reloaded u := by simp [roleIdOf, heffect, User.saved]
  have hhash : hashOf id s' = column User.passwordHash entity reloaded u := by simp [hashOf, heffect, User.saved]
  have hrole₀ : roleIdOf id s = u.roleId := by simp [roleIdOf, hu]
  have hhash₀ : hashOf id s = u.passwordHash := by simp [hashOf, hu]
  unfold SaveLands column at *
  rw [hrole, hhash, hrole₀, hhash₀]
  by_cases h1 : entity.roleId = reloaded.roleId <;> by_cases h2 : entity.passwordHash = reloaded.passwordHash
  · simp only [h1, h2, if_true, true_or, true_and, ne_eq, not_true_eq_false, false_or]
    exact eq_comm
  · simp [h1, h2]
  · simp only [h1, h2, if_true, if_false, false_or, ne_eq, not_true_eq_false]
    exact and_congr Iff.rfl eq_comm
  · simp [h1, h2]

end Rows

section Saves
variable {cfg : Config} {Init : State → Prop} (r : (identity cfg).Run Init) {n m i : ℕ} {call : Call} {id : Uuid}

theorem user_stays (hmn : m ≤ n) (h : ∃ u, (r.state m).users.lookup id = some u) : ∃ u, (r.state n).users.lookup id = some u :=
  keeps_between (P := fun s : State => ∃ u, s.users.lookup id = some u) r.lawful hmn
    (fun _ _ _ _ _ _ _ _ _ _ hperf ⟨_, hu⟩ => ⟨_, lookup_perform hperf hu⟩) h

/-- **What a save saves**: the row its call read, with a new hash, against the row it reloaded. -/
theorem saved_entity {entity : User} {reloaded : Option User} {b : State}
    (h : Does r.trace n i call (.saveUser id entity reloaded) b) :
    ∃ m k user row hash, m < k ∧ k < n ∧ (r.state m).users.lookup id = some user ∧ entity = { user with passwordHash := some hash } ∧
      (r.state k).users.lookup id = some row ∧ reloaded = some row := by
  obtain ⟨l, ⟨hdoes, horder⟩, hplaces, _, _, _, x, y, user, hash, rfl, hsub, hx, hy, huser, hentity, hreloaded⟩ :=
    (meets r.traced fun call => proc_logs call).1 _ _ _ _ _ h
  have hxl : x ∈ l := hsub.subset List.mem_cons_self
  have hyl : y ∈ l := hsub.subset (List.mem_cons_of_mem _ List.mem_cons_self)
  have hxy : x.place < y.place := (List.pairwise_cons.1 (horder.sublist hsub)).1 y List.mem_cons_self
  have hbx : x.before = r.state x.place := ((hdoes x hxl).at r.lawful).1
  have hby : y.before = r.state y.place := ((hdoes y hyl).at r.lawful).1
  rw [hbx] at huser
  rw [hby] at hreloaded
  obtain ⟨row, hrow⟩ := user_stays r hxy.le ⟨user, huser⟩
  exact ⟨x.place, y.place, user, row, hash, hxy, hplaces y hyl, huser, hentity, hrow, hreloaded.trans hrow⟩

/-- **No update of a user's role or password is lost in a run if and only if every save lands**: the role it read is the one it
reloads, or the current one, and its new hash is not the reloaded one, or is the current one. -/
theorem userRow_iff : (∀ id, Tracks r.init r.trace (roleIdOf id) (roleSet id) ∧ Tracks r.init r.trace (hashOf id) (hashSet id)) ↔
    ∀ n i call id entity reloaded b, Does r.trace n i call (.saveUser id entity (some reloaded)) b →
      SaveLands id entity reloaded b := by
  have hsaved : ∀ {n i call id entity reloaded b}, Does r.trace n i call (.saveUser id entity reloaded) b →
      (∃ row, reloaded = some row) ∧ ∃ u, b.users.lookup id = some u := by
    intro n i call id entity reloaded b h
    obtain ⟨m, k, user, row, hash, hmk, hkn, huser, _, _, rfl⟩ := saved_entity r h
    obtain ⟨u, hu⟩ := user_stays r (hmk.trans hkn).le ⟨user, huser⟩
    exact ⟨⟨row, rfl⟩, u, (h.at r.lawful).1 ▸ hu⟩
  simp only [tracks_iff r.lawful]
  constructor
  · intro h n i call id entity reloaded b hdoes
    obtain ⟨rfl, _, hperf⟩ := hdoes.at r.lawful
    obtain ⟨u, hu⟩ := (hsaved hdoes).2
    have hrole := (h id).1 n i call _ _ hdoes
    have hhash := (h id).2 n i call _ _ hdoes
    have hset : hashSet id (.saveUser id entity (some reloaded)) (stateAt r.init r.trace n) = some entity.passwordHash := by
      simp [hashSet, hu]
    rw [hset, Option.getD_some] at hhash
    exact (saveLands_iff hperf hu).2 ⟨hrole, hhash⟩
  · intro h id
    have hstep : ∀ n i call op b, Does r.trace n i call op b →
        roleIdOf id (r.state (n + 1)) = (roleSet id op b).getD (roleIdOf id (r.state n)) ∧
          hashOf id (r.state (n + 1)) = (hashSet id op b).getD (hashOf id (r.state n)) := by
      intro n i call op b hdoes
      obtain ⟨hb, a, hperf⟩ := hdoes.at r.lawful
      by_cases hop : op.isSave = true
      · cases op with
        | saveUser id' entity reloaded =>
          obtain ⟨⟨row, rfl⟩, u, hu⟩ := hsaved hdoes
          by_cases hid : id = id'
          · subst hid
            obtain ⟨hrole, hhash⟩ := (saveLands_iff hperf hu).1 (h n i call id entity row b hdoes)
            have hset : hashSet id (.saveUser id entity (some row)) b = some entity.passwordHash := by simp [hashSet, hu]
            rw [hset]
            exact ⟨hrole.trans (by rw [hb]; rfl), hhash⟩
          · have hsame := save_other hperf hid
            have hset : hashSet id (.saveUser id' entity (some row)) b = none := by simp [hashSet, Ne.symm hid]
            rw [hset]
            unfold roleIdOf hashOf Atomic.Run.state
            rw [hsame, hb]
            exact ⟨rfl, rfl⟩
        | _ => cases hop
      · have hno : WritesNoEntity op := fun id entity reloaded heq => hop (heq ▸ rfl)
        have hrole : roleIdOf id (r.state (n + 1)) = _ := roleId_perform hperf hno
        have hhash : hashOf id (r.state (n + 1)) = _ := hash_perform hperf hno
        rw [hb] at hrole hhash ⊢
        exact ⟨hrole, hhash⟩
    exact ⟨fun n i call op b hdoes => (hstep n i call op b hdoes).1, fun n i call op b hdoes => (hstep n i call op b hdoes).2⟩

end Saves

/-! ## A password change gives a role back -/

def roleRestored : List (System.Cmd (identity devConfig).system) :=
  [.arrive (.changePassword (sampleToken 2 "ADMIN" 1000000) "old" "new"),
    .arrive (.updateUserRole (sampleToken 1 "SUPER_ADMIN" 1000000) 2 .customer), .go 0, .go 0] ++
    List.replicate 5 (.go 1) ++ [.answer 0 ⟨"new", 0, true⟩, .go 0, .go 0]

/-- The administrator took the role while the new password was hashed; the save writes the old one again. -/
theorem roleRestored_lost : ¬ ∀ r : (identity devConfig).Run fun _ => True, ∀ id,
    Tracks r.init r.trace (roleIdOf id) (roleSet id) ∧ Tracks r.init r.trace (hashOf id) (hashSet id) := by
  intro hall
  let r : (identity devConfig).Run fun _ => True := .ofSchedule (shopOf [2, 1]) roleRestored trivial
  have htracks := (tracks_iff r.lawful).1 ((hall r) 2).1
  obtain ⟨i, call, op, b, hdoes, hop⟩ := exists_does (n := 8) (τ := r.trace) (p := fun _ _ => Op.isSave) (by decide)
  have hstep := htracks 8 i call op b hdoes
  have hset : roleSet 2 op b = none := by
    cases op with
    | updateRole id roleId => cases hop
    | _ => rfl
  rw [hset, Option.getD_none] at hstep
  exact absurd hstep (by decide)

end Balii.Identity
