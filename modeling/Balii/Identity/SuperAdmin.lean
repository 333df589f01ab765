import Balii.Identity.Logs
/-!
# SuperAdmin — whether a super administrator is left

`updateUserRole` keeps a super administrator from demoting himself, by the roles it read before its `UPDATE`.  Whoever demotes another
then is the one who is left, as long as nobody has demoted him meanwhile.
-/
namespace Balii.Identity

open Rowdb Rowdb.Atomic

def SuperAdmin (s : State) (id : Uuid) : Prop := s.roleOf id = some "SUPER_ADMIN"

instance (s : State) (id : Uuid) : Decidable (SuperAdmin s id) := inferInstanceAs (Decidable (_ = _))

def HasSuperAdmin (s : State) : Prop := ∃ id, SuperAdmin s id

def Op.isSave : Op → Bool
  | .saveUser .. => true
  | _ => false

/-- The saves of `changePassword` write roles too; runs without them are those of `updateUserRole`, and of whatever writes no
role. -/
def WritesNoEntity (op : Op) : Prop := ∀ id entity reloaded, op ≠ .saveUser id entity reloaded

/-- The user's role after the operation. -/
def Op.roleAfter (op : Op) (s : State) (id : Uuid) : Option String :=
  match op with
  | .updateRole id' roleId => if id = id' then s.roles.lookup roleId else s.roleOf id
  | _ => s.roleOf id

section Roles
variable {op : Op} {s s' : State} {a : op.Res} {id : Uuid}

theorem roleOf_perform (h : perform op s = .ok (a, s')) (hsave : WritesNoEntity op) {u : User} (hu : s.users.lookup id = some u) :
    s'.roleOf id = op.roleAfter s id := by
  have hrow := lookup_perform h hu
  have hroles := (perform_frame h).roles
  have hnext : s'.roleOf id = (op.effect s id u).roleId.bind s.roles.lookup := by
    unfold State.roleOf
    rw [hrow, hroles]
    rfl
  have hprev : s.roleOf id = u.roleId.bind s.roles.lookup := by
    unfold State.roleOf
    rw [hu]
    rfl
  rw [hnext]
  cases op with
  | updateRole id' roleId =>
    by_cases hid : id = id'
    · simp [Op.effect, Op.roleAfter, hid]
    · simp [Op.effect, Op.roleAfter, hid, hprev]
  | updateProfile id' dto =>
    show _ = s.roleOf id
    rw [hprev]
    by_cases hid : id = id'
    · simp [Op.effect, hid, ProfileDto.apply]
    · simp [Op.effect, hid]
  | saveUser id' entity reloaded => exact absurd rfl (hsave _ _ _)
  | resetPassword token hash date =>
    obtain ⟨_, _, _, _, _, rfl, rfl⟩ := performReset_ok h
    have hreset : performReset token hash date s = .ok (_, _) := h
    simp only [Op.effect, Op.roleAfter, hreset, hprev]
    split <;> rfl
  | _ => exact hprev.symm

theorem SuperAdmin.user (h : SuperAdmin s id) : ∃ u, s.users.lookup id = some u := by
  obtain ⟨u, hu, _⟩ := Option.bind_eq_some_iff.1 h
  exact ⟨u, hu⟩

/-- A super administrator stays one, unless an `UPDATE` of his own row gives him another role. -/
theorem SuperAdmin.stays (hid : SuperAdmin s id) (h : perform op s = .ok (a, s')) (hsave : WritesNoEntity op)
    (hop : ∀ roleId, op = .updateRole id roleId → s.roles.lookup roleId = some "SUPER_ADMIN") : SuperAdmin s' id := by
  obtain ⟨u, hu⟩ := hid.user
  have hrole := roleOf_perform h hsave hu
  cases op with
  | updateRole id' roleId =>
    by_cases heq : id = id'
    · subst heq
      rw [Op.roleAfter, if_pos rfl, hop roleId rfl] at hrole
      exact hrole
    · rw [Op.roleAfter, if_neg heq] at hrole
      exact hrole.trans hid
  | _ => exact hrole.trans hid

end Roles

/-! ## The acting user -/

section Runs
variable {cfg : Config}

/-- The `UPDATE` takes the role from a super administrator. -/
def Demotes (id : Uuid) (roleId : ℕ) (s : State) : Prop := SuperAdmin s id ∧ s.roles.lookup roleId ≠ some "SUPER_ADMIN"

/-- **Whoever demotes a super administrator is one himself**: when the call reads his row, and still when it demotes the other. -/
def ActingHolds (τ : (identity cfg).Trace) : Prop :=
  ∀ n i claims target role roleId b,
    Does τ n i (.updateUserRole (.jwt cfg.jwtSecret claims) target role) (.updateRole target roleId) b → Demotes target roleId b →
    SuperAdmin b claims.sub ∧ ∀ m b', m < n →
      Does τ m i (.updateUserRole (.jwt cfg.jwtSecret claims) target role) (.findUser claims.sub) b' → SuperAdmin b' claims.sub

/-- **Nobody demotes himself**, by the guard of `updateUserRole`. -/
theorem acting_ne_target {Init : State → Prop} {r : (identity cfg).Run Init} (hholds : ActingHolds r.trace) {n i : ℕ} {call : Call}
    {target : Uuid} {roleId : ℕ} {b : State} (hdoes : Does r.trace n i call (.updateRole target roleId) b)
    (hdemotes : Demotes target roleId b) : ∃ acting, acting ≠ target ∧ SuperAdmin b acting := by
  obtain ⟨l, hl, claims, role, x, y, rfl, hsub, hfindRole, hlookup, hfindUser, hguard⟩ :=
    (meets_all r.traced fun call => proc_logs call).1 _ _ _ _ _ hdoes
  obtain ⟨hacting, hread⟩ := hholds n i claims target role roleId b hdoes hdemotes
  refine ⟨claims.sub, fun hself => hguard ⟨hself, ?_, fun hname => hdemotes.2 ?_⟩, hacting⟩
  · have hx : x ∈ l := hsub.subset List.mem_cons_self
    exact hread x.place x.before (hl.lt x hx) (hfindUser ▸ hl.does hx)
  · -- The roles themselves never change.
    have hy : y ∈ l := hsub.subset (List.mem_cons_of_mem _ List.mem_cons_self)
    obtain ⟨hb, _⟩ := hdoes.at r.lawful
    obtain ⟨hb', _⟩ := (hl.does hy).at r.lawful
    have hroles : b.roles = y.before.roles := by
      rw [hb, hb']
      exact same_between (f := fun s : State => s.roles) r.lawful (hl.lt y hy).le fun _ _ _ _ _ _ _ _ _ _ hperf => (perform_frame hperf).roles
    rw [hroles, hlookup, hname]

/-- **The step**: what the service does next leaves a super administrator. -/
theorem hasSuperAdmin_succ {Init : State → Prop} {r : (identity cfg).Run Init}
    (hsaves : ∀ n i call op b, Does r.trace n i call op b → WritesNoEntity op)
    (hholds : ActingHolds r.trace) (n : ℕ) (h : HasSuperAdmin (r.state n)) : HasSuperAdmin (r.state (n + 1)) := by
  rcases stateAt_succ r.lawful n with ⟨i, call, op, b, a, hdoes, rfl, hperf⟩ | hsame
  · have hsave := hsaves n i call op _ hdoes
    obtain ⟨id, hid⟩ := h
    by_cases hop : ∃ roleId, op = .updateRole id roleId ∧ Demotes id roleId (r.state n)
    · obtain ⟨roleId, rfl, hdemotes⟩ := hop
      obtain ⟨acting, hne, hacting⟩ := acting_ne_target hholds hdoes hdemotes
      exact ⟨acting, hacting.stays hperf hsave fun roleId' heq => absurd (Op.updateRole.inj heq).1.symm hne⟩
    · exact ⟨id, hid.stays hperf hsave fun roleId heq => by_contra fun hrole => hop ⟨roleId, heq, hid, hrole⟩⟩
  · unfold Run.state
    rw [hsame]
    exact h

end Runs

/-- **While whoever demotes a super administrator is one himself, every state of a run has a super administrator.** -/
theorem superAdmin_kept {cfg : Config} (r : (identity cfg).Run HasSuperAdmin)
    (hsaves : ∀ n i call op b, Does r.trace n i call op b → WritesNoEntity op) (hholds : ActingHolds r.trace) (n : ℕ) :
    HasSuperAdmin (r.state n) := by
  induction n with
  | zero => exact r.starts
  | succ n ih => exact hasSuperAdmin_succ hsaves hholds n ih

/-! ## Two administrators demote each other -/

theorem hasSuperAdmin_iff (s : State) : HasSuperAdmin s ↔ ∃ id ∈ s.users.keys, SuperAdmin s id := by
  refine ⟨fun ⟨id, hid⟩ => ⟨id, ?_, hid⟩, fun ⟨id, _, hid⟩ => ⟨id, hid⟩⟩
  obtain ⟨u, hu⟩ := hid.user
  exact AList.mem_keys.1 (AList.lookup_isSome.1 (by rw [hu]; rfl))

instance (s : State) : Decidable (HasSuperAdmin s) := decidable_of_iff' _ (hasSuperAdmin_iff s)

/-- A development setup: passwords are their own hashes, and no mail is sent. -/
def devConfig : Config where
  jwtSecret := "secret"
  refreshSecret := "refresh_secret"
  toLowerCase := String.toLower
  hashActionToken
    | .text s => s
    | .jwt secret claims => secret ++ ":" ++ Nat.repr claims.sub ++ ":" ++ claims.role ++ ":" ++ Nat.repr claims.sessionIssuedAt
  compare password hash := password == hash
  emailVerification := .ok false
  failClosed := true

def sampleUser (email password : String) (roleId : ℕ) : User where
  email := email
  passwordHash := some password
  fullName := email
  phone := none
  avatarUrl := none
  roleId := some roleId
  isActive := true
  emailVerifiedAt := some 0

/-- The seeded roles, and users 1, 2, … with the role of each. -/
def shopOf (roleIds : List ℕ) : State where
  users := roleIds.foldr (fun roleId t => t.insertNew (t.keys.length + 1) (sampleUser (Nat.repr (t.keys.length + 1)) "old" roleId)) ∅
  roles := (((∅ : Table ℕ String).insertNew 1 "SUPER_ADMIN").insertNew 2 "ADMIN").insertNew 3 "CUSTOMER"
  resets := ∅
  refreshToken := fun _ => none
  tokensValidAfter := fun _ => none
  blacklist := fun _ => none
  now := 1000000

/-- The access token a user got at a time. -/
def sampleToken (id : Uuid) (role : String) (now : ℕ) : Token :=
  accessToken devConfig ⟨id, sampleUser (Nat.repr id) "old" 0, some role⟩ role now

/-- The first administrator demotes the second. -/
def demotion : (identity devConfig).Run HasSuperAdmin :=
  .ofSchedule (shopOf [1, 1])
    (.arrive (.updateUserRole (sampleToken 1 "SUPER_ADMIN" 1000000) 2 .customer) :: List.replicate 9 (.go 0)) (by decide)

theorem demotion_kept : (∃ n, ¬ SuperAdmin (demotion.state n) 2) ∧ ∀ n, HasSuperAdmin (demotion.state n) := by
  refine ⟨⟨9, by decide⟩, superAdmin_kept demotion (fun n i call op b hdoes id entity reloaded hop => ?_) ?_⟩
  · have hsave := forall_does (p := fun _ _ _ op => !Op.isSave op) (by decide) hdoes
    rw [hop] at hsave
    cases hsave
  · intro n i claims target role roleId b hdoes hdemotes
    have hcall := forall_does (p := fun _ _ (call : Call) _ => call == .updateUserRole (sampleToken 1 "SUPER_ADMIN" 1000000) 2 .customer)
      (by decide) hdoes
    obtain ⟨htoken, -, -⟩ := Call.updateUserRole.inj (beq_iff_eq.1 hcall)
    obtain ⟨-, rfl⟩ := Token.jwt.inj htoken
    have hheld : ∀ {m call op b'}, Does demotion.trace m i call op b' → SuperAdmin b' 1 := by
      intro m call op b' hdoes'
      obtain ⟨rfl, -⟩ := hdoes'.at demotion.lawful
      have hall : ∀ m < demotion.trace.length, SuperAdmin (demotion.state m) 1 := by decide
      exact hall m hdoes'.lt
    exact ⟨hheld hdoes, fun m b' _ hread => hheld hread⟩

/-- They demote each other. -/
def mutualDemotion : (identity devConfig).Run HasSuperAdmin :=
  .ofSchedule (shopOf [1, 1])
    ([.arrive (.updateUserRole (sampleToken 1 "SUPER_ADMIN" 1000000) 2 .customer),
      .arrive (.updateUserRole (sampleToken 2 "SUPER_ADMIN" 1000000) 1 .customer)] ++
      List.replicate 4 (.go 0) ++ List.replicate 4 (.go 1) ++ [.go 0, .go 1]) (by decide)

/-- Both passed the check, both `UPDATE`s ran: nobody is a super administrator any more. -/
theorem mutualDemotion_leaves_none : ¬ ∀ cfg, ∀ r : (identity cfg).Run HasSuperAdmin,
    (∀ n i call op b, Does r.trace n i call op b → WritesNoEntity op) → ∀ n, HasSuperAdmin (r.state n) := by
  intro hall
  have hsaves : ∀ n i call op b, Does mutualDemotion.trace n i call op b → WritesNoEntity op := by
    intro n i call op b hdoes id entity reloaded hop
    have hsave := forall_does (p := fun _ _ _ op => !Op.isSave op) (by decide) hdoes
    rw [hop] at hsave
    cases hsave
  exact absurd (hall devConfig mutualDemotion hsaves mutualDemotion.trace.length) (by decide)

end Balii.Identity
