import Balii.Schema
import Balii.Text
/-!
# Users — the tables of the user service, its keys in Redis, and its clock

Users and their roles, the password resets, and what Redis keeps of the sessions: the hash of a user's one refresh token, the
time before which a user's access tokens are void, the access tokens that were logged out.  `perform` is one statement or one
Redis command.
-/
namespace Balii.Identity

open Rowdb

structure User where
  email : String
  passwordHash : Option String
  fullName : String
  phone : Option String
  avatarUrl : Option String
  roleId : Option ℕ
  isActive : Bool
  emailVerifiedAt : Option ℕ
  deriving DecidableEq

/-- A user as `findOne` with `relations: { role: true }` gives it. -/
structure Account where
  id : Uuid
  user : User
  role : Option String
  deriving DecidableEq

structure PasswordReset where
  userId : Uuid
  token : String
  expiresAt : ℕ
  usedAt : Option ℕ
  deriving DecidableEq

/-- What a session token says of its bearer; `iat` and `exp` in seconds. -/
structure Claims where
  sub : Uuid
  email : String
  role : String
  sessionIssuedAt : ℕ
  iat : ℕ
  exp : ℕ
  deriving DecidableEq

/-- A string someone presents as a token: a JWT signed with a secret, or any other text. -/
inductive Token
  | jwt (secret : String) (claims : Claims)
  | text (s : String)
  deriving DecidableEq

/-- `jwtService.verify`: signed with the secret, and not expired. -/
def Token.verify (secret : String) (now : ℕ) : Token → Option Claims
  | .jwt secret' claims => if secret' = secret ∧ now / 1000 < claims.exp then some claims else none
  | .text _ => none

/-- `jwtService.decode`. -/
def Token.decode : Token → Option Claims
  | .jwt _ claims => some claims
  | .text _ => none

/-- A value in Redis, and when it goes. -/
structure Entry (α : Type) where
  value : α
  expiresAt : ℕ

def Entry.live {α : Type} (now : ℕ) (e : Option (Entry α)) : Option α :=
  e.bind fun e => if now < e.expiresAt then some e.value else none

structure State where
  users : Table Uuid User
  roles : Table ℕ String
  resets : Table Uuid PasswordReset
  refreshToken : Uuid → Option (Entry String)
  tokensValidAfter : Uuid → Option (Entry ℕ)
  blacklist : Token → Option (Entry Unit)
  now : ℕ

inductive Err
  | badRequest (message : String)
  | unauthorized (message : String)
  | forbidden (message : String)
  | notFound (message : String)
  | internal (message : String)
  | lost
  deriving DecidableEq

/-- `UpdateProfileDto`: a field is left out, `null`, or a text. -/
structure ProfileDto where
  fullName : Option (Option String)
  phone : Option (Option String)
  avatarUrl : Option (Option String)
  deriving DecidableEq

inductive Op
  | now
  | pass (ms : ℕ)
  | findUser (id : Uuid)
  | findUserByEmail (email : String)
  | findRole (name : String)
  | updateProfile (id : Uuid) (dto : ProfileDto)
  | updateRole (id : Uuid) (roleId : ℕ)
  | saveUser (id : Uuid) (entity : User) (reloaded : Option User)
  | retireResets (userId : Uuid) (usedAt : ℕ)
  | addReset (id : Uuid) (row : PasswordReset)
  | resetPassword (token : String) (passwordHash : String) (date : ℕ)
  | getRefresh (id : Uuid)
  | setRefresh (id : Uuid) (hash : String) (ttl : ℕ)
  | delRefresh (id : Uuid)
  | getValidAfter (id : Uuid)
  | setValidAfter (id : Uuid) (date : ℕ) (ttl : ℕ)
  | getBlacklist (token : Token)
  | setBlacklist (token : Token) (ttl : ℕ)
  deriving DecidableEq

@[reducible] def Op.Res : Op → Type
  | .now => ℕ
  | .findUser _ => Option Account
  | .findUserByEmail _ => Option Account
  | .findRole _ => Option (ℕ × String)
  | .resetPassword .. => Uuid
  | .getRefresh _ => Option String
  | .getValidAfter _ => Option ℕ
  | .getBlacklist _ => Option Unit
  | _ => Unit

namespace State

/-- The name of the user's role. -/
def roleOf (s : State) (id : Uuid) : Option String := (s.users.lookup id).bind fun u => u.roleId.bind s.roles.lookup

def account (s : State) (id : Uuid) : Option Account := (s.users.lookup id).map fun u => ⟨id, u, s.roleOf id⟩

def accountByEmail (s : State) (email : String) : Option Account :=
  (s.users.find fun _ u => u.email == email).bind fun e => s.account e.1

end State

/-- `update(userId, { fullName, phone, avatarUrl })`: what is `undefined` is left out. -/
def ProfileDto.apply (dto : ProfileDto) (u : User) : User :=
  { u with
    fullName := (dto.fullName.getD none).getD u.fullName
    phone := dto.phone.getD u.phone
    avatarUrl := dto.avatarUrl.getD u.avatarUrl }

/-- One column of a `save`: written when the entity differs from the reloaded row. -/
def column {α : Type} [DecidableEq α] (f : User → α) (entity reloaded current : User) : α :=
  if f entity = f reloaded then f current else f entity

/-- What the `UPDATE` of a `save` makes of the row. -/
def User.saved (entity reloaded current : User) : User where
  email := column User.email entity reloaded current
  passwordHash := column User.passwordHash entity reloaded current
  fullName := column User.fullName entity reloaded current
  phone := column User.phone entity reloaded current
  avatarUrl := column User.avatarUrl entity reloaded current
  roleId := column User.roleId entity reloaded current
  isActive := column User.isActive entity reloaded current
  emailVerifiedAt := column User.emailVerifiedAt entity reloaded current

/-- The transaction of `resetPassword`: the token's row is locked from its check to the commit. -/
def performReset (token passwordHash : String) (date : ℕ) (s : State) : Except Err (Uuid × State) :=
  match s.resets.find fun _ r => r.token == token with
  | none => .error (.badRequest "Token dat lai mat khau khong hop le")
  | some (id, r) =>
    if r.usedAt.isSome then .error (.badRequest "Token dat lai mat khau da duoc su dung")
    else if r.expiresAt < date then .error (.badRequest "Token dat lai mat khau da het han")
    else .ok (r.userId, { s with
      users := s.users.modify r.userId fun u => { u with passwordHash := some passwordHash }
      resets := s.resets.modify id fun r => { r with usedAt := some date } })

/-- One statement or command: its result, and the state it leaves. -/
def perform (op : Op) (s : State) : Except Err (op.Res × State) :=
  match op with
  | .now => .ok (s.now, s)
  | .pass ms => .ok ((), { s with now := s.now + ms })
  | .findUser id => .ok (s.account id, s)
  | .findUserByEmail email => .ok (s.accountByEmail email, s)
  | .findRole name => .ok (s.roles.find fun _ n => n == name, s)
  | .updateProfile id dto =>
    -- `full_name` is `NOT NULL`
    if dto.fullName = some none ∧ (s.users.lookup id).isSome then .error (.internal "null value violates not-null constraint")
    else .ok ((), { s with users := s.users.modify id dto.apply })
  | .updateRole id roleId => .ok ((), { s with users := s.users.modify id fun u => { u with roleId := some roleId } })
  | .saveUser id entity none => .ok ((), { s with users := s.users.insertNew id entity })
  | .saveUser id entity (some reloaded) => .ok ((), { s with users := s.users.modify id (entity.saved reloaded) })
  | .retireResets userId usedAt =>
    let retire := fun r : PasswordReset => if r.userId = userId ∧ r.usedAt = none then { r with usedAt := some usedAt } else r
    .ok ((), { s with resets := s.resets.keys.foldl (fun t id => t.modify id retire) s.resets })
  | .addReset id row =>
    if (s.resets.lookup id).isSome then .error (.internal "duplicate key value violates unique constraint")
    else .ok ((), { s with resets := s.resets.insertNew id row })
  | .resetPassword token passwordHash date => performReset token passwordHash date s
  | .getRefresh id => .ok (Entry.live s.now (s.refreshToken id), s)
  | .setRefresh id hash ttl =>
    .ok ((), { s with refreshToken := Function.update s.refreshToken id (some ⟨hash, s.now + ttl * 1000⟩) })
  | .delRefresh id => .ok ((), { s with refreshToken := Function.update s.refreshToken id none })
  | .getValidAfter id => .ok (Entry.live s.now (s.tokensValidAfter id), s)
  | .setValidAfter id date ttl =>
    .ok ((), { s with tokensValidAfter := Function.update s.tokensValidAfter id (some ⟨date, s.now + ttl * 1000⟩) })
  | .getBlacklist token => .ok (Entry.live s.now (s.blacklist token), s)
  | .setBlacklist token ttl =>
    .ok ((), { s with blacklist := Function.update s.blacklist token (some ⟨(), s.now + ttl * 1000⟩) })

/-! ## What an operation makes of a row -/

/-- The change of the user's row. -/
def Op.effect (op : Op) (s : State) (id : Uuid) (u : User) : User :=
  match op with
  | .updateProfile id' dto => if id = id' then dto.apply u else u
  | .updateRole id' roleId => if id = id' then { u with roleId := some roleId } else u
  | .saveUser id' entity (some reloaded) => if id = id' then entity.saved reloaded u else u
  | .resetPassword token passwordHash date =>
    match performReset token passwordHash date s with
    | .ok (userId, _) => if id = userId then { u with passwordHash := some passwordHash } else u
    | .error _ => u
  | _ => u

section Rows
variable {op : Op} {s s' : State} {a : op.Res} {id : Uuid} {u : User}

theorem performReset_ok {token hash : String} {date : ℕ} {userId : Uuid} {s' : State}
    (h : performReset token hash date s = .ok (userId, s')) :
    ∃ rid r, s.resets.find (fun _ r => r.token == token) = some (rid, r) ∧ r.usedAt = none ∧ date ≤ r.expiresAt ∧ r.userId = userId ∧
      s' = { s with
        users := s.users.modify userId fun u => { u with passwordHash := some hash }
        resets := s.resets.modify rid fun r => { r with usedAt := some date } } := by
  unfold performReset at h
  split at h
  · cases h
  · rename_i rid r hfound
    split at h
    · cases h
    · rename_i hunused
      split at h
      · cases h
      · rename_i hexpiry
        cases h
        exact ⟨rid, r, hfound, by simpa using hunused, by omega, rfl, rfl⟩

theorem updateProfile_ok {dto : ProfileDto} {a : Unit} (h : perform (.updateProfile id dto) s = .ok (a, s')) :
    s' = { s with users := s.users.modify id dto.apply } := by
  unfold perform at h
  dsimp only at h
  split at h
  · cases h
  · cases h
    rfl

theorem lookup_perform (h : perform op s = .ok (a, s')) (hu : s.users.lookup id = some u) :
    s'.users.lookup id = some (op.effect s id u) := by
  have hmodify : ∀ {id' : Uuid} {f : User → User},
      (s.users.modify id' f).lookup id = some (if id = id' then f u else u) := by
    intro id' f
    rw [AList.lookup_modify, hu]
    split <;> rfl
  cases op with
  | updateProfile id' dto =>
    rw [updateProfile_ok h]
    exact hmodify
  | updateRole id' roleId => cases h; exact hmodify
  | saveUser id' entity reloaded =>
    cases reloaded with
    | none =>
      cases h
      show (s.users.insertNew id' entity).lookup id = some u
      rw [AList.lookup_insertNew, hu]
      split <;> rfl
    | some reloaded => cases h; exact hmodify
  | resetPassword token hash date =>
    have hreset : performReset token hash date s = .ok (a, s') := h
    obtain ⟨_, _, _, _, _, rfl, rfl⟩ := performReset_ok hreset
    simp only [Op.effect, hreset]
    exact hmodify
  | addReset id' row =>
    unfold perform at h
    dsimp only at h
    split at h
    · cases h
    · cases h
      exact hu
  | _ => cases h; exact hu

/-- The user whose refresh hash the operation writes. -/
def Op.refreshOf : Op → Option Uuid
  | .setRefresh id _ _ => some id
  | .delRefresh id => some id
  | _ => none

/-- The user whose tokens the operation makes void. -/
def Op.validAfterOf : Op → Option Uuid
  | .setValidAfter id _ _ => some id
  | _ => none

/-- Whether the operation writes to the password resets. -/
def Op.writesResets : Op → Bool
  | .retireResets .. => true
  | .addReset .. => true
  | .resetPassword .. => true
  | _ => false

/-- What an operation leaves as it was. -/
structure Frame (op : Op) (s s' : State) : Prop where
  roles : s'.roles = s.roles
  now : s.now ≤ s'.now
  refreshToken : ∀ id, op.refreshOf ≠ some id → s'.refreshToken id = s.refreshToken id
  tokensValidAfter : ∀ id, op.validAfterOf ≠ some id → s'.tokensValidAfter id = s.tokensValidAfter id
  resets : op.writesResets = false → s'.resets = s.resets

theorem perform_frame (h : perform op s = .ok (a, s')) : Frame op s s' := by
  have same : Frame op s s := ⟨rfl, le_rfl, fun _ _ => rfl, fun _ _ => rfl, fun _ => rfl⟩
  cases op with
  | saveUser id' entity reloaded => cases reloaded <;> cases h <;> exact { same with }
  | resetPassword token hash date =>
    obtain ⟨_, _, _, _, _, _, rfl⟩ := performReset_ok h
    exact { same with resets := fun hw => (nomatch hw) }
  | addReset id' row =>
    unfold perform at h
    dsimp only at h
    split at h
    · cases h
    · cases h
      exact { same with resets := fun hw => (nomatch hw) }
  | retireResets userId usedAt => cases h; exact { same with resets := fun hw => (nomatch hw) }
  | pass ms => cases h; exact { same with now := Nat.le_add_right _ _ }
  | setRefresh id' hash ttl =>
    cases h
    exact { same with refreshToken := fun id hne => Function.update_of_ne (fun he => hne (congrArg some he.symm)) _ _ }
  | delRefresh id' =>
    cases h
    exact { same with refreshToken := fun id hne => Function.update_of_ne (fun he => hne (congrArg some he.symm)) _ _ }
  | setValidAfter id' date ttl =>
    cases h
    exact { same with tokensValidAfter := fun id hne => Function.update_of_ne (fun he => hne (congrArg some he.symm)) _ _ }
  | setBlacklist token ttl => cases h; exact { same with }
  | updateProfile id' dto =>
    rw [updateProfile_ok h]
    exact { same with }
  | updateRole id' roleId => cases h; exact { same with }
  | _ => cases h; exact same

end Rows

end Balii.Identity
