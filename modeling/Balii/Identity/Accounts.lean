import Balii.Identity.Service
import Balii.Lib.Threads
/-!
# Accounts — how an account comes about and its address is confirmed

Registration, the link that confirms an address, its resending, the sign-in with Google and the change of a password, statement by
statement and next to each other.  What the transaction of a sign-in writes is there for the others when it commits; the other
statements that write a user leave the address and the mark that it is confirmed.
-/
namespace Balii.Identity

open Threads

/-! ## The data -/

structure EmailVerification where
  userId : Uuid
  token : String
  expiresAt : ℕ
  usedAt : Option ℕ
  deriving DecidableEq

/-- A row of `oauth_accounts`; the provider is Google. -/
structure OAuthAccount where
  userId : Uuid
  providerUserId : String
  deriving DecidableEq

structure AccountStore where
  users : Table Uuid User
  verifications : Table Uuid EmailVerification
  oauthAccounts : Table Uuid OAuthAccount

structure RegisterDto where
  email : String
  password : String
  fullName : String
  phone : Option String
  deriving DecidableEq

structure GoogleUserProfile where
  providerUserId : String
  email : String
  emailVerified : Bool
  fullName : String
  avatarUrl : Option String
  deriving DecidableEq

/-- What comes from outside to a statement: new ids, a new hash or random token, the time. -/
structure Outside where
  id : Uuid
  text : String
  now : ℕ

inductive AccountReply
  | registered (message : String) (userId : Uuid) (requiresEmailVerification : Bool)
  | message (text : String)
  | signedIn (userId : Uuid)
  deriving DecidableEq

/-- What an open transaction has written. -/
inductive AccountWrite
  | newUser (id : Uuid) (user : User)
  | savedUser (id : Uuid) (user : User) (reloaded : Option User)
  | newLink (id : Uuid) (row : OAuthAccount)

/-- A call, at the statement that is next. -/
inductive Session
  | registering (dto : RegisterDto)
  /-- `bcrypt.hash`, for the address in its normal form. -/
  | hashing (dto : RegisterDto) (email : String)
  | inserting (user : User)
  /-- `save` of a user that is there: it reads the row, then it writes what differs. -/
  | saving (id : Uuid) (user : User) (reply : AccountReply)
  | updating (id : Uuid) (user : User) (reloaded : Option User) (reply : AccountReply)
  /-- The new link is stored for the user, and sent to the address. -/
  | issuing (id : Uuid) (email : String) (reply : AccountReply)
  | mailing (email : String) (token : String) (reply : AccountReply)
  | verifying (token : String)
  | confirming (recordId : Uuid) (record : EmailVerification)
  | marking (recordId : Uuid)
  | resending (email : String)
  | confirmingUnasked (id : Uuid)
  | retiring (id : Uuid) (email : String)
  | signingIn (profile : GoogleUserProfile)
  | finding (profile : GoogleUserProfile)
  | creating (profile : GoogleUserProfile) (user : User)
  | reviving (profile : GoogleUserProfile) (id : Uuid) (user : User)
  | rewriting (profile : GoogleUserProfile) (id : Uuid) (user : User) (reloaded : Option User)
  | linking (profile : GoogleUserProfile) (userId : Uuid) (written : List AccountWrite)
  | committing (profile : GoogleUserProfile) (userId : Uuid) (written : List AccountWrite)
  | loading (userId : Uuid)
  | changingPassword (userId : Uuid) (oldPassword newPassword : String)
  | ended (result : Except Err AccountReply)

namespace AccountStore

def userByEmail (s : AccountStore) (email : String) : Option (Uuid × User) := s.users.find fun _ u => u.email == email

def record (s : AccountStore) (token : String) : Option (Uuid × EmailVerification) := s.verifications.find fun _ r => r.token == token

def linked (s : AccountStore) (providerUserId : String) : Option (Uuid × OAuthAccount) :=
  s.oauthAccounts.find fun _ o => o.providerUserId == providerUserId

def setUsers (s : AccountStore) (users : Table Uuid User) : AccountStore := { s with users }

end AccountStore

/-- What a unique column says to a second row. -/
def duplicate : Err := .internal "duplicate key value violates unique constraint"

def genericResent : AccountReply :=
  .message "Nếu tài khoản tồn tại và chưa xác thực, hệ thống sẽ gửi email hướng dẫn."

/-- `INSERT INTO users`, the address and the id being unique. -/
def insertUser (s : AccountStore) (id : Uuid) (user : User) : Except Err AccountStore :=
  if (s.userByEmail user.email).isSome ∨ (s.users.lookup id).isSome then .error duplicate
  else .ok (s.setUsers (s.users.insertNew id user))

/-- The write of a `save`, after its reading: what differs, or the user as a new one. -/
def saveUser (s : AccountStore) (id : Uuid) (user : User) : Option User → Except Err AccountStore
  | none => insertUser s id user
  | some reloaded => .ok (s.setUsers (s.users.modify id (user.saved reloaded)))

/-- `INSERT INTO email_verifications`. -/
def insertRecord (s : AccountStore) (id : Uuid) (row : EmailVerification) : Except Err AccountStore :=
  if (s.record row.token).isSome ∨ (s.verifications.lookup id).isSome then .error duplicate
  else .ok { s with verifications := s.verifications.insertNew id row }

/-- `INSERT INTO oauth_accounts`. -/
def insertLink (s : AccountStore) (id : Uuid) (row : OAuthAccount) : Except Err AccountStore :=
  if (s.linked row.providerUserId).isSome ∨ (s.oauthAccounts.lookup id).isSome then .error duplicate
  else .ok { s with oauthAccounts := s.oauthAccounts.insertNew id row }

def AccountWrite.perform (s : AccountStore) : AccountWrite → Except Err AccountStore
  | newUser id user => insertUser s id user
  | savedUser id user reloaded => saveUser s id user reloaded
  | newLink id row => insertLink s id row

/-- What a transaction sees that has written this.  PostgreSQL lets a statement wait while another transaction has written the same
key and is open; here the statement goes on, and one of the two finds the key taken when it commits. -/
def AccountStore.after (s : AccountStore) (written : List AccountWrite) : Except Err AccountStore :=
  written.foldlM AccountWrite.perform s

section
variable (cfg : Config) (customerRole : Option ℕ)

/-- The user that a first sign-in makes. -/
def googleUser (profile : GoogleUserProfile) (email : String) (roleId : ℕ) (now : ℕ) : User where
  email := email
  passwordHash := none
  fullName := if trim profile.fullName = "" then String.ofList (email.toList.takeWhile (· ≠ '@')) else trim profile.fullName
  phone := none
  avatarUrl := profile.avatarUrl
  roleId := some roleId
  isActive := true
  emailVerifiedAt := some now

def lacksAvatar (u : User) : Bool := (u.avatarUrl.getD "") == ""

/-- The sign-in has a picture, and the user has none. -/
def bringsAvatar (profile : GoogleUserProfile) (u : User) : Bool := lacksAvatar u && (profile.avatarUrl.getD "") != ""

/-- What a sign-in makes of the user whose address it is. -/
def googleLinked (profile : GoogleUserProfile) (now : ℕ) (u : User) : User :=
  { u with
    emailVerifiedAt := some (u.emailVerifiedAt.getD now)
    avatarUrl := if bringsAvatar profile u then profile.avatarUrl else u.avatarUrl }

def refusesProfile (profile : GoogleUserProfile) : Bool :=
  profile.providerUserId == "" || cfg.normalized profile.email == "" || !profile.emailVerified

/-- A statement of an open transaction, over what it has written before. -/
def writes (s : AccountStore) (written : List AccountWrite) (next : Session) : AccountStore × Session :=
  match s.after written with
  | .error e => (s, .ended (.error e))
  | .ok _ => (s, next)

/-- What `register` does with the new user: an error of the settings leaves it without a link. -/
def afterInsert (id : Uuid) (user : User) (now : ℕ) : Session :=
  match cfg.emailVerification with
  | .error e => .ended (.error e)
  | .ok false => .saving id { user with emailVerifiedAt := some now } (.registered "Dang ky thanh cong." id false)
  | .ok true => .issuing id user.email (.registered "Dang ky thanh cong. Vui long xac thuc email." id true)

/-- One statement of a call, and what is next. -/
def Session.turn (t : Session) (a : Outside) (s : AccountStore) : AccountStore × Session :=
  match t with
  | .registering dto =>
    match s.userByEmail (cfg.normalized dto.email) with
    | some _ => (s, .ended (.error (.badRequest "Email da ton tai")))
    | none => (s, .hashing dto (cfg.normalized dto.email))
  | .hashing dto email =>
    match customerRole with
    | none => (s, .ended (.error (.badRequest "Khong tim thay vai tro CUSTOMER")))
    | some roleId =>
      (s, .inserting
        { email, passwordHash := some a.text, fullName := dto.fullName, phone := dto.phone, avatarUrl := none, roleId := some roleId,
          isActive := true, emailVerifiedAt := none })
  | .inserting user =>
    match insertUser s a.id user with
    | .error e => (s, .ended (.error e))
    | .ok s => (s, afterInsert cfg a.id user a.now)
  | .saving id user reply => (s, .updating id user (s.users.lookup id) reply)
  | .updating id user reloaded reply =>
    match saveUser s id user reloaded with
    | .error e => (s, .ended (.error e))
    | .ok s => (s, .ended (.ok reply))
  | .issuing id email reply =>
    match insertRecord s a.id ⟨id, cfg.hashActionToken (.text a.text), a.now + 15 * 60 * 1000, none⟩ with
    | .error e => (s, .ended (.error e))
    | .ok s => (s, .mailing email a.text reply)
  | .mailing _ _ reply => (s, .ended (.ok reply))
  | .verifying token =>
    match s.record (cfg.hashActionToken (.text token)) with
    | none => (s, .ended (.error (.badRequest "Token xac thuc khong hop le")))
    | some (id, record) =>
      if record.usedAt.isSome then (s, .ended (.error (.badRequest "Token da duoc su dung")))
      else if record.expiresAt < a.now then (s, .ended (.error (.badRequest "Token da het han")))
      else (s, .confirming id record)
  | .confirming recordId record =>
    (s.setUsers (s.users.modify record.userId fun u => { u with emailVerifiedAt := some a.now }), .marking recordId)
  | .marking recordId =>
    ({ s with verifications := s.verifications.modify recordId fun r => { r with usedAt := some a.now } },
      .ended (.ok (.message "Xac thuc email thanh cong")))
  | .resending email =>
    match s.userByEmail (cfg.normalized email) with
    | none => (s, .ended (.ok genericResent))
    | some (id, user) =>
      if user.emailVerifiedAt.isSome then (s, .ended (.ok genericResent))
      else match cfg.emailVerification with
        | .error e => (s, .ended (.error e))
        | .ok false => (s, .confirmingUnasked id)
        | .ok true => (s, .retiring id user.email)
  | .confirmingUnasked id =>
    (s.setUsers (s.users.modify id fun u => { u with emailVerifiedAt := some a.now }), .ended (.ok genericResent))
  | .retiring id email =>
    let retire := fun r : EmailVerification => if r.userId = id ∧ r.usedAt = none then { r with usedAt := some a.now } else r
    ({ s with verifications := s.verifications.keys.foldl (fun t k => t.modify k retire) s.verifications }, .issuing id email genericResent)
  | .signingIn profile =>
    if refusesProfile cfg profile = true then
      (s, .ended (.error (.unauthorized "Google khong cung cap email da duoc xac minh")))
    else match s.linked profile.providerUserId with
      | some (_, linkedAccount) => (s, .loading linkedAccount.userId)
      | none => (s, .finding profile)
  | .finding profile =>
    match s.userByEmail (cfg.normalized profile.email) with
    | none =>
      match customerRole with
      | none => (s, .ended (.error (.badRequest "Khong tim thay vai tro CUSTOMER")))
      | some roleId => (s, .creating profile (googleUser profile (cfg.normalized profile.email) roleId a.now))
    | some (id, u) =>
      if u.isActive = false then (s, .ended (.error (.unauthorized "Tai khoan da bi khoa")))
      else if u.emailVerifiedAt = none ∨ bringsAvatar profile u = true then (s, .reviving profile id (googleLinked profile a.now u))
      else (s, .linking profile id [])
  | .creating profile user => writes s [.newUser a.id user] (.linking profile a.id [.newUser a.id user])
  | .reviving profile id user => (s, .rewriting profile id user (s.users.lookup id))
  | .rewriting profile id user reloaded => writes s [.savedUser id user reloaded] (.linking profile id [.savedUser id user reloaded])
  | .linking profile userId written =>
    let written := written ++ [.newLink a.id ⟨userId, profile.providerUserId⟩]
    writes s written (.committing profile userId written)
  | .committing _ userId written =>
    match s.after written with
    | .error e => (s, .ended (.error e))
    | .ok s => (s, .loading userId)
  | .loading userId =>
    match s.users.lookup userId with
    | none => (s, .ended (.error (.unauthorized "Tai khoan khong ton tai hoac da bi khoa")))
    | some u =>
      if u.isActive then (s, .ended (.ok (.signedIn userId)))
      else (s, .ended (.error (.unauthorized "Tai khoan khong ton tai hoac da bi khoa")))
  | .changingPassword userId oldPassword newPassword =>
    match s.users.lookup userId with
    | none => (s, .ended (.error (.notFound "User not found")))
    | some user =>
      match user.passwordHash with
      | none => (s, .ended (.error (.internal "data and hash arguments required")))
      | some hash =>
        if cfg.compare oldPassword hash = false then (s, .ended (.error (.badRequest "Mật khẩu cũ không chính xác")))
        else if cfg.compare newPassword hash = true then (s, .ended (.error (.badRequest "Mật khẩu mới phải khác mật khẩu cũ")))
        else (s, .saving userId { user with passwordHash := some a.text } (.message "Đổi mật khẩu thành công"))
  | .ended result => (s, .ended result)

/-- How a call begins. -/
def Session.begins : Session → Prop
  | registering _ | verifying _ | resending _ | signingIn _ | changingPassword .. => True
  | _ => False

/-- What the statements of the profile, the role and the reset of a password change: neither an address nor whether it is confirmed. -/
def AccountStore.Edited (s s' : AccountStore) : Prop :=
  s'.verifications = s.verifications ∧ s'.oauthAccounts = s.oauthAccounts ∧
    ∀ id, (s'.users.lookup id).map (fun u => (u.email, u.emailVerifiedAt)) = (s.users.lookup id).map fun u => (u.email, u.emailVerifiedAt)

/-- The calls next to each other. -/
def accounts : System AccountStore Session Outside where
  starts := Session.begins
  turn := Session.turn cfg customerRole
  broken := .ended (.error .lost)
  others := AccountStore.Edited

end

end Balii.Identity
