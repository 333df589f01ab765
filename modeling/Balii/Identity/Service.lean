import Balii.Identity.Users
import Balii.Lib.Atomic
/-!
# Service — the user service and the gateway's middleware

`AuthService`, the part of `UsersService` that changes a user, and `GatewayAuthContextMiddleware`, over the operations of
`perform`.  bcrypt and SHA-256 are parameters; what they or the random generator make anew is an answer from outside.
-/
namespace Balii.Identity

open Rowdb

structure Config where
  jwtSecret : String
  refreshSecret : String
  /-- `String.prototype.toLowerCase`. -/
  toLowerCase : String → String
  /-- `createHash('sha256').update(token).digest('hex')`. -/
  hashActionToken : Token → String
  /-- `bcrypt.compare(password, hash)`. -/
  compare : String → String → Bool
  /-- `isEmailVerificationEnabled()`. -/
  emailVerification : Except Err Bool
  /-- Whether a request is refused when Redis cannot be asked. -/
  failClosed : Bool

/-- `email.trim().toLowerCase()`. -/
def Config.normalized (cfg : Config) (email : String) : String := cfg.toLowerCase (trim email)

/-- What comes from outside: a new hash or random token, a new id, which of two things happens first. -/
structure Answer where
  text : String
  id : Uuid
  first : Bool

inductive RoleName
  | customer
  | admin
  | superAdmin
  deriving DecidableEq

/-- `nextRoleName.toUpperCase()`. -/
def RoleName.name : RoleName → String
  | .customer => "CUSTOMER"
  | .admin => "ADMIN"
  | .superAdmin => "SUPER_ADMIN"

/-- The `Authorization` header of a request. -/
inductive Authorization
  | missing
  | other (text : String)
  | bearer (token : Token)
  deriving DecidableEq

/-- The identity headers the gateway sets. -/
structure IdentityHeaders where
  userId : Uuid
  email : Option String
  role : Option String
  deriving DecidableEq

inductive Reply
  | message (text : String)
  | session (access refresh : Token) (user : Account)
  /-- Back to the shop, with the refresh token in a cookie. -/
  | redirected (refresh : Token)
  | profile (account : Option Account)
  | passed (identity : Option IdentityHeaders)
  | refused (status : ℕ) (message : String)
  | done
  deriving DecidableEq

inductive Call
  | login (email password : String)
  /-- The callback of Google, for the user that `GoogleAccountService.validate` has found or made. -/
  | googleCallback (userId : Uuid)
  | refreshToken (userId : Uuid) (token : Token)
  | logout (token : Token)
  | forgotPassword (email : String)
  | resetPassword (token newPassword : String)
  | updateProfile (token : Token) (dto : ProfileDto)
  | updateUserRole (token : Token) (target : Uuid) (role : RoleName)
  | changePassword (token : Token) (oldPassword newPassword : String)
  | request (authorization : Authorization)
  | pass (ms : ℕ)
  deriving DecidableEq

abbrev Procedure (α : Type) : Type := Proc Op Op.Res Call Reply Answer Err α

def act (op : Op) : Procedure op.Res := Proc.trans op

/-- One of the operations of a `Promise.all`, or one whose error is caught. -/
def tryAct (op : Op) : Procedure (Except Err op.Res) := Proc.attempt op

variable (cfg : Config)

/-- `JwtAuthGuard`. -/
def authenticated (token : Token) : Procedure Claims := do
  let now ← act .now
  Proc.need (token.verify cfg.jwtSecret now) (.unauthorized "Unauthorized")

/-- `!user.emailVerifiedAt && this.isEmailVerificationEnabled()`. -/
def requireVerified (user : User) (message : String) : Procedure Unit :=
  if user.emailVerifiedAt.isSome then pure ()
  else do
    let enabled ← Proc.ofExcept cfg.emailVerification
    Proc.ensure (enabled = false) (.unauthorized message)

def validateLocalUser (email password : String) : Procedure Account := do
  let found ← act (.findUserByEmail (cfg.normalized email))
  let account ← Proc.need found (.unauthorized "Email hoac mat khau khong dung")
  let passwordHash ← Proc.need (account.user.passwordHash.filter (· ≠ "")) (.unauthorized "Tai khoan nay dang nhap bang Google")
  Proc.ensure (cfg.compare password passwordHash = true) (.unauthorized "Email hoac mat khau khong dung")
  Proc.ensure (account.user.isActive = true) (.unauthorized "Tai khoan da bi khoa")
  requireVerified cfg account.user "Vui long xac thuc email truoc khi dang nhap"
  pure account

def loadUserWithRole (userId : Uuid) : Procedure Account := do
  let found ← act (.findUser userId)
  let account ← Proc.need found (.unauthorized "Nguoi dung khong ton tai")
  Proc.ensure (account.user.isActive = true) (.unauthorized "Tai khoan da bi khoa")
  requireVerified cfg account.user "Vui long xac thuc email truoc khi tiep tuc"
  pure account

/-- The payload of a session's tokens, signed at `now` to expire after `seconds`. -/
def sessionClaims (account : Account) (role : String) (now seconds : ℕ) : Claims where
  sub := account.id
  email := account.user.email
  role := role
  sessionIssuedAt := now
  iat := now / 1000
  exp := now / 1000 + seconds

def accessToken (account : Account) (role : String) (now : ℕ) : Token :=
  .jwt cfg.jwtSecret (sessionClaims account role now (15 * 60))

def refreshTokenOf (account : Account) (role : String) (now : ℕ) : Token :=
  .jwt cfg.refreshSecret (sessionClaims account role now (7 * 24 * 60 * 60))

/-- `user.role ? user : await this.loadUserWithRole(user.id)`. -/
def hydrate (account : Account) : Procedure Account :=
  if account.role.isSome then pure account else loadUserWithRole cfg account.id

/-- What `login` returns. -/
structure LoginResult where
  accessToken : Token
  refreshToken : Token
  user : Account

def LoginResult.reply (result : LoginResult) : Reply := .session result.accessToken result.refreshToken result.user

def login (account : Account) : Procedure LoginResult := do
  let hydrated ← hydrate cfg account
  let role ← Proc.need hydrated.role (.internal "Cannot read properties of null (reading 'name')")
  let now ← act .now
  act (.setRefresh hydrated.id (cfg.hashActionToken (refreshTokenOf cfg hydrated role now)) (7 * 24 * 60 * 60))
  pure ⟨accessToken cfg hydrated role now, refreshTokenOf cfg hydrated role now, hydrated⟩

/-- `GoogleAuthController.callback`, from the last query of `validate` on. -/
def googleCallback (userId : Uuid) : Procedure Reply := do
  let found ← act (.findUser userId)
  let account ← Proc.need (found.filter fun account => account.user.isActive) (.unauthorized "Tai khoan khong ton tai hoac da bi khoa")
  let result ← login cfg account
  pure (.redirected result.refreshToken)

def refresh (userId : Uuid) (token : Token) : Procedure Reply := do
  let saved ← act (.getRefresh userId)
  Proc.ensure (saved.any (fun hash => hash ≠ "" ∧ hash = cfg.hashActionToken token) = true)
    (.unauthorized "Refresh token khong hop le")
  let account ← loadUserWithRole cfg userId
  let result ← login cfg account
  pure result.reply

def refreshToken (userId : Uuid) (token : Token) : Procedure Reply := do
  let now ← act .now
  let payload ← Proc.need (token.verify cfg.refreshSecret now) (.unauthorized "Refresh token khong hop le")
  Proc.ensure (payload.sub = userId) (.unauthorized "Refresh token khong hop le")
  refresh cfg userId token

def logout (token : Token) : Procedure Reply := do
  let claims ← authenticated cfg token
  act (.delRefresh claims.sub)
  let now ← act .now
  let expiresInSeconds := match token.decode with
    | some decoded => max (decoded.exp - now / 1000) 1
    | none => 15 * 60
  act (.setBlacklist token expiresInSeconds)
  pure (.message "Đăng xuất thành công")

def forgotPassword (email : String) : Procedure Reply := do
  let message := Reply.message
    "Neu email ton tai trong he thong, chung toi da gui huong dan dat lai mat khau."
  let found ← act (.findUserByEmail (cfg.normalized email))
  match found with
  | none => pure message
  | some account => do
    let usedAt ← act .now
    act (.retireResets account.id usedAt)
    let random ← Proc.answer
    let now ← act .now
    act (.addReset random.id ⟨account.id, cfg.hashActionToken (.text random.text), now + 15 * 60 * 1000, none⟩)
    let _ ← Proc.ofExcept cfg.emailVerification
    pure message

def resetPassword (token : String) : Procedure Reply := do
  let hashed ← Proc.answer
  let date ← act .now
  let userId ← act (.resetPassword (cfg.hashActionToken (.text token)) hashed.text date)
  act (.delRefresh userId)
  let now ← act .now
  act (.setValidAfter userId now (15 * 60))
  pure (.message "Dat lai mat khau thanh cong")

/-- `Promise.all([del, set(…, String(Date.now()))])`: the clock is read before or after Redis deletes, and one command goes
on when the other fails. -/
def revokeSessions (userId : Uuid) : Procedure Unit := do
  let order ← Proc.answer
  if order.first = true then do
    let now ← act .now
    let deleted ← tryAct (.delRefresh userId)
    let stored ← tryAct (.setValidAfter userId now (15 * 60))
    let _ ← Proc.ofExcept deleted
    Proc.ofExcept stored
  else do
    let deleted ← tryAct (.delRefresh userId)
    let now ← act .now
    let stored ← tryAct (.setValidAfter userId now (15 * 60))
    let _ ← Proc.ofExcept deleted
    Proc.ofExcept stored

def updateProfile (token : Token) (dto : ProfileDto) : Procedure Reply := do
  let claims ← authenticated cfg token
  act (.updateProfile claims.sub dto)
  let found ← act (.findUser claims.sub)
  let account ← Proc.need found (.notFound "Không tìm thấy user")
  pure (.profile (some account))

def updateUserRole (token : Token) (targetUserId : Uuid) (nextRoleName : RoleName) : Procedure Reply := do
  let claims ← authenticated cfg token
  -- `RolesGuard(['SUPER_ADMIN'])`, on the role the token carries
  Proc.ensure (claims.role = "SUPER_ADMIN") (.forbidden "Bạn không có quyền truy cập")
  let acting ← act (.findUser claims.sub)
  let target ← act (.findUser targetUserId)
  let next ← act (.findRole nextRoleName.name)
  let actingUser ← Proc.need acting (.notFound "Không tìm thấy người dùng thực hiện")
  let targetUser ← Proc.need target (.notFound "Không tìm thấy người dùng cần phân quyền")
  let nextRole ← Proc.need next (.notFound "Không tìm thấy vai trò cần gán")
  Proc.ensure (¬ (actingUser.id = targetUser.id ∧ actingUser.role = some "SUPER_ADMIN" ∧ nextRole.2 ≠ "SUPER_ADMIN"))
    (.badRequest "Không thể tự hạ quyền của chính tài khoản superadmin.")
  act (.updateRole targetUser.id nextRole.1)
  revokeSessions targetUser.id
  let updated ← act (.findUser targetUserId)
  pure (.profile updated)

def changePassword (token : Token) (oldPassword newPassword : String) : Procedure Reply := do
  let claims ← authenticated cfg token
  let found ← act (.findUser claims.sub)
  let account ← Proc.need found (.notFound "User not found")
  let passwordHash ← Proc.need account.user.passwordHash (.internal "data and hash arguments required")
  Proc.ensure (cfg.compare oldPassword passwordHash = true) (.badRequest "Mật khẩu cũ không chính xác")
  Proc.ensure (cfg.compare newPassword passwordHash = false) (.badRequest "Mật khẩu mới phải khác mật khẩu cũ")
  let hashed ← Proc.answer
  let reloaded ← act (.findUser account.id)
  act (.saveUser account.id { account.user with passwordHash := some hashed.text } (reloaded.map Account.user))
  revokeSessions account.id
  pure (.message "Đổi mật khẩu thành công")

/-- The headers a valid access token gives a request. -/
def Claims.identity (claims : Claims) : IdentityHeaders where
  userId := claims.sub
  email := if claims.email = "" then none else some claims.email
  role := if claims.role = "" then none else some claims.role

/-- What the middleware makes of a valid token and of the two readings of Redis. -/
def gatewayDecision (payload : Claims) : Except Err (Option Unit) → Except Err (Option ℕ) → Reply
  | .ok blacklisted, .ok validAfterValue =>
    let validAfter := validAfterValue.getD 0
    if blacklisted.isSome ∨ (0 < validAfter ∧ payload.sessionIssuedAt ≤ validAfter)
    then .refused 401 "Access token has been revoked"
    else .passed (some payload.identity)
  | _, _ =>
    if cfg.failClosed = true
    then .refused 503 "Dịch vụ xác thực đang tạm thời không khả dụng."
    else .passed (some payload.identity)

def useToken (token : Token) : Procedure Reply := do
  let now ← act .now
  match token.verify cfg.jwtSecret now with
  | none => pure (.refused 401 "Invalid or expired access token")
  | some payload => do
    let blacklisted ← tryAct (.getBlacklist token)
    let validAfterValue ← tryAct (.getValidAfter payload.sub)
    pure (gatewayDecision cfg payload blacklisted validAfterValue)

/-- `GatewayAuthContextMiddleware.use`. -/
def use : Authorization → Procedure Reply
  | .missing => pure (.passed none)
  | .other _ => pure (.refused 401 "Invalid authorization header")
  | .bearer token => if token = .text "" then pure (.refused 401 "Missing access token") else useToken cfg token

def Call.proc : Call → Procedure Reply
  | .login email password => do
    let account ← validateLocalUser cfg email password
    let result ← Identity.login cfg account
    pure result.reply
  | .googleCallback userId => Identity.googleCallback cfg userId
  | .refreshToken userId token => Identity.refreshToken cfg userId token
  | .logout token => Identity.logout cfg token
  | .forgotPassword email => Identity.forgotPassword cfg email
  | .resetPassword token _ => Identity.resetPassword cfg token
  | .updateProfile token dto => Identity.updateProfile cfg token dto
  | .updateUserRole token target role => Identity.updateUserRole cfg token target role
  | .changePassword token oldPassword newPassword => Identity.changePassword cfg token oldPassword newPassword
  | .request authorization => use cfg authorization
  | .pass ms => do
    act (.pass ms)
    pure .done

/-- **The user service behind its gateway.** -/
@[reducible] def identity : Atomic where
  State := State
  Err := Err
  Op := Op
  Res := Op.Res
  Call := Call
  Reply := Reply
  Answer := Answer
  perform := perform
  proc := Call.proc cfg
  lost := .lost

end Balii.Identity
