import Balii.Gateway.Requests
import Balii.Config
import Balii.Text
import Mathlib.Logic.Function.Basic
/-!
# Guards — on whose behalf a handler runs

The gateway takes the identity headers off a request, reads the bearer token and sets them anew; it adds its key, and a service turns
away what carries none.  Before the handler a guard reads the role, the token or the key of another service, or signs the user in; then
the pipes read what the handler is given.
-/
namespace Balii.Gateway

open Http

/-! ## Headers -/

/-- Node gives a list where values may not be joined. -/
inductive HeaderValue
  | text (s : String)
  | list (values : List String)
  deriving DecidableEq

/-- `req.headers`; the names are in lower case. -/
abbrev Headers := String → Option HeaderValue

/-- `Array.isArray(value) ? value[0] : value`. -/
def HeaderValue.first : HeaderValue → Option String
  | .text s => some s
  | .list values => values.head?

def header (headers : Headers) (name : String) : Option String := (headers name).bind HeaderValue.first

/-- What the gateway alone may say. -/
def ownedHeaders : List String := ["x-user-id", "x-user-email", "x-user-role", "x-internal-service-key", "x-gateway-service-key"]

/-- `if (value) req.headers[name] = value`. -/
def put (headers : Headers) (name : String) (value : Option String) : Headers :=
  match nonEmpty value with
  | some value => Function.update headers name (some (.text value))
  | none => headers

/-! ## Keys -/

/-- The settings of a process that its keys are read from. -/
structure Env where
  gatewaySecret : Option String
  internalSecret : Option String
  /-- `NODE_ENV === 'production'`. -/
  production : Bool

def Env.developmentCredential (e : Env) : String := if e.production then "" else "balii-local-internal"

def Env.internalCredential (e : Env) : String := (nonEmpty e.internalSecret).getD e.developmentCredential

def Env.gatewayCredential (e : Env) : String := ((nonEmpty e.gatewaySecret).or (nonEmpty e.internalSecret)).getD e.developmentCredential

def safeEqual (supplied : Option String) (expected : String) : Bool :=
  match nonEmpty supplied with
  | none => false
  | some supplied => expected != "" && supplied == expected

/-- `trustedServiceMiddleware`. -/
def trusted (e : Env) (headers : Headers) : Bool :=
  safeEqual (header headers "x-gateway-service-key") e.gatewayCredential ||
    safeEqual (header headers "x-internal-service-key") e.internalCredential

/-! ## The gateway -/

structure JwtPayload where
  sub : Option String
  email : Option String
  role : Option String
  sessionIssuedAt : Option ℕ
  deriving DecidableEq

/-- What Redis has of tokens and sessions. -/
structure Revocations where
  blacklist : String → Option String
  tokensValidAfter : String → Option ℕ

/-- How the gateway is set up. -/
structure Setup where
  env : Env
  /-- Whether a request is refused when Redis cannot be asked. -/
  failClosed : Bool
  /-- `jwtService.verify` with the secret. -/
  verify : String → Option JwtPayload
  /-- `none` where Redis cannot be asked. -/
  redis : Option Revocations

structure Request where
  method : Method
  path : Text
  headers : Headers
  protocol : String
  ip : Option String
  /-- The length of the body, where the gateway has read it. -/
  payload : Option ℕ
  /-- `crypto.randomUUID()`. -/
  newId : String

structure Refusal where
  status : ℕ
  message : String
  deriving DecidableEq

inductive Answer
  | refused (refusal : Refusal)
  /-- No service is asked; the gateway's own routes come next. -/
  | next
  /-- The service has no such route. -/
  | unknown (service : Service)
  | handled (service : Service) (handler : Handler) (headers : Headers)

def Revocations.revokes (redis : Revocations) (token : String) (payload : JwtPayload) : Bool :=
  let validAfter := ((nonEmpty payload.sub).bind redis.tokensValidAfter).getD 0
  redis.blacklist token == some "1" || (decide (0 < validAfter) && decide (payload.sessionIssuedAt.getD 0 ≤ validAfter))

/-- Whether a token that is valid goes through, else what is answered. -/
def Setup.admits (g : Setup) (token : String) (payload : JwtPayload) : Option Refusal :=
  match g.redis with
  | some redis => if redis.revokes token payload then some ⟨401, "Access token has been revoked"⟩ else none
  | none => if g.failClosed then some ⟨503, "Dịch vụ xác thực đang tạm thời không khả dụng."⟩ else none

def bearer : String := "Bearer "

/-- `authorization.slice(7).trim()`. -/
def bearerToken (authorization : String) : String := trim (String.ofList (authorization.toList.drop 7))

/-- `GatewayAuthContextMiddleware.use`: the headers as they go on. -/
def authContext (g : Setup) (headers : Headers) : Except Refusal Headers :=
  let headers : Headers := fun name => if name ∈ ownedHeaders then none else headers name
  match headers "authorization" with
  | none => .ok headers
  -- A list has no `startsWith`.
  | some (.list _) => .error ⟨500, "Internal server error"⟩
  | some (.text authorization) =>
    if authorization = "" then .ok headers
    else if startsWith authorization bearer = false then .error ⟨401, "Invalid authorization header"⟩
    else if bearerToken authorization = "" then .error ⟨401, "Missing access token"⟩
    else match g.verify (bearerToken authorization) with
      | none => .error ⟨401, "Invalid or expired access token"⟩
      | some payload =>
        match g.admits (bearerToken authorization) payload with
        | some refusal => .error refusal
        | none => .ok (put (put (put headers "x-user-id" payload.sub) "x-user-email" payload.email) "x-user-role" payload.role)

/-- The headers that are of one connection only. -/
def hopHeaders : List String := ["host", "connection", "content-length", "transfer-encoding"]

/-- What of a header goes on as it is. -/
def copied (name : String) : HeaderValue → Option String
  | .list values => some (", ".intercalate values)
  | .text s => if name ∈ hopHeaders then none else some s

def buildHeaders (g : Setup) (r : Request) (targetHost : String) (headers : Headers) : String → Option String :=
  let sent : String → Option String := fun name => (headers name).bind (copied name)
  let sent := Function.update sent "host" (some targetHost)
  let sent := Function.update sent "x-forwarded-host" (some ((header headers "host").getD ""))
  let sent := Function.update sent "x-forwarded-proto" (some r.protocol)
  let sent := Function.update sent "x-forwarded-for" (some (r.ip.getD ""))
  let sent := Function.update sent "x-request-id" (some ((header headers "x-request-id").getD r.newId))
  let sent := Function.update sent "x-gateway-service-key" (some g.env.gatewayCredential)
  match r.payload with
  | some length => Function.update sent "content-length" (some (Nat.repr length))
  | none => sent

/-! ## The services -/

/-- The strategies of passport that sign a user in. -/
inductive Strategy
  | local
  | google
  | googleCallback
  deriving DecidableEq

/-- What the language and the frameworks make of a request, besides its headers. -/
structure Platform where
  /-- `String.prototype.toUpperCase`. -/
  toUpperCase : String → String
  /-- What the gateway's body parser answers itself. -/
  body : Option Refusal
  /-- What a sign-in answers itself: an error, or the way to Google. -/
  signIn : Strategy → Option Refusal
  /-- What the body parser, the interceptors and the pipes of a service answer themselves. -/
  pipes : Service → Handler → Option Refusal

/-- What stands before a handler. -/
inductive Guard
  | unguarded
  /-- `HeaderRolesGuard`. -/
  | roles (roles : List String)
  /-- `InternalServiceGuard`. -/
  | internal
  /-- `JwtAuthGuard`, and `RolesGuard` where there is one. -/
  | jwt (roles : Option (List String))
  /-- `AuthGuard('local')` and the guards of Google. -/
  | signIn (strategy : Strategy)
  deriving DecidableEq

def admins : List String := ["ADMIN", "SUPER_ADMIN"]

def superAdmin : List String := ["SUPER_ADMIN"]

/-- The handlers with a guard. -/
def guarded : Service → List (Guard × List Handler)
  | .user =>
    [(.jwt none, on .post ["/auth/logout"] ++ on .get ["/users/me", "/users/me/addresses"] ++
        on .patch ["/users/me", "/users/me/change-password", "/users/me/addresses/:id", "/users/me/addresses/:id/default"] ++
        on .post ["/users/me/addresses"] ++ on .delete ["/users/me/addresses/:id"]),
      (.jwt (some admins), on .get ["/users"]), (.jwt (some superAdmin), on .patch ["/users/:id/role"]),
      (.signIn .local, on .post ["/auth/login"]), (.signIn .google, on .get ["/auth/google"]),
      (.signIn .googleCallback, on .get ["/auth/google/callback"])]
  | .product =>
    [(.roles admins, on .post ["/products", "/products/:productId/variants", "/products/:productId/images", "/categories", "/campaigns",
          "/campaigns/images", "/collections", "/collections/images"] ++
        on .get ["/admin/inventory-movements"] ++
        on .patch ["/products/:id", "/variants/:id", "/products/images/:id", "/categories/:id", "/campaigns/:id", "/collections/:id"] ++
        on .delete ["/categories/:id"]),
      (.roles superAdmin, on .delete ["/products/:id", "/variants/:id", "/products/images/:id", "/campaigns/:id", "/collections/:id"])]
  | .cart => [(.internal, on .get ["/cart/internal/checkout"])]
  | .order =>
    [(.roles admins, on .get ["/orders/admin/dashboard", "/orders/admin/analytics", "/orders/admin/orders",
          "/orders/admin/orders/:id/return-requests", "/orders/admin/return-requests"] ++
        on .patch ["/orders/admin/orders/:id/status", "/orders/admin/return-requests/:id", "/orders/admin/return-requests/:id/receive",
          "/orders/admin/return-requests/:id/complete-manual-refund"]),
      (.internal, on .patch ["/orders/:id/payment-status", "/orders/internal/return-requests/:id/refund-result"])]
  | .payment =>
    [(.roles admins, on .post ["/payments/:id/complete", "/payments/:id/fail", "/payments/workflow/start",
          "/payments/refunds/workflow/start", "/payments/admin/kafka-demo/sync", "/payments/admin/kafka-demo/async",
          "/payments/admin/workflow-demo", "/payments/admin/workflow-demo/resolve"] ++
        on .get ["/payments/admin/refunds", "/payments/admin/workflow-contexts", "/payments/admin/workflow-overview",
          "/payments/admin/kafka-demo/status", "/payments/admin/workflows"]),
      (.roles superAdmin, on .get ["/payments/admin/kafka-overview"] ++ on .post ["/payments/outbox/publish"]),
      (.internal, on .post ["/payments/internal/returns/refund"])]
  | .voucher =>
    [(.roles admins, on .get ["/admin/vouchers", "/admin/vouchers/:id"] ++ on .post ["/admin/vouchers"] ++
        on .patch ["/admin/vouchers/:id"]),
      (.roles superAdmin, on .delete ["/admin/vouchers/:id"])]
  | .tryOn => []
  | .chatbot => [(.roles admins, on .get ["/chatbot/diagnostics"] ++ on .post ["/chatbot/reindex"])]
  | .marketAnalysis => [(.roles admins, handlers .marketAnalysis)]

def guardOf (service : Service) (h : Handler) : Guard := (((guarded service).find? fun g => g.2.contains h).map Prod.fst).getD .unguarded

/-- What a guard answers, unless it lets the request through; `passport` is what the JWT strategy makes of an `Authorization` header. -/
def Guard.refusal (platform : Platform) (e : Env) (passport : String → Option JwtPayload) (headers : Headers) : Guard → Option Refusal
  | .unguarded => none
  | .roles allowed =>
    match nonEmpty (header headers "x-user-role") with
    | none => some ⟨401, "Authentication required"⟩
    | some role => if platform.toUpperCase role ∈ allowed then none else some ⟨403, "Insufficient permissions"⟩
  | .internal =>
    let supplied := header headers "x-internal-service-key"
    if (nonEmpty supplied).isNone || e.internalCredential == "" then some ⟨401, "Internal service authentication required"⟩
    else if supplied = some e.internalCredential then none
    else some ⟨401, "Invalid internal service credential"⟩
  | .jwt allowed =>
    match (header headers "authorization").bind passport with
    | none => some ⟨401, "Unauthorized"⟩
    | some user =>
      match allowed with
      | none => none
      | some allowed =>
        match nonEmpty user.role with
        | none => some ⟨403, "Bạn không có quyền truy cập"⟩
        | some role => if role ∈ allowed then none else some ⟨403, "Bạn không có quyền truy cập"⟩
  | .signIn strategy => platform.signIn strategy

/-- A service: the keys, the router, the guard, the pipes. -/
def serve (platform : Platform) (e : Env) (passport : String → Option JwtPayload) (service : Service) (method : Method)
    (segs : List Text) (headers : Headers) : Answer :=
  if trusted e headers = false then .refused ⟨401, "Request must pass through the API gateway"⟩
  else match dispatch (handlers service) method segs with
    | none => .unknown service
    | some h =>
      match ((guardOf service h).refusal platform e passport headers).or (platform.pipes service h) with
      | some refusal => .refused refusal
      | none => .handled service h headers

/-- How Node reads what was sent. -/
def received (sent : String → Option String) : Headers := fun name =>
  (sent name).map fun s => if name = "set-cookie" then .list [s] else .text s

section
variable (g : Setup) (platform : Platform) (services : Service → Env) (hosts : Service → String) (passport : String → Option JwtPayload)
  (limiter : Option String → Option Refusal)

/-- **A request through the gateway.**  The rate limiter reads the user's id, besides what the client cannot choose. -/
def throughGateway (r : Request) : Answer :=
  match platform.body.elim (authContext g r.headers) .error with
  | .error refusal => .refused refusal
  | .ok headers =>
    match limiter (header headers "x-user-id") with
    | some refusal => .refused refusal
    | none =>
      if "/health".toList <+: r.path then .next
      else if isInternalOnlyRequest r.method r.path = true then .refused ⟨404, "Route not found"⟩
      else match resolveTarget r.path with
        | none => .next
        | some service =>
          serve platform (services service) passport service r.method (urlSegments r.path) (received (buildHeaders g r (hosts service) headers))

end

end Balii.Gateway
