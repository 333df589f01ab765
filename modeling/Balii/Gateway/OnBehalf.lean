import Balii.Gateway.Guards
/-!
# OnBehalf — a handler runs for whom the token names

Whatever headers a client sends and however it writes the path: what a service reads of the user is what the token says, a handler that
asks for a role runs for a token with the role, and one that is for other services does not run at all.
-/
namespace Balii.Gateway

open Http

/-! ## What is meant -/

/-- Whom the request is from: nobody, or whom a token names that is valid and not revoked. -/
def From (g : Setup) (headers : Headers) : Option JwtPayload → Prop
  | none => headers "authorization" = none ∨ headers "authorization" = some (.text "")
  | some payload => ∃ authorization, headers "authorization" = some (.text authorization) ∧
      startsWith authorization bearer = true ∧ bearerToken authorization ≠ "" ∧ g.verify (bearerToken authorization) = some payload ∧
      g.admits (bearerToken authorization) payload = none

/-- The JWT strategy of the user service reads the same token, with the same secret. -/
structure SameTokens (g : Setup) (passport : String → Option JwtPayload) : Prop where
  empty : passport "" = none
  valid : ∀ authorization payload, startsWith authorization bearer = true → g.verify (bearerToken authorization) = some payload →
    passport authorization = some payload

def userIdOf (who : Option JwtPayload) : Option String := who.bind fun p => nonEmpty p.sub

def emailOf (who : Option JwtPayload) : Option String := who.bind fun p => nonEmpty p.email

def roleOf (who : Option JwtPayload) : Option String := who.bind fun p => nonEmpty p.role

/-- The keys of the gateway and of a service are the same. -/
def Agree (gateway service : Env) : Prop := gateway.gatewayCredential ≠ "" ∧ gateway.gatewayCredential = service.gatewayCredential

/-- Whom a guard lets through; nobody comes through the gateway as another service. -/
def Guard.Allows (platform : Platform) (who : Option JwtPayload) : Guard → Prop
  | .unguarded => True
  | .roles allowed => ∃ role, roleOf who = some role ∧ platform.toUpperCase role ∈ allowed
  | .internal => False
  | .jwt none => who.isSome = true
  | .jwt (some allowed) => ∃ role, roleOf who = some role ∧ role ∈ allowed
  | .signIn strategy => platform.signIn strategy = none

/-! ## The headers that go on -/

def stripped (headers : Headers) : Headers := fun name => if name ∈ ownedHeaders then none else headers name

/-- The headers, with what the token says. -/
def withIdentity (headers : Headers) : Option JwtPayload → Headers
  | none => stripped headers
  | some p => put (put (put (stripped headers) "x-user-id" p.sub) "x-user-email" p.email) "x-user-role" p.role

section
variable {g : Setup} {headers headers' : Headers} {who : Option JwtPayload} {name : String} {r : Request} {host : String}

theorem withIdentity_some (p : JwtPayload) : withIdentity headers (some p) =
    put (put (put (stripped headers) "x-user-id" p.sub) "x-user-email" p.email) "x-user-role" p.role := rfl

theorem put_self (value : Option String) (h : headers name = none) : put headers name value name = (nonEmpty value).map .text := by
  unfold put
  cases nonEmpty value with
  | none => exact h
  | some v => exact Function.update_self ..

theorem put_of_ne {other : String} (value : Option String) (h : name ≠ other) : put headers other value name = headers name := by
  unfold put
  cases nonEmpty value with
  | none => rfl
  | some v => exact Function.update_of_ne h ..

theorem stripped_of_mem (h : name ∈ ownedHeaders) : stripped headers name = none := if_pos h

theorem stripped_of_notMem (h : name ∉ ownedHeaders) : stripped headers name = headers name := if_neg h

theorem withIdentity_other (h : name ≠ "x-user-id" ∧ name ≠ "x-user-email" ∧ name ≠ "x-user-role") :
    withIdentity headers who name = stripped headers name := by
  cases who with
  | none => rfl
  | some p =>
    rw [withIdentity_some, put_of_ne _ h.2.2, put_of_ne _ h.2.1, put_of_ne _ h.1]

theorem withIdentity_userId : withIdentity headers who "x-user-id" = (userIdOf who).map .text := by
  have hnone : stripped headers "x-user-id" = none := stripped_of_mem (by simp [ownedHeaders])
  cases who with
  | none => exact hnone
  | some p =>
    rw [withIdentity_some, put_of_ne _ (by simp), put_of_ne _ (by simp)]
    exact put_self _ hnone

theorem withIdentity_email : withIdentity headers who "x-user-email" = (emailOf who).map .text := by
  have hnone : stripped headers "x-user-email" = none := stripped_of_mem (by simp [ownedHeaders])
  cases who with
  | none => exact hnone
  | some p =>
    rw [withIdentity_some, put_of_ne _ (by simp)]
    exact put_self _ (by rwa [put_of_ne _ (by simp)])

theorem withIdentity_role : withIdentity headers who "x-user-role" = (roleOf who).map .text := by
  have hnone : stripped headers "x-user-role" = none := stripped_of_mem (by simp [ownedHeaders])
  cases who with
  | none => exact hnone
  | some p =>
    rw [withIdentity_some]
    exact put_self _ (by rwa [put_of_ne _ (by simp), put_of_ne _ (by simp)])

theorem authContext_eq : authContext g headers = match headers "authorization" with
    | none => .ok (withIdentity headers none)
    | some (.list _) => .error ⟨500, "Internal server error"⟩
    | some (.text authorization) =>
      if authorization = "" then .ok (withIdentity headers none)
      else if startsWith authorization bearer = false then .error ⟨401, "Invalid authorization header"⟩
      else if bearerToken authorization = "" then .error ⟨401, "Missing access token"⟩
      else match g.verify (bearerToken authorization) with
        | none => .error ⟨401, "Invalid or expired access token"⟩
        | some payload =>
          match g.admits (bearerToken authorization) payload with
          | some refusal => .error refusal
          | none => .ok (withIdentity headers (some payload)) := by
  have hauth : stripped headers "authorization" = headers "authorization" := stripped_of_notMem (by simp [ownedHeaders])
  rw [← hauth]
  rfl

/-- **What the gateway makes of the headers.** -/
theorem authContext_ok : authContext g headers = .ok headers' ↔ ∃ who, From g headers who ∧ headers' = withIdentity headers who := by
  rw [authContext_eq]
  constructor
  · intro h
    split at h
    · rename_i hnone
      exact ⟨none, .inl hnone, (Except.ok.inj h).symm⟩
    · cases h
    · rename_i authorization hauth
      split at h
      · rename_i hempty
        exact ⟨none, .inr (hempty ▸ hauth), (Except.ok.inj h).symm⟩
      · split at h
        · cases h
        · rename_i hstart
          split at h
          · cases h
          · rename_i htoken
            split at h
            · cases h
            · rename_i payload hverify
              split at h
              · cases h
              · rename_i hadmits
                exact ⟨some payload, ⟨authorization, hauth, by simpa using hstart, htoken, hverify, hadmits⟩, (Except.ok.inj h).symm⟩
  · rintro ⟨who, hfrom, rfl⟩
    cases who with
    | none =>
      rcases hfrom with hnone | hempty
      · rw [hnone]
      · rw [hempty]
        exact if_pos rfl
    | some payload =>
      obtain ⟨authorization, hauth, hstart, htoken, hverify, hadmits⟩ := hfrom
      have hne : authorization ≠ "" := by
        rintro rfl
        cases hstart
      simp only [hauth, hne, hstart, Bool.true_eq_false, if_false, htoken, hverify, hadmits]

theorem From.unique {who' : Option JwtPayload} (h : From g headers who) (h' : From g headers who') : who = who' := by
  cases who with
  | none =>
    cases who' with
    | none => rfl
    | some p =>
      obtain ⟨a, hauth, hstart, -⟩ := h'
      rcases h with h | h
      · cases hauth.symm.trans h
      · cases hauth.symm.trans h
        cases hstart
  | some p =>
    obtain ⟨a, hauth, hstart, -, hverify, -⟩ := h
    cases who' with
    | none =>
      rcases h' with h' | h'
      · cases hauth.symm.trans h'
      · cases hauth.symm.trans h'
        cases hstart
    | some p' =>
      obtain ⟨a', hauth', -, -, hverify', -⟩ := h'
      cases hauth.symm.trans hauth'
      exact hverify.symm.trans hverify'

/-! ## What a service reads -/

/-- The headers that the gateway writes for the connection to a service. -/
def writtenHeaders : List String :=
  ["host", "x-forwarded-host", "x-forwarded-proto", "x-forwarded-for", "x-request-id", "x-gateway-service-key", "content-length"]

theorem buildHeaders_copied (h : name ∉ writtenHeaders) : buildHeaders g r host headers name = (headers name).bind (copied name) := by
  simp only [writtenHeaders, List.mem_cons, List.not_mem_nil, or_false, not_or] at h
  unfold buildHeaders
  cases r.payload <;> simp [Function.update_of_ne, h]

theorem buildHeaders_key : buildHeaders g r host headers "x-gateway-service-key" = some g.env.gatewayCredential := by
  unfold buildHeaders
  cases r.payload <;> simp [Function.update]

theorem header_received {sent : String → Option String} (h : name ≠ "set-cookie") : header (received sent) name = sent name := by
  unfold header received
  cases sent name with
  | none => rfl
  | some s => simp [h, HeaderValue.first]

theorem header_forwarded {value : Option String} (hwritten : name ∉ writtenHeaders) (hhop : name ∉ hopHeaders) (hcookie : name ≠ "set-cookie")
    (h : headers name = value.map .text) : header (received (buildHeaders g r host headers)) name = value := by
  rw [header_received hcookie, buildHeaders_copied hwritten, h]
  cases value with
  | none => rfl
  | some v => exact if_neg hhop

/-- **What reaches a service**: the key of the gateway and no other, the identity that the token gives. -/
theorem forwarded_identity (g : Setup) (r : Request) (host : String) (headers : Headers) (who : Option JwtPayload) :
    header (received (buildHeaders g r host (withIdentity headers who))) "x-gateway-service-key" =
      some g.env.gatewayCredential ∧
    header (received (buildHeaders g r host (withIdentity headers who))) "x-internal-service-key" = none ∧
    header (received (buildHeaders g r host (withIdentity headers who))) "x-user-id" = userIdOf who ∧
    header (received (buildHeaders g r host (withIdentity headers who))) "x-user-email" = emailOf who ∧
    header (received (buildHeaders g r host (withIdentity headers who))) "x-user-role" = roleOf who := by
  have hinternal : withIdentity headers who "x-internal-service-key" = (none : Option String).map .text := by
    rw [withIdentity_other (by simp)]
    exact stripped_of_mem (by simp [ownedHeaders])
  refine ⟨?_, ?_, ?_, ?_, ?_⟩
  · rw [header_received (by simp), buildHeaders_key]
  · exact header_forwarded (by simp [writtenHeaders]) (by simp [hopHeaders]) (by simp) hinternal
  · exact header_forwarded (by simp [writtenHeaders]) (by simp [hopHeaders]) (by simp) withIdentity_userId
  · exact header_forwarded (by simp [writtenHeaders]) (by simp [hopHeaders]) (by simp) withIdentity_email
  · exact header_forwarded (by simp [writtenHeaders]) (by simp [hopHeaders]) (by simp) withIdentity_role

theorem forwarded_authorization (value : Option String) (h : headers "authorization" = value.map .text) :
    header (received (buildHeaders g r host (withIdentity headers who))) "authorization" = value := by
  refine header_forwarded (by simp [writtenHeaders]) (by simp [hopHeaders]) (by simp) ?_
  rwa [withIdentity_other (by simp), stripped_of_notMem (by simp [ownedHeaders])]

/-! ## The keys and the guards -/

variable {platform : Platform} {e : Env} {passport : String → Option JwtPayload} {guard : Guard}

theorem nonEmpty_some {s : String} (h : s ≠ "") : nonEmpty (some s) = some s := by simp [nonEmpty, h]

theorem nonEmpty_nonEmpty (value : Option String) : nonEmpty (nonEmpty value) = nonEmpty value := by
  unfold nonEmpty
  rw [Option.filter_filter]
  simp

theorem nonEmpty_roleOf : nonEmpty (roleOf who) = roleOf who := by
  cases who with
  | none => rfl
  | some p => exact nonEmpty_nonEmpty p.role

theorem safeEqual_some {supplied expected : String} : safeEqual (some supplied) expected = true ↔ supplied ≠ "" ∧ supplied = expected := by
  by_cases h : supplied = ""
  · subst h
    have hfalse : safeEqual (some "") expected = false := rfl
    exact iff_of_false (by simp [hfalse]) fun h => h.1 rfl
  · unfold safeEqual
    rw [nonEmpty_some h]
    dsimp only
    rw [Bool.and_eq_true, bne_iff_ne, beq_iff_eq]
    constructor
    · rintro ⟨-, he⟩
      exact ⟨h, he⟩
    · rintro ⟨-, rfl⟩
      exact ⟨h, rfl⟩

theorem trusted_iff : trusted e (received (buildHeaders g r host (withIdentity headers who))) = true ↔ Agree g.env e := by
  obtain ⟨hkey, hinternal, -⟩ := forwarded_identity g r host headers who
  unfold trusted
  rw [hkey, hinternal, Bool.or_eq_true, safeEqual_some]
  exact or_iff_left (by simp [safeEqual, nonEmpty])

/-- **A guard behind the gateway** asks after the token, not after what the client sent. -/
theorem refusal_none_iff (same : SameTokens g passport) (hfrom : From g headers who) :
    guard.refusal platform e passport (received (buildHeaders g r host (withIdentity headers who))) = none ↔ guard.Allows platform who := by
  obtain ⟨-, hinternal, -, -, hrole⟩ := forwarded_identity g r host headers who
  cases guard with
  | unguarded => exact iff_of_true rfl trivial
  | roles allowed =>
    unfold Guard.refusal Guard.Allows
    rw [hrole, nonEmpty_roleOf]
    cases roleOf who with
    | none => simp
    | some role => by_cases h : platform.toUpperCase role ∈ allowed <;> simp [h]
  | signIn strategy => exact Iff.rfl
  | internal =>
    unfold Guard.refusal Guard.Allows
    rw [hinternal]
    simp [nonEmpty]
  | jwt allowed =>
    have huser : (header (received (buildHeaders g r host (withIdentity headers who))) "authorization").bind passport = who := by
      cases who with
      | none =>
        rcases hfrom with hnone | hempty
        · rw [forwarded_authorization none hnone]
          rfl
        · rw [forwarded_authorization (some "") hempty]
          exact same.empty
      | some payload =>
        obtain ⟨authorization, hauth, hstart, -, hverify, -⟩ := hfrom
        rw [forwarded_authorization (some authorization) hauth]
        exact same.valid authorization payload hstart hverify
    unfold Guard.refusal
    dsimp only
    rw [huser]
    cases allowed with
    | none => cases who <;> simp [Guard.Allows]
    | some allowed =>
      cases who with
      | none => simp [Guard.Allows, roleOf]
      | some payload =>
        unfold Guard.Allows
        simp only [roleOf, Option.bind_some]
        cases nonEmpty payload.role with
        | none => simp
        | some role => by_cases h : role ∈ allowed <;> simp [h]

/-! ## A request through the gateway -/

variable {services : Service → Env} {hosts : Service → String} {limiter : Option String → Option Refusal} {service : Service} {h : Handler}

theorem serve_handled {service' : Service} {method : Method} {segs : List Text} {seen : Headers} :
    serve platform e passport service' method segs headers = .handled service h seen ↔
      service' = service ∧ trusted e headers = true ∧ dispatch (handlers service) method segs = some h ∧
        (guardOf service h).refusal platform e passport headers = none ∧ platform.pipes service h = none ∧ seen = headers := by
  unfold serve
  cases trusted e headers with
  | false => simp
  | true =>
    simp only [Bool.true_eq_false, if_false, true_and]
    constructor
    · intro hserve
      split at hserve
      · cases hserve
      · rename_i h' hdispatch
        split at hserve
        · cases hserve
        · rename_i hrefusal
          cases hserve
          obtain ⟨hguard, hpipes⟩ := Option.or_eq_none_iff.1 hrefusal
          exact ⟨rfl, hdispatch, hguard, hpipes, rfl⟩
    · rintro ⟨rfl, hdispatch, hguard, hpipes, rfl⟩
      rw [hdispatch]
      dsimp only
      rw [hguard, hpipes, Option.none_or]

theorem handlerOf_some {method : Method} {path : Text} : handlerOf method path = some (service, h) ↔
    ¬ "/health".toList <+: path ∧ resolveTarget path = some service ∧ dispatch (handlers service) method (urlSegments path) = some h := by
  unfold handlerOf proxyTarget
  by_cases hhealth : "/health".toList <+: path
  · rw [if_pos hhealth]
    exact iff_of_false (fun he => by cases he) fun he => he.1 hhealth
  · rw [if_neg hhealth, Option.bind_eq_some_iff]
    constructor
    · rintro ⟨service', htarget, hmap⟩
      obtain ⟨h', hdispatch, he⟩ := Option.map_eq_some_iff.1 hmap
      cases he
      exact ⟨hhealth, htarget, hdispatch⟩
    · rintro ⟨-, htarget, hdispatch⟩
      exact ⟨service, htarget, by rw [hdispatch]; rfl⟩

/-- The steps that a request has behind it when a handler runs. -/
theorem throughGateway_handled {seen : Headers} : throughGateway g platform services hosts passport limiter r = .handled service h seen ↔
    ∃ who, platform.body = none ∧ From g r.headers who ∧ limiter (userIdOf who) = none ∧ isInternalOnlyRequest r.method r.path = false ∧
      ¬ "/health".toList <+: r.path ∧ resolveTarget r.path = some service ∧
      serve platform (services service) passport service r.method (urlSegments r.path)
        (received (buildHeaders g r (hosts service) (withIdentity r.headers who))) = .handled service h seen := by
  have hid : ∀ who, header (withIdentity r.headers who) "x-user-id" = userIdOf who := by
    intro who
    unfold header
    rw [withIdentity_userId]
    cases userIdOf who <;> rfl
  unfold throughGateway
  constructor
  · intro hgateway
    split at hgateway
    · cases hgateway
    · rename_i headers hcontext
      have hbody : platform.body = none := by
        cases hb : platform.body with
        | none => rfl
        | some refusal =>
          rw [hb] at hcontext
          cases hcontext
      rw [hbody] at hcontext
      obtain ⟨who, hfrom, rfl⟩ := authContext_ok.1 hcontext
      rw [hid] at hgateway
      split at hgateway
      · cases hgateway
      · rename_i hlimiter
        split at hgateway
        · cases hgateway
        · rename_i hhealth
          split at hgateway
          · cases hgateway
          · rename_i hinternal
            split at hgateway
            · cases hgateway
            · rename_i service' htarget
              obtain ⟨rfl, -⟩ := serve_handled.1 hgateway
              exact ⟨who, hbody, hfrom, hlimiter, by simpa using hinternal, hhealth, htarget, hgateway⟩
  · rintro ⟨who, hbody, hfrom, hlimiter, hinternal, hhealth, htarget, hserve⟩
    rw [hbody, Option.elim_none, authContext_ok.2 ⟨who, hfrom, rfl⟩]
    dsimp only
    rw [hid, hlimiter]
    dsimp only
    rw [if_neg hhealth, hinternal, if_neg Bool.false_ne_true, htarget]
    exact hserve

/-- **A handler runs exactly on behalf of whom the token names**: for nobody where there is no token, with the role or the sign-in that
its guard asks for, never as another service, with what the pipes let through; and it reads of the user what the token says. -/
theorem handled_on_behalf (same : SameTokens g passport) (r : Request) (service : Service) (h : Handler) :
    ((∃ seen, throughGateway g platform services hosts passport limiter r = .handled service h seen) ↔
      platform.body = none ∧ platform.pipes service h = none ∧ ∃ who, From g r.headers who ∧ limiter (userIdOf who) = none ∧
        isInternalOnlyRequest r.method r.path = false ∧ handlerOf r.method r.path = some (service, h) ∧
        Agree g.env (services service) ∧ (guardOf service h).Allows platform who) ∧
      ∀ seen, throughGateway g platform services hosts passport limiter r = .handled service h seen → ∀ who, From g r.headers who →
        header seen "x-user-id" = userIdOf who ∧ header seen "x-user-email" = emailOf who ∧ header seen "x-user-role" = roleOf who := by
  refine ⟨⟨?_, ?_⟩, ?_⟩
  · rintro ⟨seen, hgateway⟩
    obtain ⟨who, hbody, hfrom, hlimiter, hinternal, hhealth, htarget, hserve⟩ := throughGateway_handled.1 hgateway
    obtain ⟨-, htrusted, hdispatch, hguard, hpipes, -⟩ := serve_handled.1 hserve
    exact ⟨hbody, hpipes, who, hfrom, hlimiter, hinternal, handlerOf_some.2 ⟨hhealth, htarget, hdispatch⟩, trusted_iff.1 htrusted,
      (refusal_none_iff same hfrom).1 hguard⟩
  · rintro ⟨hbody, hpipes, who, hfrom, hlimiter, hinternal, hhandler, hagree, hallows⟩
    obtain ⟨hhealth, htarget, hdispatch⟩ := handlerOf_some.1 hhandler
    exact ⟨_, throughGateway_handled.2 ⟨who, hbody, hfrom, hlimiter, hinternal, hhealth, htarget,
      serve_handled.2 ⟨rfl, trusted_iff.2 hagree, hdispatch, (refusal_none_iff same hfrom).2 hallows, hpipes, rfl⟩⟩⟩
  · intro seen hgateway who hfrom
    obtain ⟨who', -, hfrom', -, -, -, -, hserve⟩ := throughGateway_handled.1 hgateway
    obtain ⟨-, -, -, -, -, rfl⟩ := serve_handled.1 hserve
    obtain rfl := hfrom.unique hfrom'
    exact (forwarded_identity _ _ _ _ _).2.2

end

/-! ### A request with headers of its own -/

/-- The keys of the local setup. -/
def localEnv : Env := ⟨some "balii-local-gateway-secret", some "balii-local-internal-secret", false⟩

/-- A request with a good body that signs nobody in. -/
def samplePlatform : Platform where
  toUpperCase s := String.ofList (s.toList.map Char.toUpper)
  body := none
  signIn _ := some ⟨401, "Unauthorized"⟩
  pipes _ _ := none

def sampleGateway : Setup where
  env := localEnv
  failClosed := true
  verify token := if token = "of-mai" then some ⟨some "7", some "mai@balii.vn", some "CUSTOMER", some 1000⟩ else none
  redis := some ⟨fun _ => none, fun _ => none⟩

def samplePassport (authorization : String) : Option JwtPayload :=
  if startsWith authorization bearer then sampleGateway.verify (bearerToken authorization) else none

/-- The client says it is an administrator, and another service. -/
def posing (method : Method) (path : String) : Request where
  method := method
  path := path.toList
  headers name :=
    if name = "authorization" then some (.text "Bearer of-mai")
    else if name = "x-user-role" then some (.text "SUPER_ADMIN")
    else if name = "x-internal-service-key" then some (.text "balii-local-internal-secret")
    else none
  protocol := "https"
  ip := some "203.0.113.7"
  payload := none
  newId := "id"

theorem samplePassport_same : SameTokens sampleGateway samplePassport where
  empty := rfl
  valid authorization payload hstart hverify := by
    unfold samplePassport
    rw [if_pos hstart, hverify]

theorem customer_notMem : samplePlatform.toUpperCase "CUSTOMER" ∉ admins := by decide

theorem posing_from (method : Method) (path : String) :
    From sampleGateway (posing method path).headers (some ⟨some "7", some "mai@balii.vn", some "CUSTOMER", some 1000⟩) :=
  ⟨"Bearer of-mai", rfl, rfl, by decide, rfl, rfl⟩

def posed (method : Method) (path : String) : Answer :=
  throughGateway sampleGateway samplePlatform (fun _ => localEnv) (fun _ => "service") samplePassport (fun _ => none) (posing method path)

/-- The cart is shown to Mai; the orders of all are not, and neither is the checkout that is for the order service; and with a wrong
password she is not signed in. -/
theorem posing_is_mai :
    (∃ seen, posed .get "/cart" = .handled .cart ⟨.get, "/cart".toList⟩ seen ∧ header seen "x-user-role" = some "CUSTOMER") ∧
      (¬ ∃ seen, posed .get "/orders/admin/orders" = .handled .order ⟨.get, "/orders/admin/orders".toList⟩ seen) ∧
      (¬ ∃ seen, posed .get "/cart/internal/checkout/" = .handled .cart ⟨.get, "/cart/internal/checkout".toList⟩ seen) ∧
      ¬ ∃ seen, posed .post "/auth/login" = .handled .user ⟨.post, "/auth/login".toList⟩ seen := by
  have hall := @handled_on_behalf sampleGateway samplePlatform samplePassport (fun _ => localEnv) (fun _ => "service") (fun _ => none)
    samplePassport_same
  refine ⟨?_, ?_, ?_, ?_⟩
  · obtain ⟨hiff, hreads⟩ := hall (posing .get "/cart") .cart ⟨.get, "/cart".toList⟩
    obtain ⟨seen, hseen⟩ := hiff.2 ⟨rfl, rfl, _, posing_from .get "/cart", rfl, by decide, by decide, ⟨by decide, rfl⟩, trivial⟩
    exact ⟨seen, hseen, (hreads seen hseen _ (posing_from .get "/cart")).2.2⟩
  · intro hruns
    obtain ⟨-, -, who, hfrom, -, -, -, -, hallows⟩ :=
      (hall (posing .get "/orders/admin/orders") .order ⟨.get, "/orders/admin/orders".toList⟩).1.1 hruns
    obtain rfl := (posing_from .get "/orders/admin/orders").unique hfrom
    obtain ⟨role, hrole, hmem⟩ := hallows
    cases hrole
    exact customer_notMem hmem
  · intro hruns
    obtain ⟨-, -, who, -, -, -, -, -, hallows⟩ :=
      (hall (posing .get "/cart/internal/checkout/") .cart ⟨.get, "/cart/internal/checkout".toList⟩).1.1 hruns
    exact hallows
  · intro hruns
    obtain ⟨-, -, who, -, -, -, -, -, hallows⟩ := (hall (posing .post "/auth/login") .user ⟨.post, "/auth/login".toList⟩).1.1 hruns
    cases hallows

end Balii.Gateway
