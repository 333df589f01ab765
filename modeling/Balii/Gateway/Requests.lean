import Balii.Lib.Route
/-!
# Requests — what the gateway does with the path of a request

`getRule`, `isInternalOnlyRequest` and `resolveTarget` read the path as the client wrote it.  The request goes on to a service
with the path of a new URL, and there to the handler a router finds.
-/
namespace Balii.Gateway

open Http

structure RateRule where
  name : String
  limit : ℕ
  windowSeconds : ℕ
  deriving DecidableEq

def getRule (method : Method) (path : Text) : Option RateRule :=
  let path := lower path
  if method = .post ∧ path = "/auth/login".toList then some ⟨"login", 5, 15 * 60⟩
  else if method = .post ∧ ["/auth/forgot-password".toList, "/auth/resend-verification".toList].contains path then
    some ⟨"auth-email", 3, 15 * 60⟩
  else if method = .post ∧ path = "/auth/register".toList then some ⟨"register", 5, 60 * 60⟩
  else if method = .post ∧ path = "/auth/reset-password".toList then some ⟨"reset-password", 5, 15 * 60⟩
  else if method = .post ∧ path = "/auth/refresh".toList then some ⟨"refresh", 30, 60⟩
  else if method = .post ∧ "/try-on".toList <+: path then some ⟨"try-on", 10, 60 * 60⟩
  else if method = .post ∧ ("/chatbot/chat".toList <+: path ∨ "/chatbot/recommendations".toList <+: path) then
    some ⟨"chatbot", 30, 60⟩
  else if method = .post ∧ path = "/payments".toList then some ⟨"payments", 10, 60⟩
  else if [Method.post, .patch, .delete].contains method ∧ "/cart".toList <+: path then some ⟨"cart-mutation", 120, 60⟩
  else none

/-- `/^\/orders\/[^/]+\/payment-status$/`. -/
def isPaymentStatusPath (path : Text) : Bool :=
  match segments path with
  | [s₀, s₁, s₂, s₃] => s₀.isEmpty && s₁ == "orders".toList && !s₂.isEmpty && s₃ == "payment-status".toList
  | _ => false

def isInternalOnlyRequest (method : Method) (path : Text) : Bool :=
  if method = .patch ∧ isPaymentStatusPath path = true then true
  else if method = .get ∧ path = "/cart/internal/checkout".toList then true
  else method == .post && ["/payments/workflow/start".toList, "/payments/outbox/publish".toList].contains path

inductive Service
  | user
  | product
  | cart
  | order
  | payment
  | voucher
  | tryOn
  | chatbot
  | marketAnalysis
  deriving DecidableEq

def routeTargets : List (String × Service) :=
  [("/auth", .user), ("/users", .user), ("/locations", .user), ("/products", .product), ("/variants", .product),
    ("/categories", .product), ("/campaigns", .product), ("/collections", .product), ("/cart", .cart), ("/orders", .order),
    ("/payments", .payment), ("/vouchers", .voucher), ("/admin/inventory-movements", .product), ("/admin/vouchers", .voucher),
    ("/admin/market-analysis", .marketAnalysis), ("/try-on", .tryOn), ("/chatbot", .chatbot), ("/market-analysis", .marketAnalysis)]

def resolveTarget (path : Text) : Option Service :=
  (routeTargets.find? fun r => path = r.1.toList ∨ r.1.toList ++ ['/'] <+: path).map Prod.snd

/-- The service a request goes to, unless it is refused. -/
def proxyTarget (path : Text) : Option Service := if "/health".toList <+: path then none else resolveTarget path

/-! ## The handlers of the services -/

def on (method : Method) (paths : List String) : List Handler := paths.map fun path => ⟨method, path.toList⟩

def handlers : Service → List Handler
  | .user =>
    on .get ["/"] ++ on .post ["/auth/register"] ++ on .get ["/auth/test"] ++ on .post ["/auth/login", "/auth/logout"] ++
      on .get ["/auth/verify-email"] ++
      on .post ["/auth/resend-verification", "/auth/refresh", "/auth/forgot-password", "/auth/reset-password"] ++
      on .get ["/auth/google", "/auth/google/callback", "/users/me"] ++ on .patch ["/users/me"] ++ on .get ["/users"] ++
      on .patch ["/users/:id/role", "/users/me/change-password"] ++ on .get ["/users/me/addresses"] ++ on .post ["/users/me/addresses"] ++
      on .patch ["/users/me/addresses/:id"] ++ on .delete ["/users/me/addresses/:id"] ++ on .patch ["/users/me/addresses/:id/default"] ++
      on .get ["/locations/provinces", "/locations/districts", "/locations/wards"]
  | .product =>
    on .post ["/products"] ++ on .get ["/products", "/products/recommend", "/products/slug/:slug", "/products/:id"] ++
      on .patch ["/products/:id"] ++ on .delete ["/products/:id"] ++ on .get ["/products/variants/:variantId/snapshot"] ++
      on .post ["/products/:productId/variants"] ++ on .get ["/products/:productId/variants", "/admin/inventory-movements", "/variants/:id"] ++
      on .patch ["/variants/:id"] ++ on .delete ["/variants/:id"] ++ on .post ["/categories"] ++
      on .get ["/categories", "/categories/:id", "/categories/slug/:slug"] ++ on .patch ["/categories/:id"] ++
      on .delete ["/categories/:id"] ++ on .post ["/products/:productId/images"] ++ on .get ["/products/:productId/images"] ++
      on .patch ["/products/images/:id"] ++ on .delete ["/products/images/:id"] ++ on .post ["/campaigns", "/campaigns/images"] ++
      on .get ["/campaigns", "/campaigns/active", "/campaigns/slug/:slug", "/campaigns/:id"] ++ on .patch ["/campaigns/:id"] ++
      on .delete ["/campaigns/:id"] ++ on .post ["/collections", "/collections/images"] ++
      on .get ["/collections", "/collections/slug/:slug", "/collections/:id"] ++ on .patch ["/collections/:id"] ++
      on .delete ["/collections/:id"]
  | .cart =>
    on .get ["/cart"] ++ on .post ["/cart/items"] ++ on .patch ["/cart/items/:variantId"] ++
      on .delete ["/cart/items/:variantId", "/cart"] ++ on .post ["/cart/merge", "/cart/validate"] ++ on .get ["/cart/internal/checkout"]
  | .order =>
    on .post ["/orders"] ++
      on .get ["/orders", "/orders/admin/dashboard", "/orders/admin/analytics", "/orders/admin/orders",
        "/orders/admin/orders/:id/return-requests", "/orders/admin/return-requests", "/orders/:id/return-requests"] ++
      on .post ["/orders/:id/return-requests"] ++ on .get ["/orders/:id"] ++
      on .patch ["/orders/:id/payment-status", "/orders/admin/orders/:id/status", "/orders/internal/return-requests/:id/refund-result",
        "/orders/admin/return-requests/:id", "/orders/admin/return-requests/:id/receive",
        "/orders/admin/return-requests/:id/complete-manual-refund"]
  | .payment =>
    on .post ["/payments"] ++ on .get ["/payments", "/payments/:id", "/payments/vnpay/return", "/payments/vnpay/ipn"] ++
      on .post ["/payments/webhook/sepay", "/payments/:id/complete", "/payments/:id/fail", "/payments/:id/simulate-success",
        "/payments/workflow/start", "/payments/webhook/:provider", "/payments/refunds/workflow/start",
        "/payments/internal/returns/refund"] ++
      on .get ["/payments/admin/refunds", "/payments/admin/workflow-contexts", "/payments/admin/workflow-overview",
        "/payments/admin/kafka-overview"] ++
      on .post ["/payments/admin/kafka-demo/sync", "/payments/admin/kafka-demo/async"] ++ on .get ["/payments/admin/kafka-demo/status"] ++
      on .post ["/payments/admin/workflow-demo", "/payments/admin/workflow-demo/resolve"] ++ on .get ["/payments/admin/workflows"] ++
      on .post ["/payments/refunds/webhook/:provider", "/payments/outbox/publish"]
  | .voucher =>
    on .get ["/vouchers", "/vouchers/code/:code"] ++ on .post ["/vouchers/validate"] ++ on .get ["/vouchers/me"] ++
      on .post ["/vouchers/:code/save"] ++ on .get ["/vouchers/usages/me", "/admin/vouchers", "/admin/vouchers/:id"] ++
      on .post ["/admin/vouchers"] ++ on .patch ["/admin/vouchers/:id"] ++ on .delete ["/admin/vouchers/:id"]
  | .tryOn =>
    on .post ["/try-on", "/try-on/history/:id/save"] ++ on .get ["/try-on/history", "/try-on/history/:id", "/try-on/stats", "/try-on/:id"] ++
      on .post ["/try-on/sync", "/try-on/product-design/sync", "/try-on/analyze-person"]
  | .chatbot =>
    on .get ["/chatbot/health", "/chatbot/diagnostics"] ++ on .post ["/chatbot/chat", "/chatbot/recommendations", "/chatbot/reindex"]
  | .marketAnalysis =>
    on .post ["/market-analysis/mock", "/market-analysis/crawl-online", "/market-analysis/crawl-shopee", "/market-analysis/crawl-tiktok",
      "/market-analysis/analyze", "/market-analysis/agent"] ++
      on .get ["/market-analysis/products"] ++
      on .post ["/admin/market-analysis/search-by-image", "/admin/market-analysis/search-by-keyword"]

/-- The handler that would get the request. -/
def handlerOf (method : Method) (path : Text) : Option (Service × Handler) :=
  (proxyTarget path).bind fun service => (dispatch (handlers service) method (urlSegments path)).map fun h => (service, h)

end Balii.Gateway
