import Balii.Json
import Balii.Schema
/-!
# Config — the environment the services run in

What the code reads from its environment variables, the lookup rows it never writes, the hash functions of `node:crypto`
and what the database driver makes of a value.
-/
namespace Balii

/-- What the queries on returns meet in the tables.  The migrations fix both; a deployed database could be altered. -/
structure Columns where
  /-- Whether `order_items` has the `created_at` that `createReturnRequest` orders by. -/
  orderItemsCreatedAt : Bool
  /-- The `n` of `return_requests.status VARCHAR(n)`. -/
  returnStatusLength : ℕ
  returnStatusLength_ge : 20 ≤ returnStatusLength

/-- The columns as the schema and its migrations leave them. -/
def Columns.migrated : Columns := ⟨false, 20, le_rfl⟩

structure Config where
  columns : Columns
  /-- `APP_ENV || NODE_ENV`. -/
  appEnv : String
  /-- `PAYMENT_SIMULATION_ENABLED === 'true'`. -/
  paymentSimulation : Bool
  /-- `PAYMENT_SIMULATION_ALLOW_PRODUCTION === 'true'`. -/
  simulationAllowProduction : Bool
  /-- `PAYMENT_REFUND_SIMULATION_ENABLED === 'true'`. -/
  refundSimulation : Bool
  vnpayHashSecret : Option String
  vnpayTmnCode : Option String
  /-- `VNPAY_PAYMENT_URL`. -/
  vnpayPaymentUrl : Option String
  /-- `VNPAY_RETURN_URL`. -/
  vnpayReturnUrl : Option String
  /-- `VNPAY_IPN_URL`. -/
  vnpayIpnUrl : Option String
  /-- `VNPAY_ENVIRONMENT`. -/
  vnpayEnvironment : Option String
  apiGatewayPublicUrl : Option String
  /-- `new URL('/checkout/vnpay', FRONTEND_URL || 'http://localhost:3000')`, none when that is not a URL. -/
  simulationPage : Option String
  sepayWebhookApiKey : Option String
  /-- `PAYMENT_WEBHOOK_SHARED_SECRET`. -/
  webhookSharedSecret : Option String
  /-- `PAYMENT_ALLOW_UNVERIFIED_WEBHOOKS === 'true'`. -/
  allowUnverifiedWebhooks : Bool
  /-- `FREE_SHIPPING_MIN_AMOUNT ?? 500000` as a number, none when it is not finite. -/
  freeShippingMinimum : Option ℚ
  /-- The base fee of the active shipping method. -/
  shippingBaseFee : Option ℤ
  /-- The known addresses: ward, district, province. -/
  wards : List (ℕ × ℕ × ℕ)
  /-- `RETURN_WINDOW_DAYS` as a number, none when it is not an integer. -/
  returnWindowDays : Option ℤ
  /-- `REFUND_MAX_RETRY_COUNT || 3`. -/
  refundMaxRetryCount : ℕ
  /-- `PAYMENT_RECONCILIATION_MAX_ATTEMPTS || 5`. -/
  reconciliationMaxAttempts : ℕ
  /-- `payment_providers.is_active`. -/
  providerActive : PaymentMethod → Bool
  sha256 : String → String
  hmacSha256 : (secret data : String) → String
  hmacSha512 : (secret data : String) → String
  /-- What the driver writes for a value that is bound to a text parameter. -/
  parameterText : Json → String
  /-- `s.toUpperCase()`. -/
  toUpperCase : String → String
  /-- `UPPER(s)` of the database. -/
  upper : String → String

namespace Config

/-- Whether `return_requests.status` can hold the status. -/
def holdsStatus (c : Config) (s : ReturnStatus) : Bool := s.code.length ≤ c.columns.returnStatusLength

/-- `'manual_refund_pending'` has one character more than the column. -/
theorem not_holdsStatus_manual {c : Config} (h : c.columns = .migrated) : c.holdsStatus .manualRefundPending = false := by
  unfold holdsStatus
  rw [h]
  decide

def isPaymentSimulationEnabled (c : Config) : Bool :=
  c.paymentSimulation && (c.appEnv != "production" || c.simulationAllowProduction)

/-- Whether returns are refunded through the (simulated) provider. -/
def isRefundSimulationEnabled (c : Config) : Bool :=
  c.refundSimulation && (c.appEnv != "production" || c.simulationAllowProduction)

def getReturnWindowDays (c : Config) : ℤ :=
  match c.returnWindowDays with
  | some d => if 1 ≤ d ∧ d ≤ 365 then d else 7
  | none => 7

def getVnpayReturnUrl (c : Config) : String :=
  (c.vnpayReturnUrl.filter fun s => s != "").getD
    ((c.apiGatewayPublicUrl.filter fun s => s != "").getD "http://localhost:4000" ++ "/payments/vnpay/return")

def hashPayload (c : Config) (rawPayload : String) : String := c.sha256 rawPayload

end Config

/-- A callback's query parameters. -/
abbrev VnpayCallbackPayload := List (String × String)

def VnpayCallbackPayload.get (query : VnpayCallbackPayload) (key : String) : Option String :=
  (query.find? fun e => e.1 == key).map fun e => e.2

/-- `value` when it is there and not empty. -/
def nonEmpty (value : Option String) : Option String := value.filter fun s => s != ""

/-- A parameter that is copied into what VNPay signs: not the signature itself, and `acc['__proto__'] = value` sets none. -/
def isSigned (key : String) : Bool := key != "vnp_SecureHash" && key != "vnp_SecureHashType" && key != "__proto__"

/-- The string VNPay signs. -/
def VnpayCallbackPayload.signData (query : VnpayCallbackPayload) : String :=
  buildSortedQuery (query.filter fun e => isSigned e.1)

/-- `verifyVnpaySignature`: the signature over every parameter but the signature itself. -/
def verifyVnpaySignature (c : Config) (query : VnpayCallbackPayload) : Except Err Bool :=
  match nonEmpty c.vnpayHashSecret with
  | none => .error (badRequest "Missing VNPAY_HASH_SECRET")
  | some secret =>
    match nonEmpty (query.get "vnp_SecureHash") with
    | none => .ok false
    | some incoming => .ok (c.hmacSha512 secret query.signData == incoming.toLower)

/-- A shop on its own machine. -/
def sampleConfig : Config where
  columns := .migrated
  appEnv := "development"
  paymentSimulation := true
  simulationAllowProduction := false
  refundSimulation := true
  vnpayHashSecret := some "secret"
  vnpayTmnCode := none
  vnpayPaymentUrl := none
  vnpayReturnUrl := none
  vnpayIpnUrl := none
  vnpayEnvironment := none
  apiGatewayPublicUrl := none
  simulationPage := some "http://localhost:3000/checkout/vnpay"
  sepayWebhookApiKey := some "key"
  webhookSharedSecret := some "shared"
  allowUnverifiedWebhooks := false
  freeShippingMinimum := some 500000
  shippingBaseFee := some 0
  wards := [(1, 1, 1)]
  returnWindowDays := some 7
  refundMaxRetryCount := 3
  reconciliationMaxAttempts := 5
  providerActive := fun _ => true
  sha256 := id
  hmacSha256 := fun secret data => secret ++ data
  hmacSha512 := fun secret data => secret ++ data
  parameterText := Json.text
  toUpperCase := String.toUpper
  upper := String.toUpper

end Balii
