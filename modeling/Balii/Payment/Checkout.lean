import Balii.Config
import Balii.Money
/-!
# Payment.Checkout — the payments made for an order

`createPayment` reuses a payment of the same order and method, renews it when it has expired, or inserts one under the
key `checkout:<order>:<method>`; the workflow's `createOrReusePayment` looks at all payments of the order.
-/
namespace Balii

open Rowdb

/-- `generatePaymentCode` from a random id, and the simulation prefix of `createProviderReference`. -/
def createProviderReference (cfg : Config) (code : String) : String :=
  if cfg.isPaymentSimulationEnabled then "SIM_" ++ code else code

/-- `isPaymentExpired`. -/
def Payment.isExpired (p : Payment) (now : Time) : Bool := p.expiresAt.any fun t => t ≤ now

/-- `Date.now() + 15 * 60 * 1000`, and never for cash on delivery. -/
def checkoutExpiry (method : PaymentMethod) (now : Time) : Option Time :=
  if method = .cod then none else some (now + 15 * 60 * 1000)

/-! ## Where the customer pays -/

/-- What a VNPay URL is built from. -/
structure VnpayPayment where
  orderId : String
  /-- `Math.round(Number(payment.amount) * 100).toString()`. -/
  amount : String
  providerRef : Option String
  clientIp : Option String
  /-- A fresh `generatePaymentCode()`. -/
  paymentCode : String
  /-- `formatVnpayDate(new Date())`. -/
  createDate : String

/-- `payment.providerRef ?? this.generatePaymentCode()`. -/
def VnpayPayment.txnRef (p : VnpayPayment) : String := p.providerRef.getD p.paymentCode

def normalizeVnpayClientIp (clientIp : Option String) : String :=
  match nonEmpty clientIp with
  | none => "127.0.0.1"
  | some ip =>
    let s := trim ip
    let normalized := if startsWith s "::ffff:" then String.ofList (s.toList.drop 7) else s
    if normalized = "::1" then "127.0.0.1" else normalized

def assertVnpayEnvironmentIsSafe (cfg : Config) (paymentUrl returnUrl : String) : Except Err Unit :=
  let isHttps := startsWith returnUrl "https://" && cfg.vnpayIpnUrl.any fun url => startsWith url "https://"
  let isSandbox := includes paymentUrl.toLower "sandbox"
  if cfg.appEnv ≠ "production" ∨ cfg.isPaymentSimulationEnabled = true then .ok ()
  else if isHttps = false then .error (badRequest "VNPay requires public HTTPS Return and IPN URLs.")
  else if cfg.vnpayEnvironment = some "sandbox" then
    if isSandbox = true then .ok ()
    else .error (badRequest "VNPAY_ENVIRONMENT is sandbox but the payment URL is not Sandbox.")
  else if cfg.vnpayEnvironment ≠ some "production" then
    .error (badRequest "VNPay production chưa được kích hoạt bằng bộ cấu hình merchant thật.")
  else if isSandbox = true then
    .error (badRequest "VNPay production chưa được cấu hình: URL thanh toán vẫn là sandbox.")
  else if isHttps = false then
    .error (badRequest "VNPay production yêu cầu Return URL và IPN URL công khai sử dụng HTTPS.")
  else .ok ()

/-- The parameters VNPay's page is asked with. -/
def VnpayPayment.params (p : VnpayPayment) (returnUrl tmnCode : String) : List (String × String) :=
  [("vnp_Amount", p.amount), ("vnp_Command", "pay"), ("vnp_CreateDate", p.createDate), ("vnp_CurrCode", "VND"),
    ("vnp_IpAddr", normalizeVnpayClientIp p.clientIp), ("vnp_Locale", "vn"),
    ("vnp_OrderInfo", "Thanh toan don hang " ++ p.orderId), ("vnp_OrderType", "other"), ("vnp_ReturnUrl", returnUrl),
    ("vnp_TmnCode", tmnCode), ("vnp_TxnRef", p.txnRef), ("vnp_Version", "2.1.0")]

/-- The page of a payment that is only simulated. -/
def simulationUrl (page : String) (paymentRef : String) : String :=
  page ++ "?simulation=true&paymentRef=" ++ formEncode paymentRef

/-- `buildVnpayPaymentUrl`: the URL, or the error of a missing setting. -/
def buildVnpayPaymentUrl (cfg : Config) (p : VnpayPayment) : Except Err String :=
  if cfg.isPaymentSimulationEnabled = true then
    match cfg.simulationPage with
    | none => .error ⟨.typeError, "Invalid URL"⟩
    | some page => .ok (simulationUrl page p.txnRef)
  else
    match nonEmpty cfg.vnpayTmnCode, nonEmpty cfg.vnpayHashSecret, nonEmpty cfg.vnpayPaymentUrl with
    | some tmnCode, some hashSecret, some paymentUrl => do
      assertVnpayEnvironmentIsSafe cfg paymentUrl cfg.getVnpayReturnUrl
      let signData := buildSortedQuery (p.params cfg.getVnpayReturnUrl tmnCode)
      .ok (paymentUrl ++ "?" ++ signData ++ "&vnp_SecureHash=" ++ cfg.hmacSha512 hashSecret signData)
    | _, _, _ => .error (badRequest "VNPay environment is not configured")

/-- The page of the other online methods, by the payment's id. -/
def sandboxUrl (paymentId : Uuid) : String := "http://localhost:4000/payments/sandbox-pay/" ++ Uuid.text paymentId

/-! ## Reading -/

def findReusableCheckoutPayment (orderId userId : Uuid) (method : PaymentMethod) (s : Db) : Option (Uuid × Payment) :=
  (newestFirst Payment.createdAt ((s.rows Tab.payments).select fun _ p =>
    p.orderId == orderId && p.userId == userId && p.method == method && (p.status == .pending || p.status == .paid))).head?

def getPaymentDetail (paymentId : Uuid) (s : Db) : Option (Uuid × Payment) :=
  (s.find Tab.payments paymentId).map fun p => (paymentId, p)

def getPaymentByProviderRef (providerRef : String) (s : Db) : Option (Uuid × Payment) :=
  (s.rows Tab.payments).find fun _ p => p.providerRef == some providerRef

def findPaymentByKey (key : PaymentKey) (s : Db) : Option (Uuid × Payment) :=
  (s.rows Tab.payments).find fun _ p => p.idempotencyKey == some key

/-- The newest payment of the order or with the key. -/
def findExistedPayment (orderId : Uuid) (key : Option PaymentKey) (s : Db) : Option (Uuid × Payment) :=
  (newestFirst Payment.createdAt ((s.rows Tab.payments).select fun _ p =>
    p.orderId == orderId || (key.isSome && p.idempotencyKey == key))).head?

/-! ## Writing -/

def setPaymentUrl (paymentId : Uuid) (paymentUrl : Option String) : Trans Unit :=
  updateRow .payments paymentId fun p => { p with paymentUrl }

/-- A payment's reference is nobody else's. -/
def uniqueProviderRef (paymentId : Uuid) (ref : String) : Trans Unit :=
  uniqueIn (.providerRef ref) .payments (fun id p => id != paymentId && p.providerRef == some ref)
    (uniqueViolation "ux_payments_provider_ref")

def Payment.renew (ref : String) (paymentUrl : Option String) (expiresAt : Option Time) (isSimulated : Bool) (p : Payment) :
    Payment :=
  { p with providerRef := some ref, paymentUrl, expiresAt, isSimulated, failureReason := none }

/-- The `UPDATE` of an expired payment that is still pending. -/
def renewPayment (paymentId : Uuid) (ref : String) (paymentUrl : Option String) (expiresAt : Option Time)
    (isSimulated : Bool) : Trans Unit := do
  let renewed ← updateRowWhere .payments paymentId (fun p => p.status == .pending)
    (Payment.renew ref paymentUrl expiresAt isSimulated)
  match renewed with
  | none => pure ()
  | some _ => uniqueProviderRef paymentId ref

def uniqueOption {α : Type} (value : Option α) (check : α → Trans Unit) : Trans Unit :=
  match value with
  | none => pure ()
  | some a => check a

/-- `INSERT INTO payments`, with its unique indexes. -/
def insertPayment (id : Uuid) (p : Payment) : Trans Unit := do
  Tx.ensure (0 ≤ p.amount) (checkViolation "chk_payments_amount_positive")
  uniqueOption p.merchantTxnId fun m => uniqueIn (.merchantTxnId m) .payments (fun _ q => q.merchantTxnId == some m)
    (uniqueViolation "ux_payments_merchant_txn_id")
  uniqueOption p.idempotencyKey fun k => uniqueIn (.paymentKey k) .payments (fun _ q => q.idempotencyKey == some k)
    (uniqueViolation "ux_payments_idempotency_key")
  uniqueOption p.providerRef fun r => uniqueProviderRef id r
  insertInto .payments id p (uniqueViolation "payments_pkey")

structure NewPayment where
  id : Uuid
  orderId : Uuid
  userId : Uuid
  method : PaymentMethod
  amount : ℚ
  providerRef : String
  merchantTxnId : Option String
  paymentUrl : Option String
  expiresAt : Option Time
  idempotencyKey : Option PaymentKey
  metadata : Json
  isSimulated : Bool
  now : Time

def NewPayment.row (n : NewPayment) : Payment where
  orderId := n.orderId
  userId := n.userId
  method := n.method
  status := .pending
  amount := numeric n.amount
  refundedAmount := 0
  providerRef := some n.providerRef
  providerTxnId := none
  merchantTxnId := n.merchantTxnId
  paymentUrl := n.paymentUrl
  expiresAt := n.expiresAt
  paidAt := none
  idempotencyKey := n.idempotencyKey
  failureReason := none
  metadata := some n.metadata
  isSimulated := n.isSimulated
  createdAt := n.now

def createPaymentRow (n : NewPayment) : Trans Unit := insertPayment n.id n.row

end Balii
