import Balii.Calls
/-!
# Payment.Webhooks — callbacks that settle a payment

VNPay's IPN and SePay's webhook check who is calling, find the payment by its reference, compare the amount, and hand the
result to `persistPaymentResultTransaction`, which reports it to the order service.
-/
namespace Balii

open Rowdb Procedure

/-! ## The common writer -/

/-- What the order service is told after a commit that settled the payment. -/
def reportPayment (result : PersistedPayment) (now : Time) : Procedure Unit :=
  if result.alreadyProcessed = true then pure ()
  else if result.paymentFinalStatus = .paid then OrderClient.updateOrderPayment result.orderId .paid (some .confirmed) now
  else OrderClient.updateOrderPayment result.orderId .failed (some .cancelled) now

def persistPaymentResultTransaction (i : PaymentResultInput) : Procedure PersistedPayment := do
  let result ← trans (.persistPaymentResult i)
  reportPayment result i.now
  pure result

/-! ## VNPay -/

/-- `JSON.stringify(query)`. -/
def VnpayCallbackPayload.json (query : VnpayCallbackPayload) : String :=
  Json.stringify (.obj (query.map fun e => (e.1, .str e.2)))

/-- A callback whose signature does not fit is kept for the record. -/
def requireSignature (query : VnpayCallbackPayload) (signed : Bool) : Procedure Unit :=
  if signed = true then pure ()
  else do
    trans (.saveInvalidWebhook query.json)
    Proc.fail (badRequest "Invalid VNPay signature")

/-- `Number(query.vnp_Amount ?? 0)`, in hundredths as the payment's amount. -/
def VnpayCallbackPayload.amount (query : VnpayCallbackPayload) : JsNumber :=
  match query.get "vnp_Amount" with
  | none => .num 0
  | some s => jsNumber s

def VnpayCallbackPayload.paymentResult (query : VnpayCallbackPayload) : String :=
  if query.get "vnp_ResponseCode" = some "00" ∧ query.get "vnp_TransactionStatus" = some "00" then "SUCCESS" else "FAILED"

/-- A callback over another amount is left to a person. -/
def requireAmount (query : VnpayCallbackPayload) (payment : Uuid × Payment) : Procedure Unit :=
  if query.amount = .num payment.2.amount then pure ()
  else do
    trans (.markReviewRequired payment.1 "VNPay callback amount mismatch")
    Proc.fail (badRequest "VNPay amount mismatch")

/-- The payment a callback is about, and the result it reports. -/
def validateVnpayCallback (cfg : Config) (query : VnpayCallbackPayload) : Procedure ((Uuid × Payment) × String) := do
  let _ ← Proc.need (nonEmpty (query.get "vnp_SecureHash")) (badRequest "Missing VNPay callback parameters")
  let providerRef ← Proc.need (nonEmpty (query.get "vnp_TxnRef")) (badRequest "Missing VNPay callback parameters")
  let signed ← Proc.ofExcept (verifyVnpaySignature cfg query)
  requireSignature query signed
  Proc.ensure (∀ code ∈ nonEmpty (query.get "vnp_TmnCode"), some code = cfg.vnpayTmnCode) (badRequest "Invalid VNPay signature")
  let found ← read (.paymentByRef providerRef)
  let payment ← Proc.need found (notFound "Payment not found")
  requireAmount query payment
  pure (payment, query.paymentResult)

def VnpayCallbackPayload.result (query : VnpayCallbackPayload) (payment : Uuid × Payment) (paymentResult : String)
    (outboxEventId : Uuid) (now : Time) : PaymentResultInput where
  paymentId := payment.1
  orderId := payment.2.orderId
  rawPayload := query.json
  providerTxnId := (query.get "vnp_TransactionNo").or payment.2.providerRef
  paymentResult := paymentResult
  outboxEventId := outboxEventId
  now := now

def alreadyConfirmed : Reply := .ipn "02" "Order already confirmed"

/-- The `try` of `handleVnpayIpn`. -/
def confirmVnpayPayment (cfg : Config) (query : VnpayCallbackPayload) (outboxEventId : Uuid) (now : Time) : Procedure Reply := do
  let handled ← validateVnpayCallback cfg query
  if handled.1.2.status = .pending then do
    let result ← persistPaymentResultTransaction (query.result handled.1 handled.2 outboxEventId now)
    if result.alreadyProcessed = true then pure alreadyConfirmed else pure (.ipn "00" "Confirm Success")
  else pure alreadyConfirmed

/-- Its `catch`. -/
def ipnError (e : Err) : Reply :=
  match e.kind with
  | .notFound => .ipn "01" e.message
  | .badRequest =>
    .ipn (if includes e.message "amount" then "04" else if includes e.message "signature" then "97" else "99") e.message
  | _ => .ipn "99" "Unknown error"

def handleVnpayIpn (cfg : Config) (query : VnpayCallbackPayload) (outboxEventId : Uuid) (now : Time) : Procedure Reply :=
  Proc.catching (confirmVnpayPayment cfg query outboxEventId now) fun e => pure (ipnError e)

/-! ## SePay -/

/-- The key of `Authorization: Apikey …`. -/
def authorizationKey (header : Option String) : String :=
  let s := (header.getD "").toList
  if (String.ofList (s.take 6)).toLower = "apikey" ∧ (s.drop 6).head?.any isJsSpace then
    trim (String.ofList ((s.drop 6).dropWhile isJsSpace))
  else trim (String.ofList s)

/-- The first match of `/PAY[A-Z0-9]{6,}/i`. -/
def findPaymentCode : List Char → Option String
  | [] => none
  | c :: cs =>
    let code := (c :: cs).take 3 ++ ((c :: cs).drop 3).takeWhile Char.isAlphanum
    if (String.ofList ((c :: cs).take 3)).toUpper = "PAY" ∧ 9 ≤ code.length then some (String.ofList code).toUpper
    else findPaymentCode cs

/-- `String(value)`. -/
def coercedText (value : Json) : Except Err String :=
  if value.coercible = true then .ok value.text else .error (typeError "Cannot convert object to primitive value")

/-- `Number(value)`. -/
def coercedNumber (value : Json) : Except Err JsNumber :=
  if value.coercible = true then .ok value.toNumber else .error (typeError "Cannot convert object to primitive value")

/-- `payload.code?.trim()`, which only a string has. -/
def sepayCode (payload : Json) : Except Err (Option String) :=
  match Json.present (payload.get "code") with
  | none => .ok none
  | some (.str s) => .ok (nonEmpty (some (trim s)))
  | some _ => .error (typeError "payload.code?.trim is not a function")

/-- `${payload.content ?? ''} ${payload.description ?? ''}`. -/
def sepayHaystack (payload : Json) : Except Err String := do
  let content ← coercedText ((Json.present (payload.get "content")).getD (.str ""))
  let description ← coercedText ((Json.present (payload.get "description")).getD (.str ""))
  pure (content ++ " " ++ description)

def extractSepayPaymentCode (payload : Json) : Except Err (Option String) :=
  match sepayCode payload with
  | .error e => .error e
  | .ok (some code) => .ok (some code)
  | .ok none => (sepayHaystack payload).map fun haystack => findPaymentCode haystack.toList

/-- `Math.round(Number(payment.amount))`: whole dong. -/
def expectedTransfer (p : Payment) : ℤ := ⌊amountNumber p.amount + 1 / 2⌋

/-- **What is due of a payment is its amount in whole dong**: an amount the column can hold is not so large that its double would
round otherwise. -/
theorem expectedTransfer_eq {p : Payment} (h0 : 0 ≤ p.amount) (h : p.amount ≤ 2 ^ 50) :
    expectedTransfer p = ⌊(p.amount : ℚ) / 100 + 1 / 2⌋ := by
  obtain ⟨n, hn⟩ := Int.eq_ofNat_of_zero_le h0
  unfold expectedTransfer
  rw [hn]
  exact floor_amountNumber (by omega)

/-- `Number(payload.transferAmount ?? 0)`. -/
def sepayAmount (payload : Json) : Except Err JsNumber :=
  match Json.present (payload.get "transferAmount") with
  | none => .ok (.num 0)
  | some value => coercedNumber value

/-- `payload.referenceCode || (payload.id != null ? String(payload.id) : paymentCode)`. -/
def sepayTransaction (cfg : Config) (payload : Json) (paymentCode : String) : Except Err String :=
  match (payload.get "referenceCode").filter Json.truthy with
  | some reference => .ok (cfg.parameterText reference)
  | none =>
    match Json.present (payload.get "id") with
    | some id => coercedText id
    | none => .ok paymentCode

def sepayResult (payload : Json) (payment : Uuid × Payment) (providerTxnId : String) (outboxEventId : Uuid) (now : Time) :
    PaymentResultInput where
  paymentId := payment.1
  orderId := payment.2.orderId
  rawPayload := payload.stringify
  providerTxnId := some providerTxnId
  paymentResult := "SUCCESS"
  outboxEventId := outboxEventId
  now := now

/-- A transfer for a payment that was found. -/
def confirmSepayPayment (cfg : Config) (payload : Json) (payment : Uuid × Payment) (paymentCode : String) (outboxEventId : Uuid)
    (now : Time) : Procedure Reply :=
  if payment.2.status ≠ .pending then pure (.sepay (some "Payment already finalized"))
  else do
    let transferAmount ← Proc.ofExcept (sepayAmount payload)
    if transferAmount.lt (expectedTransfer payment.2) = true then do
      trans (.markReviewRequired payment.1 ("SePay amount mismatch: received " ++ transferAmount.text ++ ", expected " ++
        toString (expectedTransfer payment.2)))
      pure (.sepay (some "Amount mismatch, marked for review"))
    else do
      let providerTxnId ← Proc.ofExcept (sepayTransaction cfg payload paymentCode)
      let _ ← persistPaymentResultTransaction (sepayResult payload payment providerTxnId outboxEventId now)
      pure (.sepay none)

/-- The transfer's payment; a reference nobody has, or a failed read, is acknowledged all the same. -/
def matchSepayPayment (cfg : Config) (payload : Json) (paymentCode : String) (outboxEventId : Uuid) (now : Time) :
    Procedure Reply :=
  Proc.exec (Op.read (.paymentByRef paymentCode)) fun found =>
    match found with
    | .ok (some payment) => confirmSepayPayment cfg payload payment paymentCode outboxEventId now
    | _ => pure (.sepay (some "Payment not found"))

/-- `payload.transferType && payload.transferType !== 'in'`. -/
def ignoredTransfer (payload : Json) : Bool := (payload.get "transferType").any fun t => t.truthy && t != .str "in"

def handleSepayWebhook (cfg : Config) (payload : Json) (authorization : Option String) (outboxEventId : Uuid) (now : Time) :
    Procedure Reply := do
  let apiKey ← Proc.need (nonEmpty (cfg.sepayWebhookApiKey.map trim)) ⟨.unauthorized, "SePay webhook is not enabled"⟩
  Proc.ensure (authorizationKey authorization = apiKey) ⟨.unauthorized, "Invalid SePay webhook credentials"⟩
  if ignoredTransfer payload = true then pure (.sepay (some "Ignored non-incoming transfer"))
  else do
    let paymentCode ← Proc.ofExcept (extractSepayPaymentCode payload)
    match paymentCode with
    | none => pure (.sepay (some "No payment code matched"))
    | some code => matchSepayPayment cfg payload code outboxEventId now

end Balii
