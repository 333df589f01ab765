import Balii.Json
import Balii.Payment.Settlement
/-!
# Payment.WebhookSecurity — the callbacks that go through the process engine

Every provider but VNPay signs the text of its callback with a shared secret.  A callback that passes is handed to the
process that waits under its business key, and the payment's is looked at once more there.
-/
namespace Balii

open Json

/-! ## What JavaScript makes of a missing field -/

/-- `value || default`. -/
def Json.orText (value : Option Json) (default : String) : Json := (value.filter truthy).getD (.str default)

/-! ## The shared secret -/

inductive WebhookFlow
  | payment
  | refund
  deriving DecidableEq

def isTrustedGenericWebhook (c : Config) (rawPayload : String) (signature : Option String) : Bool :=
  if c.appEnv ≠ "production" ∧ c.allowUnverifiedWebhooks = true then true
  else match nonEmpty c.webhookSharedSecret, nonEmpty signature with
    | some secret, some signature => c.hmacSha256 secret rawPayload == signature
    | _, _ => false

def verifyGenericWebhookSignature (c : Config) (rawPayload : String) (signature : Option String) : Bool :=
  isTrustedGenericWebhook c rawPayload signature

def missingKey (flow : WebhookFlow) : Err :=
  badRequest (match flow with
    | .payment => "Missing orderId"
    | .refund => "Missing paymentId")

/-- `input.businessKey?.trim()`, which only a string has. -/
def requireBusinessKey (flow : WebhookFlow) (businessKey : Option Json) : Except Err Unit :=
  match businessKey with
  | none => .error (missingKey flow)
  | some .null => .error (missingKey flow)
  | some (.str s) => if trim s = "" then .error (missingKey flow) else .ok ()
  | some _ => .error (typeError "input.businessKey?.trim is not a function")

def validateGenericWebhookRequest (c : Config) (provider : String) (flow : WebhookFlow) (businessKey rawPayload : Option Json)
    (signature : Option String) : Except Err Unit :=
  if provider = "vnpay" then
    .error (badRequest "VNPay must use the dedicated /payments/vnpay/return or /payments/vnpay/ipn endpoints")
  else do
    requireBusinessKey flow businessKey
    if isTrustedGenericWebhook c ((present rawPayload).getD (.obj [])).stringify signature = true then pure ()
    else .error (badRequest "Untrusted webhook signature")

/-! ## The two endpoints -/

/-- The message `payment.callback.received`. -/
structure PaymentCallbackMessage where
  businessKey : Option Json
  provider : String
  rawPayload : String
  signature : String

def correlatePaymentCallback (orderId : Option Json) (provider : String) (rawPayload : Json) (signature : Option String) :
    PaymentCallbackMessage where
  businessKey := orderId
  provider := provider
  rawPayload := (if rawPayload.truthy then rawPayload else .obj []).stringify
  signature := (nonEmpty signature).getD ""

def handlePaymentWebhook (c : Config) (provider : String) (body : Json) (signature : Option String) :
    Except Err PaymentCallbackMessage := do
  validateGenericWebhookRequest c provider .payment (body.get "orderId") (some body) signature
  pure (correlatePaymentCallback (body.get "orderId") provider body signature)

/-- The message `refund.result.received`. -/
structure RefundResultMessage where
  businessKey : Json
  provider : String
  refundId : Json
  providerRefundId : Json
  refundResult : Json
  rawPayload : String
  signature : String

def correlateRefundResult (paymentId : Json) (provider : String) (refundId refundResult providerRefundId : Option Json)
    (rawPayload : Json) (signature : Option String) : RefundResultMessage where
  businessKey := paymentId
  provider := provider
  refundId := orText refundId ""
  providerRefundId := orText providerRefundId ""
  refundResult := orText refundResult "FAILED"
  rawPayload := (if rawPayload.truthy then rawPayload else .obj []).stringify
  signature := (nonEmpty signature).getD ""

/-- `body.rawPayload ?? body`. -/
def rawPayloadOf (body : Json) : Json := (present (body.get "rawPayload")).getD body

def handleRefundWebhook (c : Config) (provider : String) (body : Json) (signature : Option String) :
    Except Err RefundResultMessage :=
  match (body.get "paymentId").filter truthy with
  | none => .error (badRequest "Missing paymentId")
  | some paymentId => do
    validateGenericWebhookRequest c provider .refund (some paymentId) (some (rawPayloadOf body)) signature
    pure (correlateRefundResult paymentId provider (body.get "refundId") (body.get "refundResult")
      (body.get "providerRefundId") (rawPayloadOf body) signature)

/-! ## The payment's callback, looked at by the process -/

structure GatewayVerdict where
  signatureValid : Bool
  providerTxnId : Json
  paymentResult : String
  gatewayAmount : Option JsNumber

/-- `payload.status` or `payload.paymentResult` is the word. -/
def reports (payload : Json) (word : String) : Bool :=
  payload.get "status" == some (.str word) || payload.get "paymentResult" == some (.str word)

def gatewayResult (payload : Json) : String :=
  if reports payload "SUCCESS" then "SUCCESS" else if reports payload "FAILED" then "FAILED" else "UNKNOWN"

/-- `payload.amount ? Number(payload.amount) : null`. -/
def gatewayAmount (payload : Json) : Option JsNumber := ((payload.get "amount").filter truthy).map toDecimal

/-- A payload as VNPay's parameters: what is `null` is left out. -/
def vnpayParameters (payload : Json) : VnpayCallbackPayload :=
  match payload with
  | .obj fields => (fields.filter fun f => f.2 != .null).map fun f => (f.1, f.2.text)
  | _ => []

/-- `incomingHash.toLowerCase()` needs a string, and is only asked of what is not falsy. -/
def verifyVnpayPayload (c : Config) (payload : Json) : Except Err Bool :=
  match nonEmpty c.vnpayHashSecret, (payload.get "vnp_SecureHash").filter truthy with
  | some _, some (.str _) => verifyVnpaySignature c (vnpayParameters payload)
  | some _, some _ => .error (typeError "incomingHash.toLowerCase is not a function")
  | some _, none => .ok false
  | none, _ => verifyVnpaySignature c (vnpayParameters payload)

/-- `verifyGatewaySignature`: a text that is no JSON is read as an empty payload, and `null` has no fields to read. -/
def verifyGatewaySignature (c : Config) (provider rawPayload : String) (signature : Option String) (now : Time) :
    Except Err GatewayVerdict :=
  match (Json.parse rawPayload).getD (.obj []) with
  | .null => .error (typeError "Cannot read properties of null (reading 'status')")
  | payload => do
    let signatureValid ←
      if provider = "vnpay" then verifyVnpayPayload c payload
      else pure (verifyGenericWebhookSignature c rawPayload signature)
    pure { signatureValid, providerTxnId := (present (payload.get "providerTxnId")).getD (.str ("TXN_" ++ toString now))
           paymentResult := gatewayResult payload, gatewayAmount := gatewayAmount payload }

/-! ## What a refund callback's signature covers -/

/-- One request to `POST refunds/webhook/:provider`, its body an object. -/
structure RefundWebhook where
  provider : String
  fields : List (String × Json)
  signature : Option String

namespace RefundWebhook

def body (w : RefundWebhook) : Json := .obj w.fields

def handle (c : Config) (w : RefundWebhook) : Except Err RefundResultMessage := handleRefundWebhook c w.provider w.body w.signature

/-- The text the signature is over. -/
def signedText (w : RefundWebhook) : String := (rawPayloadOf w.body).stringify

/-- The body brings the text to be signed along with it. -/
def carriesRaw (w : RefundWebhook) : Bool := (present (w.body.get "rawPayload")).isSome

end RefundWebhook

/-- What the process is told. -/
def RefundResultMessage.decision (m : RefundResultMessage) : Json × Json × Json × Json :=
  (m.businessKey, m.refundId, m.refundResult, m.providerRefundId)

/-- Unverified webhooks are disabled and there is a secret. -/
structure SharedSecret (c : Config) : Prop where
  verified : c.appEnv = "production" ∨ c.allowUnverifiedWebhooks = false
  secret : nonEmpty c.webhookSharedSecret ≠ none
  /-- A digest is never the empty text. -/
  digest : ∀ s data, nonEmpty c.webhookSharedSecret = some s → c.hmacSha256 s data ≠ ""

theorem isTrusted_iff {c : Config} (hc : SharedSecret c) (text : String) (signature : Option String) :
    isTrustedGenericWebhook c text signature = true ↔
      ∃ secret, nonEmpty c.webhookSharedSecret = some secret ∧ signature = some (c.hmacSha256 secret text) := by
  have hv : ¬(c.appEnv ≠ "production" ∧ c.allowUnverifiedWebhooks = true) := by
    rintro ⟨h1, h2⟩
    rcases hc.verified with h | h
    · exact h1 h
    · rw [h] at h2
      cases h2
  unfold isTrustedGenericWebhook
  rw [if_neg hv]
  cases hs : nonEmpty c.webhookSharedSecret with
  | none => exact absurd hs hc.secret
  | some secret =>
    cases signature with
    | none => simp [nonEmpty]
    | some signature =>
      have hd := hc.digest secret text hs
      by_cases he : signature = ""
      · simp [nonEmpty, he, hd]
      · have hn : nonEmpty (some signature) = some signature := by simp [nonEmpty, he]
        simp [hn]
        exact eq_comm

theorem requireBusinessKey_ok {flow : WebhookFlow} {key : Option Json} (h : requireBusinessKey flow key = .ok ()) :
    ∃ s, key = some (.str s) ∧ trim s ≠ "" := by
  unfold requireBusinessKey at h
  split at h
  · cases h
  · cases h
  · rename_i s
    split at h
    · cases h
    · exact ⟨s, rfl, ‹_›⟩
  · cases h

/-- What a request has to pass. -/
theorem validateGenericWebhookRequest_ok {c : Config} {provider : String} {flow : WebhookFlow} {key raw : Option Json}
    {signature : Option String} (h : validateGenericWebhookRequest c provider flow key raw signature = .ok ()) :
    provider ≠ "vnpay" ∧ (∃ s, key = some (.str s) ∧ trim s ≠ "") ∧
      isTrustedGenericWebhook c ((present raw).getD (.obj [])).stringify signature = true := by
  unfold validateGenericWebhookRequest at h
  split at h
  · cases h
  · rename_i hp
    cases hk : requireBusinessKey flow key with
    | error e =>
      rw [hk] at h
      cases h
    | ok u =>
      rw [hk] at h
      change ite _ _ _ = _ at h
      split at h
      · exact ⟨hp, requireBusinessKey_ok hk, ‹_›⟩
      · cases h

theorem present_rawPayloadOf (fields : List (String × Json)) :
    present (some (rawPayloadOf (.obj fields))) = some (rawPayloadOf (.obj fields)) := by
  unfold rawPayloadOf
  cases h : present ((obj fields).get "rawPayload") with
  | none => rfl
  | some j =>
    unfold present at h ⊢
    rw [Option.filter_eq_some_iff] at h
    simp [h.2]

/-- A callback that passes names a payment and is signed, and the process is told what its body says. -/
theorem RefundWebhook.handle_ok {c : Config} {w : RefundWebhook} {m : RefundResultMessage} (h : w.handle c = .ok m) :
    isTrustedGenericWebhook c w.signedText w.signature = true ∧ (w.body.get "paymentId").filter truthy = some m.businessKey ∧
      m.refundId = orText (w.body.get "refundId") "" ∧ m.refundResult = orText (w.body.get "refundResult") "FAILED" ∧
        m.providerRefundId = orText (w.body.get "providerRefundId") "" := by
  unfold handle handleRefundWebhook at h
  split at h
  · cases h
  · rename_i paymentId hid
    cases hv : validateGenericWebhookRequest c w.provider .refund (some paymentId) (some (rawPayloadOf w.body)) w.signature with
    | error e =>
      rw [hv] at h
      cases h
    | ok u =>
      rw [hv] at h
      cases h
      have ht := (validateGenericWebhookRequest_ok hv).2.2
      rw [show w.body = .obj w.fields from rfl, present_rawPayloadOf] at ht
      exact ⟨ht, hid, rfl, rfl, rfl⟩

/-- A request that names a payment and is signed passes. -/
theorem RefundWebhook.handle_of {c : Config} {w : RefundWebhook} {s : String} (hp : w.provider ≠ "vnpay")
    (hs : w.body.get "paymentId" = some (.str s)) (hne : trim s ≠ "")
    (ht : isTrustedGenericWebhook c w.signedText w.signature = true) :
    w.handle c = .ok (correlateRefundResult (.str s) w.provider (w.body.get "refundId") (w.body.get "refundResult")
      (w.body.get "providerRefundId") (rawPayloadOf w.body) w.signature) := by
  have hs' : s ≠ "" := by
    rintro rfl
    exact hne rfl
  have hid : (w.body.get "paymentId").filter truthy = some (.str s) := by
    rw [hs]
    simp [truthy, hs']
  have hv : validateGenericWebhookRequest c w.provider .refund (some (.str s)) (some (rawPayloadOf w.body)) w.signature = .ok () := by
    unfold validateGenericWebhookRequest requireBusinessKey
    rw [if_neg hp]
    simp only [if_neg hne]
    rw [show w.body = .obj w.fields from rfl, present_rawPayloadOf]
    exact if_pos ht
  unfold handle handleRefundWebhook
  rw [hid]
  simp only [hv]
  rfl

theorem RefundWebhook.signedText_of_not_carriesRaw {w : RefundWebhook} (h : w.carriesRaw = false) :
    w.signedText = w.body.stringify := by
  unfold carriesRaw at h
  unfold signedText rawPayloadOf
  rw [Option.isSome_eq_false_iff, Option.isNone_iff_eq_none] at h
  rw [h]
  rfl

/-! ## Requests that share a signature -/

/-- A callback about a payment, signed as it is. -/
def ownCallback (paymentId : String) : List (String × Json) := [("paymentId", .str paymentId)]

/-- A callback about a payment that brings along the text of one about the first payment. -/
def wrappedCallback (paymentId : String) : List (String × Json) :=
  [("paymentId", .str paymentId), ("rawPayload", .obj (ownCallback "first"))]

/-- A callback of either kind, under the signature of the first payment's callback. -/
def signedCallback (c : Config) (raw : Bool) (paymentId : String) : RefundWebhook where
  provider := "momo"
  fields := if raw = true then wrappedCallback paymentId else ownCallback paymentId
  signature := (nonEmpty c.webhookSharedSecret).map fun secret => c.hmacSha256 secret (obj (ownCallback "first")).stringify

theorem signedCallback_carriesRaw (c : Config) (raw : Bool) (paymentId : String) :
    (signedCallback c raw paymentId).carriesRaw = raw := by
  cases raw <;> rfl

theorem signedCallback_text (c : Config) {raw : Bool} {paymentId : String} (h : raw = true ∨ paymentId = "first") :
    (signedCallback c raw paymentId).signedText = (obj (ownCallback "first")).stringify := by
  cases raw with
  | true => rfl
  | false =>
    rcases h with h | rfl
    · cases h
    · rfl

theorem signedCallback_handle {c : Config} (hc : SharedSecret c) {raw : Bool} {paymentId : String}
    (h : raw = true ∨ paymentId = "first") (hne : trim paymentId ≠ "") :
    ∃ m, (signedCallback c raw paymentId).handle c = .ok m ∧ m.businessKey = .str paymentId := by
  have ht : isTrustedGenericWebhook c (signedCallback c raw paymentId).signedText (signedCallback c raw paymentId).signature = true := by
    rw [isTrusted_iff hc, signedCallback_text c h]
    cases hs : nonEmpty c.webhookSharedSecret with
    | none => exact absurd hs hc.secret
    | some secret => exact ⟨secret, rfl, by simp [signedCallback, hs]⟩
  have hid : (signedCallback c raw paymentId).body.get "paymentId" = some (.str paymentId) := by
    cases raw <;> rfl
  exact ⟨_, RefundWebhook.handle_of (by simp [signedCallback]) hid hne ht, rfl⟩

/-- **The signature binds what the process is told exactly when both requests are signed as they are**: a request that
brings its own text is signed over that text alone, and may say anything around it. -/
theorem refundSignature_binds_iff (c : Config) (hc : SharedSecret c) (raw raw' : Bool) :
    (∀ (w w' : RefundWebhook) (m m' : RefundResultMessage), w.carriesRaw = raw →
      w'.carriesRaw = raw' → w.handle c = .ok m → w'.handle c = .ok m' → w.signedText = w'.signedText →
      w.signature = w'.signature → m.decision = m'.decision) ↔ raw = false ∧ raw' = false := by
  constructor
  · intro h
    by_contra hraw
    obtain ⟨id, id', hid, hid', hne⟩ : ∃ id id', (raw = true ∨ id = "first") ∧ (raw' = true ∨ id' = "first") ∧
        trim id ≠ "" ∧ trim id' ≠ "" ∧ id ≠ id' := by
      cases raw with
      | true => exact ⟨"second", "first", .inl rfl, .inr rfl, by decide⟩
      | false =>
        cases raw' with
        | true => exact ⟨"first", "second", .inr rfl, .inl rfl, by decide⟩
        | false => exact absurd ⟨rfl, rfl⟩ hraw
    obtain ⟨m, hm, hk⟩ := signedCallback_handle hc hid hne.1
    obtain ⟨m', hm', hk'⟩ := signedCallback_handle hc hid' hne.2.1
    have hd := h _ _ m m' (signedCallback_carriesRaw c raw id) (signedCallback_carriesRaw c raw' id') hm hm'
      (by rw [signedCallback_text c hid, signedCallback_text c hid']) rfl
    have hkeys := congrArg Prod.fst hd
    change m.businessKey = m'.businessKey at hkeys
    rw [hk, hk'] at hkeys
    exact hne.2.2 (str.inj hkeys)
  · rintro ⟨rfl, rfl⟩ w w' m m' hw hw' hm hm' htext _
    rw [RefundWebhook.signedText_of_not_carriesRaw hw, RefundWebhook.signedText_of_not_carriesRaw hw'] at htext
    have hbody := stringify_injective htext
    obtain ⟨_, hid, h1, h2, h3⟩ := RefundWebhook.handle_ok hm
    obtain ⟨_, hid', h1', h2', h3'⟩ := RefundWebhook.handle_ok hm'
    rw [hbody, hid'] at hid
    unfold RefundResultMessage.decision
    rw [Option.some.inj hid, h1, h2, h3, h1', h2', h3', hbody]

theorem sampleConfig_sharedSecret : SharedSecret sampleConfig where
  verified := .inr rfl
  secret := by decide
  digest s data hs := by
    cases hs
    change "shared" ++ data ≠ ""
    intro h
    have := congrArg String.length h
    rw [String.length_append] at this
    simp at this

theorem sampleConfig_signature_binds_iff : (∀ (w w' : RefundWebhook) (m m' : RefundResultMessage), w.carriesRaw = false →
    w'.carriesRaw = true → w.handle sampleConfig = .ok m → w'.handle sampleConfig = .ok m' → w.signedText = w'.signedText →
      w.signature = w'.signature → m.decision = m'.decision) ↔ false = false ∧ true = false :=
  refundSignature_binds_iff sampleConfig sampleConfig_sharedSecret false true

/-! ### A refusal turned into a success -/

/-- What the provider sent and signed. -/
def refusedFields : List (String × Json) :=
  [("paymentId", .str "7"), ("refundId", .str "9"), ("refundResult", .str "FAILED")]

def refusedCallback : RefundWebhook where
  provider := "momo"
  fields := refusedFields
  signature := some (sampleConfig.hmacSha256 "shared" (obj refusedFields).stringify)

/-- The same signature around the opposite. -/
def turnedCallback : RefundWebhook where
  provider := "momo"
  fields := [("paymentId", .str "7"), ("refundId", .str "9"), ("refundResult", .str "SUCCESS"), ("rawPayload", .obj refusedFields)]
  signature := refusedCallback.signature

theorem turnedCallback_not_bound : ∃ m m', refusedCallback.handle sampleConfig = .ok m ∧
    turnedCallback.handle sampleConfig = .ok m' ∧ refusedCallback.signedText = turnedCallback.signedText ∧
      refusedCallback.signature = turnedCallback.signature ∧ m.decision ≠ m'.decision := by
  have ht : isTrustedGenericWebhook sampleConfig (obj refusedFields).stringify refusedCallback.signature = true :=
    (isTrusted_iff sampleConfig_sharedSecret _ _).2 ⟨"shared", rfl, rfl⟩
  have h := @RefundWebhook.handle_of sampleConfig refusedCallback "7" (by decide) rfl (by decide) ht
  have h' := @RefundWebhook.handle_of sampleConfig turnedCallback "7" (by decide) rfl (by decide) ht
  refine ⟨_, _, h, h', rfl, rfl, fun hd => ?_⟩
  have hresult := congrArg (fun d => d.2.2.1) hd
  exact absurd hresult (by decide)

end Balii
