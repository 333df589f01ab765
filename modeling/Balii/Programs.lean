import Balii.Lib.Trace
import Balii.System
/-!
# Programs — which transactions a call can run

`Call.runs` lists them, and whatever a program hears on its way it keeps to the list.
-/
namespace Balii

open Rowdb System Procedure

/-- The transactions of a call, besides reads. -/
def Call.runs : Call → Op → Bool
  | _, .read _ => true
  | .createOrder _, .createOrder _ => true
  | .updatePaymentStatus .., .updatePaymentStatus .. => true
  | .updateOrderStatus .., .updateOrderStatus .. => true
  | .createReturnRequest _, .createReturnRequest _ => true
  | .reviewReturnRequest .., .reviewReturnRequest .. => true
  | .receiveReturnRequest _, .receiveReturnRequest _ => true
  | .receiveReturnRequest _, .recordDispatch .. => true
  | .receiveReturnRequest _, .recordDispatchFailure _ => true
  | .updateReturnRefundResult .., .updateReturnRefundResult .. => true
  | .completeManualReturnRefund _, .completeManualReturnRefund _ => true
  | .updateVariant .., .updateVariant .. => true
  | .createPayment _, .createPaymentRow _ => true
  | .createPayment _, .setPaymentUrl .. => true
  | .createPayment _, .renewPayment .. => true
  | .createOrReusePayment _, .createPaymentRow _ => true
  | .generateProviderPaymentUrl _, .setPaymentUrl .. => true
  | .handleVnpayIpn .., .saveInvalidWebhook _ => true
  | .handleVnpayIpn .., .markReviewRequired .. => true
  | .handleVnpayIpn .., .persistPaymentResult _ => true
  | .handleSepayWebhook .., .markReviewRequired .. => true
  | .handleSepayWebhook .., .persistPaymentResult _ => true
  | .persistPaymentResultTransaction _, .persistPaymentResult _ => true
  | .completePayment .., .persistPaymentResult _ => true
  | .failPayment .., .persistPaymentResult _ => true
  | .saveInvalidWebhook _, .saveInvalidWebhook _ => true
  | .markReviewRequired .., .markReviewRequired .. => true
  | .markExpiredTransaction _, .markExpired _ => true
  | .persistReconciledSuccess .., .persistPaymentResult _ => true
  | .persistReconciledFailed .., .persistPaymentResult _ => true
  | .persistReconciledFailed .., .markExpired _ => true
  | .createRefundRecord _, .createRefundRecord _ => true
  | .updateRefundRejected _, .rejectRefund .. => true
  | .updateRefundRejected _, .insertRejectedRefund _ => true
  | .callGatewayRefundApi .., .requestGatewayRefund .. => true
  | .persistRefundResultTransaction _, .persistRefundResult _ => true
  | .increaseRefundRetryCount _, .increaseRefundRetryCount _ => true
  | .increaseReconciliationAttempt _, .increaseReconciliationAttempt _ => true
  | .createExchangeRequest .., .insertNotice .. => true
  | .updateOrderInventoryForExchange .., .insertNotice .. => true
  | .notifyCustomerRefundCompleted .., .insertNotice .. => true
  | .notifyCustomerRefundRejected .., .insertNotice .. => true
  | .notifyCustomerExchangeCreated .., .insertNotice .. => true
  | _, _ => false

section
variable {A : Op → Prop} {α β : Type}

/-- The program runs nothing but such transactions. -/
abbrev Runs (A : Op → Prop) (p : Procedure α) : Prop := p.Uses A fun _ => True

theorem runs_need {x : Option α} {e : Err} {f : α → Procedure β} (h : ∀ a, Runs A (f a)) : Runs A (Proc.need x e >>= f) :=
  Proc.uses_then (Proc.uses_need _ _) h

theorem runs_ensure {c : Prop} [Decidable c] {e : Err} {f : Unit → Procedure β} (h : ∀ a, Runs A (f a)) :
    Runs A (Proc.ensure c e >>= f) :=
  Proc.uses_then (Proc.uses_ensure _ _) h

theorem runs_ofExcept {x : Except Err α} {f : α → Procedure β} (h : ∀ a, Runs A (f a)) : Runs A (Proc.ofExcept x >>= f) :=
  Proc.uses_then (Proc.uses_ofExcept _) h

theorem runs_trans {op : Op} {f : op.Res → Procedure β} (hop : A op) (h : ∀ a, Runs A (f a)) : Runs A (trans op >>= f) :=
  Proc.uses_then (Proc.uses_trans hop) h

theorem runs_getOrder (orderId userId : Uuid) : Runs A (OrderClient.getOrder orderId userId) := by
  refine ⟨trivial, fun r => ?_⟩
  dsimp only
  split <;> trivial

theorem runs_updateOrderPayment (orderId : Uuid) (payment : ReportedPayment) (status : Option OrderStatus) (now : Time) :
    Runs A (OrderClient.updateOrderPayment orderId payment status now) := by
  refine ⟨trivial, fun r => ?_⟩
  cases r <;> trivial

theorem runs_updateReturnRefundResult (id : Uuid) (result : RefundOutcome) (now : Time) :
    Runs A (OrderClient.updateReturnRefundResult id result now) := by
  refine ⟨trivial, fun r => ?_⟩
  cases r <;> trivial

theorem runs_startReturnRefund (d : ReturnRefundDispatch) : Runs A (PaymentClient.startReturnRefund d) := by
  refine ⟨trivial, fun r => ?_⟩
  dsimp only
  split <;> trivial

theorem runs_dispatch {d : ReturnRefundDispatch} {now : Time}
    (h : ∀ paymentId reused, A (.recordDispatch d.returnRequestId paymentId reused now))
    (h' : A (.recordDispatchFailure d.returnRequestId)) : Runs A (dispatchReturnRefund d now) :=
  Proc.uses_catching (fun _ => Proc.uses_trans h') (Proc.uses_then (runs_startReturnRefund d) fun _ => Proc.uses_trans (h _ _))

theorem runs_persistPaymentResult {i : PaymentResultInput} (hi : A (.persistPaymentResult i)) :
    Runs A (persistPaymentResultTransaction i) := by
  refine runs_trans hi fun result => Proc.uses_then ?_ fun _ => trivial
  unfold reportPayment
  split
  · trivial
  · split <;> exact runs_updateOrderPayment _ _ _ _

variable (hA : ∀ q, A (.read q))
include hA

theorem runs_read {q : Query} {f : q.Res → Procedure β} (h : ∀ a, Runs A (f a)) : Runs A (Procedure.read q >>= f) :=
  runs_trans (hA q) h

theorem runs_replyWithOrder (userId orderId : Uuid) : Runs A (replyWithOrder userId orderId) :=
  runs_read hA fun _ => runs_need fun _ => trivial

theorem runs_paymentDetail (paymentId : Uuid) : Runs A (paymentDetail paymentId) := runs_read hA fun _ => Proc.uses_need _ _

theorem runs_replyWithPayment (paymentId : Uuid) : Runs A (replyWithPayment paymentId) :=
  Proc.uses_then (runs_paymentDetail hA paymentId) fun _ => trivial

theorem runs_replayOrder (userId orderId : Uuid) : Runs A (replayOrder userId orderId) :=
  runs_read hA fun _ => runs_need fun _ => trivial

theorem runs_saveOrder {c : Checkout} (hc : A (.createOrder c)) : Runs A (saveOrder c) := by
  refine ⟨hc, fun r => ?_⟩
  cases r with
  | ok id => trivial
  | error e =>
    dsimp only
    split
    · exact runs_read hA fun _ => runs_need fun _ => trivial
    · trivial

theorem runs_createOrder {cfg : Config} {dto : CreateOrder} (hc : ∀ c, A (.createOrder c)) : Runs A (createOrder cfg dto) := by
  refine runs_read hA fun existing => ?_
  cases existing with
  | some id => exact runs_replayOrder hA _ _
  | none =>
    intro cart
    change Runs A _
    cases cart with
    | cart items subtotal =>
      refine runs_ofExcept fun fee => Proc.uses_then (runs_saveOrder hA (hc _)) fun saved => ?_
      cases saved with
      | inl id => exact runs_replyWithOrder hA _ _
      | inr id => exact runs_replayOrder hA _ _
    | _ => trivial

omit hA in
theorem runs_receive {rc : Receipt} (h : A (.receiveReturnRequest rc))
    (hd : ∀ id paymentId reused, A (.recordDispatch id paymentId reused rc.now)) (hf : ∀ id, A (.recordDispatchFailure id)) :
    Runs A (receiveReturnRequest rc) := by
  refine runs_trans h fun dispatch => ?_
  cases dispatch with
  | none => trivial
  | some d => exact Proc.uses_then (runs_dispatch (hd _) (hf _)) fun _ => trivial

theorem runs_insertOrFindPayment {n : NewPayment} {key : PaymentKey} (h : A (.createPaymentRow n)) :
    Runs A (insertOrFindPayment n key) := by
  refine ⟨h, fun r => ?_⟩
  cases r with
  | ok _ => trivial
  | error e =>
    dsimp only
    split
    · exact runs_read hA fun _ => runs_need fun _ => trivial
    · trivial

theorem runs_createPayment {cfg : Config} {dto : CreatePayment} (hc : ∀ n, A (.createPaymentRow n))
    (hu : ∀ id url, A (.setPaymentUrl id url)) (hr : ∀ id ref url expiresAt b, A (.renewPayment id ref url expiresAt b)) :
    Runs A (createPayment cfg dto) := by
  refine Proc.uses_then (runs_getOrder _ _) fun order => runs_ensure fun _ => runs_ensure fun _ => runs_read hA fun reusable => ?_
  cases reusable with
  | none =>
    exact runs_ensure fun _ => runs_ofExcept fun _ => Proc.uses_then (runs_insertOrFindPayment hA (hc _)) fun _ =>
      Proc.uses_then (runs_updateOrderPayment _ _ _ _) fun _ => runs_replyWithPayment hA _
  | some payment =>
    dsimp only
    split
    · trivial
    · split
      · exact runs_ofExcept fun _ => runs_trans (hr _ _ _ _ _) fun _ => runs_replyWithPayment hA _
      · unfold reusePayment
        split
        · exact runs_ofExcept fun _ => runs_trans (hu _ _) fun _ => runs_replyWithPayment hA _
        · exact runs_replyWithPayment hA _

theorem runs_createOrReuse {cfg : Config} {i : CreateOrReusePayment} (hc : ∀ n, A (.createPaymentRow n)) :
    Runs A (createOrReusePayment cfg i) := by
  have hnew : Runs A (createOrReuseNewPayment cfg i) :=
    runs_ensure fun _ => runs_trans (hc _) fun _ => Proc.uses_then (runs_updateOrderPayment _ _ _ _) fun _ => trivial
  refine runs_read hA fun existed => ?_
  cases existed with
  | none => exact hnew
  | some payment =>
    dsimp only
    split
    · trivial
    · exact hnew

theorem runs_simulate {cfg : Config} {paymentId : Uuid} {status : PaymentStatus} {i : Payment → PaymentResultInput}
    (h : ∀ i, A (.persistPaymentResult i)) : Runs A (simulate cfg paymentId status i) := by
  refine runs_ensure fun _ => Proc.uses_then (runs_paymentDetail hA _) fun payment => ?_
  split
  · trivial
  · exact Proc.uses_then (runs_persistPaymentResult (h _)) fun _ => runs_replyWithPayment hA _

theorem runs_vnpayIpn {cfg : Config} {query : VnpayCallbackPayload} {outboxEventId : Uuid} {now : Time}
    (hs : ∀ raw, A (.saveInvalidWebhook raw)) (hm : ∀ id reason, A (.markReviewRequired id reason))
    (hp : ∀ i, A (.persistPaymentResult i)) : Runs A (handleVnpayIpn cfg query outboxEventId now) := by
  unfold handleVnpayIpn
  refine Proc.uses_catching (fun e => ?_) (Proc.uses_then ?_ fun handled => ?_)
  · trivial
  · refine runs_need fun _ => runs_need fun _ => runs_ofExcept fun _ => Proc.uses_then ?_ fun _ => runs_ensure fun _ =>
      runs_read hA fun _ => runs_need fun _ => Proc.uses_then ?_ fun _ => trivial
    · unfold requireSignature
      split
      · trivial
      · exact runs_trans (hs _) fun _ => trivial
    · unfold requireAmount
      split
      · trivial
      · exact runs_trans (hm _ _) fun _ => trivial
  · split
    · refine Proc.uses_then (runs_persistPaymentResult (hp _)) fun result => ?_
      split <;> trivial
    · trivial

theorem runs_sepayWebhook {cfg : Config} {payload : Json} {authorization : Option String} {outboxEventId : Uuid}
    {now : Time} (hm : ∀ id reason, A (.markReviewRequired id reason)) (hp : ∀ i, A (.persistPaymentResult i)) :
    Runs A (handleSepayWebhook cfg payload authorization outboxEventId now) := by
  have hmatch : ∀ code, Runs A (matchSepayPayment cfg payload code outboxEventId now) := by
    refine fun code => ⟨hA _, fun found => ?_⟩
    dsimp only
    split
    · unfold confirmSepayPayment
      split
      · trivial
      · refine runs_ofExcept fun transferAmount => ?_
        split
        · exact runs_trans (hm _ _) fun _ => trivial
        · exact runs_ofExcept fun _ => Proc.uses_then (runs_persistPaymentResult (hp _)) fun _ => trivial
    · trivial
  refine runs_need fun _ => runs_ensure fun _ => ?_
  split
  · trivial
  · refine runs_ofExcept fun code => ?_
    cases code with
    | none => trivial
    | some code => exact hmatch code

theorem runs_startApproved (d : ReturnRefundDispatch) : Runs A (startApprovedReturnRefund d) := by
  refine runs_read hA fun _ => runs_need fun _ => runs_ensure fun _ => runs_read hA fun existing => ?_
  cases existing with
  | some e => trivial
  | none =>
    intro started
    change Runs A _
    cases started <;> trivial

theorem runs_rejected {i : RefundRejection} (h : ∀ id, A (.rejectRefund id i)) (h' : A (.insertRejectedRefund i)) :
    Runs A (updateRefundRejected i) := by
  refine Proc.uses_then ?_ fun refundId => ?_
  · unfold rejectedRefund
    split
    · trivial
    · exact runs_read hA fun _ => trivial
  · cases refundId with
    | none => exact runs_trans h' fun _ => trivial
    | some id => exact runs_trans (h _) fun _ => trivial

end

/-- **A program keeps to its call's transactions.** -/
theorem proc_runs (cfg : Config) (call : Call) : Runs (fun op => call.runs op = true) (call.proc cfg) := by
  have hread : ∀ q, call.runs (.read q) = true := fun q => by cases call <;> rfl
  cases call with
  | createOrder dto => exact runs_createOrder hread fun _ => rfl
  | findMyOrderById userId orderId => exact runs_replyWithOrder hread _ _
  | updatePaymentStatus orderId payment status now => exact runs_trans rfl fun _ => runs_replyWithOrder hread _ _
  | updateOrderStatus orderId status note now => exact runs_trans rfl fun _ => runs_replyWithOrder hread _ _
  | createReturnRequest n => exact runs_ofExcept fun _ => runs_trans rfl fun _ => trivial
  | reviewReturnRequest id reviewedBy decision note =>
    exact runs_ensure fun _ => runs_read hread fun _ => runs_need fun _ => runs_ensure fun _ => runs_trans rfl fun _ => trivial
  | receiveReturnRequest rc => exact runs_receive rfl (fun _ _ _ => rfl) fun _ => rfl
  | updateReturnRefundResult id result now => exact runs_trans rfl fun _ => trivial
  | completeManualReturnRefund m => exact runs_ensure fun _ => runs_trans rfl fun _ => trivial
  | updateVariant id dto actorId => exact runs_trans rfl fun _ => trivial
  | createPayment dto => exact runs_createPayment hread (fun _ => rfl) (fun _ _ => rfl) fun _ _ _ _ _ => rfl
  | createOrReusePayment i => exact runs_createOrReuse hread fun _ => rfl
  | generateProviderPaymentUrl i =>
    exact Proc.uses_then (runs_paymentDetail hread _) fun _ => runs_ofExcept fun _ => runs_trans rfl fun _ => trivial
  | handleVnpayIpn query outboxEventId now => exact runs_vnpayIpn hread (fun _ => rfl) (fun _ _ => rfl) fun _ => rfl
  | handleSepayWebhook payload authorization outboxEventId now => exact runs_sepayWebhook hread (fun _ _ => rfl) fun _ => rfl
  | persistPaymentResultTransaction i => exact Proc.uses_then (runs_persistPaymentResult rfl) fun _ => trivial
  | completePayment paymentId providerTxnId outboxEventId now =>
    change Runs _ (Balii.completePayment ..)
    unfold Balii.completePayment
    exact runs_simulate hread fun _ => rfl
  | failPayment paymentId outboxEventId now =>
    change Runs _ (Balii.failPayment ..)
    unfold Balii.failPayment
    exact runs_simulate hread fun _ => rfl
  | saveInvalidWebhook rawPayload => exact runs_trans rfl fun _ => trivial
  | markReviewRequired paymentId reason =>
    cases paymentId with
    | none => trivial
    | some id => exact runs_trans rfl fun _ => trivial
  | markExpiredTransaction i => exact runs_trans rfl fun _ => Proc.uses_then (runs_updateOrderPayment _ _ _ _) fun _ => trivial
  | cancelOrReleaseOrder orderId now => exact Proc.uses_then (runs_updateOrderPayment _ _ _ _) fun _ => trivial
  | persistReconciledSuccess paymentId orderId providerTxnId outboxEventId now =>
    exact Proc.uses_then (runs_persistPaymentResult rfl) fun _ => trivial
  | persistReconciledFailed paymentId orderId gatewayResult providerTxnId outboxEventId now =>
    change Runs _ (Balii.persistReconciledFailed ..)
    unfold Balii.persistReconciledFailed
    split
    · exact runs_trans rfl fun _ => Proc.uses_then (runs_updateOrderPayment _ _ _ _) fun _ => trivial
    · exact Proc.uses_then (runs_persistPaymentResult rfl) fun _ => trivial
  | startApprovedReturnRefund d => exact runs_startApproved hread d
  | createRefundRecord n => exact runs_trans rfl fun _ => trivial
  | updateRefundRejected i => exact runs_rejected hread (fun _ => rfl) rfl
  | callGatewayRefundApi refundId providerRefundId => exact runs_ensure fun _ => runs_trans rfl fun _ => trivial
  | persistRefundResultTransaction i =>
    refine runs_trans rfl fun result => Proc.uses_then ?_ fun _ => Proc.uses_then ?_ fun _ => trivial
    · unfold reportFullRefund
      split
      · exact runs_updateOrderPayment _ _ _ _
      · trivial
    · unfold reportReturnRefund
      split
      · trivial
      · exact runs_updateReturnRefundResult _ _ _
  | increaseRefundRetryCount refundId => exact runs_trans rfl fun _ => trivial
  | increaseReconciliationAttempt paymentId => exact runs_trans rfl fun _ => trivial
  | createExchangeRequest r outboxEventId now => exact runs_trans rfl fun _ => trivial
  | updateOrderInventoryForExchange orderId paymentId exchangeRequestId userId outboxEventId now => exact runs_trans rfl fun _ => trivial
  | notifyCustomerRefundCompleted refundId outboxEventId now =>
    exact runs_read hread fun _ => runs_need fun _ => runs_trans rfl fun _ => trivial
  | notifyCustomerRefundRejected refundId paymentId orderId userId rejectionReason outboxEventId now => exact runs_trans rfl fun _ => trivial
  | notifyCustomerExchangeCreated exchangeRequestId paymentId orderId userId outboxEventId now => exact runs_trans rfl fun _ => trivial

end Balii
