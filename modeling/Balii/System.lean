import Balii.Order.Service
import Balii.Payment.Service
/-!
# System — the services as one system over the shared database
-/
namespace Balii

open Rowdb

def Call.proc (cfg : Config) : Call → Procedure Reply
  | .createOrder dto => Balii.createOrder cfg dto
  | .findMyOrderById userId orderId => replyWithOrder userId orderId
  | .updatePaymentStatus orderId payment status now => Balii.updatePaymentStatus orderId payment status now
  | .updateOrderStatus orderId status note now => Balii.updateOrderStatus orderId status note now
  | .createReturnRequest n => Balii.createReturnRequest n
  | .reviewReturnRequest id reviewedBy decision note => Balii.reviewReturnRequest id reviewedBy decision note
  | .receiveReturnRequest rc => Balii.receiveReturnRequest rc
  | .updateReturnRefundResult id result now => Balii.updateReturnRefundResult id result now
  | .completeManualReturnRefund m => Balii.completeManualReturnRefund m
  | .updateVariant id dto actorId => updateVariantCall id dto actorId
  | .createPayment dto => Balii.createPayment cfg dto
  | .createOrReusePayment i => Balii.createOrReusePayment cfg i
  | .generateProviderPaymentUrl i => Balii.generateProviderPaymentUrl cfg i
  | .handleVnpayIpn query outboxEventId now => Balii.handleVnpayIpn cfg query outboxEventId now
  | .handleSepayWebhook payload authorization outboxEventId now =>
    Balii.handleSepayWebhook cfg payload authorization outboxEventId now
  | .persistPaymentResultTransaction i => Reply.persisted <$> Balii.persistPaymentResultTransaction i
  | .completePayment paymentId providerTxnId outboxEventId now =>
    Balii.completePayment cfg paymentId providerTxnId outboxEventId now
  | .failPayment paymentId outboxEventId now => Balii.failPayment cfg paymentId outboxEventId now
  | .saveInvalidWebhook rawPayload => (fun _ => Reply.done) <$> Procedure.trans (.saveInvalidWebhook rawPayload)
  | .markReviewRequired paymentId reason => markReviewRequiredCall paymentId reason
  | .markExpiredTransaction i => Balii.markExpiredTransaction i
  | .cancelOrReleaseOrder orderId now => Balii.cancelOrReleaseOrder orderId now
  | .persistReconciledSuccess paymentId orderId providerTxnId outboxEventId now =>
    persistReconciled paymentId orderId "SUCCESS" "SUCCESS" providerTxnId outboxEventId now
  | .persistReconciledFailed paymentId orderId gatewayResult providerTxnId outboxEventId now =>
    Balii.persistReconciledFailed paymentId orderId gatewayResult providerTxnId outboxEventId now
  | .startApprovedReturnRefund d => Balii.startApprovedReturnRefund d
  | .createRefundRecord n => createRefundRecordCall n
  | .updateRefundRejected i => Balii.updateRefundRejected i
  | .callGatewayRefundApi refundId providerRefundId => Balii.callGatewayRefundApi cfg refundId providerRefundId
  | .persistRefundResultTransaction i => Balii.persistRefundResultTransaction i
  | .increaseRefundRetryCount refundId => increaseRefundRetryCountCall cfg refundId
  | .increaseReconciliationAttempt paymentId => increaseReconciliationAttemptCall cfg paymentId
  | .createExchangeRequest r outboxEventId now => Balii.createExchangeRequest r outboxEventId now
  | .updateOrderInventoryForExchange orderId paymentId exchangeRequestId userId outboxEventId now =>
    sendNotice (.exchangeInventorySync orderId paymentId exchangeRequestId userId) outboxEventId now
  | .notifyCustomerRefundCompleted refundId outboxEventId now =>
    Balii.notifyCustomerRefundCompleted refundId outboxEventId now
  | .notifyCustomerRefundRejected refundId paymentId orderId userId rejectionReason outboxEventId now =>
    sendNotice (.refundRejected refundId paymentId orderId userId rejectionReason) outboxEventId now
  | .notifyCustomerExchangeCreated exchangeRequestId paymentId orderId userId outboxEventId now =>
    sendNotice (.exchangeCreated exchangeRequestId paymentId orderId userId) outboxEventId now

/-- **The platform**: its transactions and its calls, under one configuration. -/
@[reducible] def platform (cfg : Config) : System where
  State := Db
  Key := LockKey schema
  Row := LockKey.Content (D := schema)
  Write := Write schema
  Err := Err
  Op := Op
  Res := Op.Res
  Call := Call
  Reply := Reply
  Answer := Answer
  store := inferInstance
  tx := Op.tx cfg
  proc := Call.proc cfg
  lost := lostConnection

/-- A committed transaction of the platform. -/
abbrev Commit (cfg : Config) : Type := System.Commit (platform cfg)

end Balii
