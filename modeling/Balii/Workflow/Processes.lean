import Balii.Lib.Bpmn
import Balii.Text
/-!
# Workflow.Processes — the three processes, as their diagrams have them

Every node of a diagram is a constructor under its id, and `element` says what it is and where it leads.
-/
namespace Balii

open Bpmn

/-- The value of a process variable; a number is one of JavaScript's. -/
inductive Value
  | null
  | bool (b : Bool)
  | text (s : String)
  | number (x : JsNumber)
  deriving DecidableEq

/-- The topics `PaymentProcessingWorker` subscribes to. -/
inductive Topic
  | validatePaymentRequest
  | checkIdempotency
  | createOrReusePayment
  | generateProviderUrl
  | verifySignature
  | checkDuplicateCallback
  | persistResultTransaction
  | signalPublisher
  | correlatePaymentSuccess
  | cancelRelease
  | saveInvalidWebhook
  | markReviewRequired
  | markExpiredTransaction
  | findPendingForReconciliation
  | queryGatewayStatus
  | persistReconciledSuccess
  | persistReconciledFailed
  | increaseReconciliationAttempt
  | validateRefundRequest
  | checkPaymentStatus
  | checkOrderFulfillmentStatus
  | validateRefundCondition
  | checkRefundIdempotency
  | createRefundRecord
  | callGatewayApi
  | persistRefundResultTransaction
  | increaseRetryCount
  | updateRejected
  | createExchangeRequest
  | updateOrderInventoryExchange
  | refundCompleted
  | refundRejected
  | exchangeCreated
  deriving DecidableEq, Repr

def Topic.name : Topic → String
  | .validatePaymentRequest => "payment.validate-request"
  | .checkIdempotency => "payment.check-idempotency"
  | .createOrReusePayment => "payment.create-or-reuse"
  | .generateProviderUrl => "payment.generate-provider-url"
  | .verifySignature => "payment.verify-signature"
  | .checkDuplicateCallback => "payment.check-duplicate-callback"
  | .persistResultTransaction => "payment.persist-result-transaction"
  | .signalPublisher => "outbox.signal-publisher"
  | .correlatePaymentSuccess => "workflow.correlate-payment-success"
  | .cancelRelease => "order.cancel-release"
  | .saveInvalidWebhook => "payment.save-invalid-webhook"
  | .markReviewRequired => "payment.mark-review-required"
  | .markExpiredTransaction => "payment.mark-expired-transaction"
  | .findPendingForReconciliation => "payment.find-pending-for-reconciliation"
  | .queryGatewayStatus => "payment.query-gateway-status"
  | .persistReconciledSuccess => "payment.persist-reconciled-success"
  | .persistReconciledFailed => "payment.persist-reconciled-failed"
  | .increaseReconciliationAttempt => "payment.increase-reconciliation-attempt"
  | .validateRefundRequest => "refund.validate-request"
  | .checkPaymentStatus => "refund.check-payment-status"
  | .checkOrderFulfillmentStatus => "refund.check-order-fulfillment-status"
  | .validateRefundCondition => "refund.validate-condition"
  | .checkRefundIdempotency => "refund.check-idempotency"
  | .createRefundRecord => "refund.create-record"
  | .callGatewayApi => "refund.call-gateway-api"
  | .persistRefundResultTransaction => "refund.persist-result-transaction"
  | .increaseRetryCount => "refund.increase-retry-count"
  | .updateRejected => "refund.update-rejected"
  | .createExchangeRequest => "refund.create-exchange-request"
  | .updateOrderInventoryExchange => "refund.update-order-inventory-exchange"
  | .refundCompleted => "notification.refund-completed"
  | .refundRejected => "notification.refund-rejected"
  | .exchangeCreated => "notification.exchange-created"

/-- `${name == "value"}`. -/
def is (name value : String) : Cond Value := .eq name (.text value)

/-- `${name == true}` or `${name == false}`. -/
def isBool (name : String) (b : Bool) : Cond Value := .eq name (.bool b)

/-! ## Process_Payment_Processing -/

inductive PaymentNode
  | startEventPaymentRequested
  | taskValidatePaymentRequest
  | taskCheckPaymentIdempotency
  | taskCreateOrReusePayment
  | taskGenerateProviderPaymentUrl
  | eventWaitGatewayCallback
  | taskVerifyHmacSignature
  | gatewayIsSignatureValid
  | taskSaveInvalidWebhook
  | taskMarkReviewRequiredInvalid
  | endEventInvalidCallback
  | taskCheckDuplicateCallback
  | taskPersistPaymentResultTransaction
  | gatewayPaymentResult
  | taskSignalOutboxPublisherSuccess
  | taskCorrelateOrderWorkflowSuccess
  | endEventPaymentCompleted
  | taskCancelReleaseOrderFailed
  | taskSignalOutboxPublisherFailed
  | endEventPaymentFailed
  | userTaskManualPaymentReview
  | gatewayManualReviewDecision
  | taskCorrelateOrderWorkflowReviewSuccess
  | taskCancelReleaseOrderReviewReject
  | endEventRefundRequired
  | taskMarkPaymentExpiredTransaction
  | taskCancelReleaseOrderExpired
  | taskSignalOutboxPublisherExpired
  | endEventPaymentTimeout
  deriving DecidableEq, Repr

def PaymentNode.element : PaymentNode → Element PaymentNode Topic Value
  | startEventPaymentRequested => .start taskValidatePaymentRequest
  | taskValidatePaymentRequest => .service .validatePaymentRequest taskCheckPaymentIdempotency
  | taskCheckPaymentIdempotency => .service .checkIdempotency taskCreateOrReusePayment
  | taskCreateOrReusePayment => .service .createOrReusePayment taskGenerateProviderPaymentUrl
  | taskGenerateProviderPaymentUrl => .service .generateProviderUrl eventWaitGatewayCallback
  | eventWaitGatewayCallback =>
    .message "payment.callback.received" taskVerifyHmacSignature (some taskMarkPaymentExpiredTransaction)
  | taskVerifyHmacSignature => .service .verifySignature gatewayIsSignatureValid
  | gatewayIsSignatureValid => .exclusive
      [(isBool "signatureValid" true, taskCheckDuplicateCallback), (isBool "signatureValid" false, taskSaveInvalidWebhook)]
  | taskSaveInvalidWebhook => .service .saveInvalidWebhook taskMarkReviewRequiredInvalid
  | taskMarkReviewRequiredInvalid => .service .markReviewRequired endEventInvalidCallback
  | endEventInvalidCallback => .finish
  | taskCheckDuplicateCallback => .service .checkDuplicateCallback taskPersistPaymentResultTransaction
  | taskPersistPaymentResultTransaction => .service .persistResultTransaction gatewayPaymentResult
  | gatewayPaymentResult => .exclusive
      [(is "paymentResult" "SUCCESS", taskSignalOutboxPublisherSuccess),
        (.or (is "paymentResult" "FAILED") (is "paymentResult" "CANCELLED"), taskCancelReleaseOrderFailed),
        (.or (.or (is "paymentResult" "UNKNOWN") (is "paymentResult" "AMOUNT_MISMATCH")) (is "paymentResult" "REVIEW_REQUIRED"),
          userTaskManualPaymentReview)]
  | taskSignalOutboxPublisherSuccess => .service .signalPublisher taskCorrelateOrderWorkflowSuccess
  | taskCorrelateOrderWorkflowSuccess => .service .correlatePaymentSuccess endEventPaymentCompleted
  | endEventPaymentCompleted => .finish
  | taskCancelReleaseOrderFailed => .service .cancelRelease taskSignalOutboxPublisherFailed
  | taskSignalOutboxPublisherFailed => .service .signalPublisher endEventPaymentFailed
  | endEventPaymentFailed => .finish
  | userTaskManualPaymentReview => .user gatewayManualReviewDecision
  | gatewayManualReviewDecision => .exclusive
      [(is "reviewDecision" "APPROVE", taskCorrelateOrderWorkflowReviewSuccess),
        (is "reviewDecision" "REJECT", taskCancelReleaseOrderReviewReject),
        (is "reviewDecision" "REFUND", endEventRefundRequired)]
  | taskCorrelateOrderWorkflowReviewSuccess => .service .correlatePaymentSuccess endEventPaymentCompleted
  | taskCancelReleaseOrderReviewReject => .service .cancelRelease endEventPaymentFailed
  | endEventRefundRequired => .finish
  | taskMarkPaymentExpiredTransaction => .service .markExpiredTransaction taskCancelReleaseOrderExpired
  | taskCancelReleaseOrderExpired => .service .cancelRelease taskSignalOutboxPublisherExpired
  | taskSignalOutboxPublisherExpired => .service .signalPublisher endEventPaymentTimeout
  | endEventPaymentTimeout => .finish

def processPaymentProcessing : Process PaymentNode Topic Value := ⟨PaymentNode.element⟩

/-! ## Process_Refund_Workflow -/

inductive RefundNode
  | startEventRefundRequested
  | taskValidateRefundRequest
  | taskCheckPaymentStatus
  | taskCheckOrderFulfillmentStatus
  | gatewayRefundRoute
  | userTaskAdminReviewRefundRequest
  | gatewayAdminDecision
  | taskCheckRefundIdempotency
  | taskCreateRefundRecord
  | taskCallGatewayRefundApi
  | eventWaitRefundResult
  | taskPersistRefundResultTransaction
  | gatewayIsRefundSuccessful
  | gatewayRetryRefund
  | taskIncreaseRefundRetry
  | taskSignalOutboxPublisherRefunded
  | taskNotifyCustomerRefunded
  | endEventRefundCompleted
  | taskUpdateRefundRejected
  | taskNotifyCustomerRefundRejected
  | endEventRefundRejected
  | taskCreateExchangeRequest
  | taskUpdateOrderInventoryForExchange
  | taskNotifyCustomerExchange
  | endEventExchangeCreated
  deriving DecidableEq, Repr

def RefundNode.element : RefundNode → Element RefundNode Topic Value
  | startEventRefundRequested => .start taskValidateRefundRequest
  | taskValidateRefundRequest => .service .validateRefundRequest taskCheckPaymentStatus
  | taskCheckPaymentStatus => .service .checkPaymentStatus taskCheckOrderFulfillmentStatus
  | taskCheckOrderFulfillmentStatus => .service .checkOrderFulfillmentStatus gatewayRefundRoute
  | gatewayRefundRoute => .exclusive
      [(is "refundRoute" "AUTO_REFUND", taskCheckRefundIdempotency),
        (is "refundRoute" "ADMIN_REVIEW", userTaskAdminReviewRefundRequest), (is "refundRoute" "REJECT", taskUpdateRefundRejected)]
  | userTaskAdminReviewRefundRequest => .user gatewayAdminDecision
  | gatewayAdminDecision => .exclusive
      [(.or (is "adminDecision" "APPROVE_REFUND") (is "adminDecision" "PARTIAL_REFUND"), taskCheckRefundIdempotency),
        (is "adminDecision" "REJECT", taskUpdateRefundRejected), (is "adminDecision" "EXCHANGE_PRODUCT", taskCreateExchangeRequest)]
  | taskCheckRefundIdempotency => .service .checkRefundIdempotency taskCreateRefundRecord
  | taskCreateRefundRecord => .service .createRefundRecord taskCallGatewayRefundApi
  | taskCallGatewayRefundApi => .service .callGatewayApi eventWaitRefundResult
  | eventWaitRefundResult => .message "refund.result.received" taskPersistRefundResultTransaction (some gatewayRetryRefund)
  | taskPersistRefundResultTransaction => .service .persistRefundResultTransaction gatewayIsRefundSuccessful
  | gatewayIsRefundSuccessful => .exclusive
      [(is "refundStatus" "SUCCESS", taskSignalOutboxPublisherRefunded), (.ne "refundStatus" (.text "SUCCESS"), gatewayRetryRefund)]
  | gatewayRetryRefund => .exclusive
      [(isBool "refundRetryAllowed" true, taskIncreaseRefundRetry),
        (isBool "refundRetryAllowed" false, userTaskAdminReviewRefundRequest)]
  | taskIncreaseRefundRetry => .service .increaseRetryCount taskCallGatewayRefundApi
  | taskSignalOutboxPublisherRefunded => .service .signalPublisher taskNotifyCustomerRefunded
  | taskNotifyCustomerRefunded => .service .refundCompleted endEventRefundCompleted
  | endEventRefundCompleted => .finish
  | taskUpdateRefundRejected => .service .updateRejected taskNotifyCustomerRefundRejected
  | taskNotifyCustomerRefundRejected => .service .refundRejected endEventRefundRejected
  | endEventRefundRejected => .finish
  | taskCreateExchangeRequest => .service .createExchangeRequest taskUpdateOrderInventoryForExchange
  | taskUpdateOrderInventoryForExchange => .service .updateOrderInventoryExchange taskNotifyCustomerExchange
  | taskNotifyCustomerExchange => .service .exchangeCreated endEventExchangeCreated
  | endEventExchangeCreated => .finish

def processRefundWorkflow : Process RefundNode Topic Value := ⟨RefundNode.element⟩

/-! ## Process_Payment_Reconciliation -/

inductive ReconciliationNode
  | startEventReconciliationTimer
  | taskFindPendingPayments
  | gatewayHasPendingPayments
  | endEventNoPendingPayments
  | taskQueryGatewayStatus
  | gatewayGatewayResult
  | taskPersistSuccessTransaction
  | taskSignalOutboxSuccess
  | taskCorrelateOrderSuccess
  | endEventReconciledSuccess
  | taskPersistFailedTransaction
  | taskCancelReleaseOrder
  | taskSignalOutboxFailed
  | endEventReconciledFailed
  | taskIncreaseReconciliationAttempt
  | gatewayTooManyAttempts
  | endEventWaitNextSchedule
  | userTaskManualReconciliationReview
  | endEventReconciliationReviewRequired
  deriving DecidableEq, Repr

def ReconciliationNode.element : ReconciliationNode → Element ReconciliationNode Topic Value
  | startEventReconciliationTimer => .start taskFindPendingPayments
  | taskFindPendingPayments => .service .findPendingForReconciliation gatewayHasPendingPayments
  | gatewayHasPendingPayments => .exclusive
      [(isBool "hasPendingPayments" false, endEventNoPendingPayments), (isBool "hasPendingPayments" true, taskQueryGatewayStatus)]
  | endEventNoPendingPayments => .finish
  | taskQueryGatewayStatus => .service .queryGatewayStatus gatewayGatewayResult
  | gatewayGatewayResult => .exclusive
      [(is "gatewayResult" "SUCCESS", taskPersistSuccessTransaction),
        (.or (.or (is "gatewayResult" "FAILED") (is "gatewayResult" "EXPIRED")) (is "gatewayResult" "CANCELLED"),
          taskPersistFailedTransaction),
        (is "gatewayResult" "UNKNOWN", taskIncreaseReconciliationAttempt)]
  | taskPersistSuccessTransaction => .service .persistReconciledSuccess taskSignalOutboxSuccess
  | taskSignalOutboxSuccess => .service .signalPublisher taskCorrelateOrderSuccess
  | taskCorrelateOrderSuccess => .service .correlatePaymentSuccess endEventReconciledSuccess
  | endEventReconciledSuccess => .finish
  | taskPersistFailedTransaction => .service .persistReconciledFailed taskCancelReleaseOrder
  | taskCancelReleaseOrder => .service .cancelRelease taskSignalOutboxFailed
  | taskSignalOutboxFailed => .service .signalPublisher endEventReconciledFailed
  | endEventReconciledFailed => .finish
  | taskIncreaseReconciliationAttempt => .service .increaseReconciliationAttempt gatewayTooManyAttempts
  | gatewayTooManyAttempts => .exclusive
      [(isBool "tooManyAttempts" false, endEventWaitNextSchedule), (isBool "tooManyAttempts" true, userTaskManualReconciliationReview)]
  | endEventWaitNextSchedule => .finish
  | userTaskManualReconciliationReview => .user endEventReconciliationReviewRequired
  | endEventReconciliationReviewRequired => .finish

def processPaymentReconciliation : Process ReconciliationNode Topic Value := ⟨ReconciliationNode.element⟩

end Balii
