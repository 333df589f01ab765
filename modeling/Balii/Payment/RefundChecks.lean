import Balii.Payment.Service
/-!
# Payment.RefundChecks — what a refund request has to pass before it is a refund

The refund workflow first looks at the request, then at the payment, then at the order; the last look decides whether the
money goes back by itself, by a person's decision, or not at all.  What comes from the process is text or a number of
dong, and may be missing.
-/
namespace Balii

open Rowdb Procedure

/-- `!x || x <= 0`. -/
def JsNumber.isPositive (x : JsNumber) : Bool := x != .nan && !x.le 0

/-- A number of dong in hundredths; what is not finite does not fit the column. -/
def JsNumber.hundredths (x : JsNumber) : Option ℚ :=
  match x with
  | .num q => some (q * 100)
  | _ => none

/-- A text as the UUID of a query parameter. -/
def uuidParameter (s : String) : Procedure Uuid := Proc.need (Uuid.ofText s) (invalidText "uuid")

/-- A parameter that JavaScript takes for given. -/
def requireText (value : Option String) (message : String) : Procedure String :=
  Proc.need (nonEmpty value) (badRequest message)

/-- `paymentId`, `amount` and `reason` of a request, with the checks both `validateRefundRequest` and
`validateRefundCondition` begin with. -/
def requireRefundRequest (paymentId : Option String) (amount : JsNumber) (reason : Option String) : Procedure (Uuid × String) := do
  let id ← requireText paymentId "Missing paymentId"
  let reason ← requireText (reason.map trim) "Missing refund reason"
  Proc.ensure (amount.isPositive = true) (badRequest "Invalid refund amount")
  let uuid ← uuidParameter id
  pure (uuid, reason)

structure RefundContext where
  paymentId : Uuid
  orderId : Uuid
  userId : Uuid
  method : PaymentMethod
  amount : JsNumber
  reason : String

def validateRefundRequest (paymentId : Option String) (amount : JsNumber) (reason : Option String) : Procedure RefundContext := do
  let request ← requireRefundRequest paymentId amount reason
  let found ← read (.payment request.1)
  let payment ← Proc.need found (notFound "Payment not found")
  pure { paymentId := payment.1, orderId := payment.2.orderId, userId := payment.2.userId, method := payment.2.method
         amount, reason := request.2 }

def PaymentStatus.code : PaymentStatus → String
  | .pending => "pending"
  | .paid => "paid"
  | .failed => "failed"
  | .refunded => "refunded"
  | .partiallyRefunded => "partially_refunded"
  | .cancelled => "cancelled"

structure RefundCondition where
  refundAllowed : Bool
  paymentId : Uuid
  orderId : Uuid
  userId : Uuid
  method : PaymentMethod
  paymentStatus : PaymentStatus
  /-- In hundredths. -/
  refundableAmount : ℤ
  reason : Option String

/-- What is left of a payment, and whether the request fits into it. -/
def refundCondition (paymentId : Uuid) (amount : JsNumber) (payment : Payment) (reserved : ℤ) : RefundCondition :=
  let refundableAmount := max (payment.amount - reserved) 0
  let fits := amount.le ((refundableAmount : ℚ) / 100)
  { refundAllowed := payment.status.refundable && fits, paymentId, orderId := payment.orderId, userId := payment.userId
    method := payment.method, paymentStatus := payment.status, refundableAmount
    reason := if !payment.status.refundable then some "Only paid payments can be refunded"
      else if !fits then some "Refund amount exceeds refundable balance" else none }

/-- `validateRefundCondition`, and `checkRefundPaymentStatus`, which adds nothing to it. -/
def validateRefundCondition (paymentId : Option String) (amount : JsNumber) (reason : Option String) :
    Procedure RefundCondition := do
  let request ← requireRefundRequest paymentId amount reason
  let found ← read (.refundBalance request.1)
  let balance ← Proc.need found (notFound "Payment not found")
  pure (refundCondition request.1 amount balance.1 balance.2)

/-! ## The route -/

inductive RefundRoute
  | autoRefund
  | adminReview
  | reject
  deriving DecidableEq, Repr

def RefundRoute.code : RefundRoute → String
  | .autoRefund => "AUTO_REFUND"
  | .adminReview => "ADMIN_REVIEW"
  | .reject => "REJECT"

/-- The route of an order in this status. -/
def refundRoute : OrderStatus → RefundRoute
  | .cancelled => .reject
  | .refunded => .reject
  | .pending => .autoRefund
  | .confirmed => .adminReview
  | .processing => .adminReview
  | .shipping => .adminReview
  | .delivered => .adminReview

def routeReason (status : OrderStatus) : Option String :=
  match refundRoute status with
  | .reject => some ("Order is already " ++ status.code)
  | .autoRefund => none
  | .adminReview => some ("Order status " ++ status.code ++ " requires admin review")

structure FulfillmentRoute where
  refundRoute : RefundRoute
  orderStatus : Option String
  routeReason : Option String

/-- `orderClientService.getOrder` with the texts of the process. -/
def getOrderOf (orderId userId : String) : Procedure OrderView :=
  match Uuid.ofText orderId, Uuid.ofText userId with
  | some orderId, some userId => OrderClient.getOrder orderId userId
  | _, _ => Proc.fail (badGateway "Unable to fetch order")

def checkRefundOrderFulfillmentStatus (orderId userId paymentStatus : Option String) (refundAllowed approvedReturnRequest : Bool) :
    Procedure FulfillmentRoute := do
  let orderId ← requireText orderId "Missing orderId"
  let userId ← requireText userId "Missing userId"
  if paymentStatus ≠ some "paid" ∧ paymentStatus ≠ some "partially_refunded" then
    pure { refundRoute := .reject, orderStatus := none, routeReason := some "Payment is not eligible for refund" }
  else if refundAllowed = false then
    pure { refundRoute := .reject, orderStatus := none, routeReason := some "Refund amount exceeds refundable balance" }
  else if approvedReturnRequest = true then
    pure { refundRoute := .autoRefund, orderStatus := some "return_received", routeReason := none }
  else do
    let order ← getOrderOf orderId userId
    pure { refundRoute := Balii.refundRoute order.status, orderStatus := some order.status.code
           routeReason := Balii.routeReason order.status }

end Balii
