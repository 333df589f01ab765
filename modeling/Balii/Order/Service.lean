import Balii.Calls
/-!
# Order.Service — the procedures of the order service
-/
namespace Balii

open Rowdb Procedure

/-- The answer `findMyOrderById` gives. -/
def replyWithOrder (userId orderId : Uuid) : Procedure Reply := do
  let order ← read (.order userId orderId)
  let o ← Proc.need order (notFound "Order not found")
  pure (.order o)

def serviceUnavailable (message : String) : Err := ⟨.serviceUnavailable, message⟩

/-- `getDefaultShippingMethod`, and no fee from `FREE_SHIPPING_MIN_AMOUNT` on. -/
def shippingFeeOf (cfg : Config) (cartSubtotal : ℤ) : Except Err ℤ :=
  match cfg.shippingBaseFee with
  | none => .error (serviceUnavailable "Chưa có phương thức vận chuyển đang hoạt động.")
  | some fee =>
    if fee < 0 then .error (serviceUnavailable "Cấu hình phương thức vận chuyển không hợp lệ.")
    else match cfg.freeShippingMinimum with
      | none => .error (serviceUnavailable "Cấu hình miễn phí vận chuyển không hợp lệ.")
      | some minimum =>
        if minimum < 0 then .error (serviceUnavailable "Cấu hình miễn phí vận chuyển không hợp lệ.")
        else if 100 * minimum ≤ cartSubtotal then .ok 0 else .ok fee

/-- The answer to a checkout whose key an order carries already. -/
def replayOrder (userId orderId : Uuid) : Procedure Reply := do
  let order ← read (.order userId orderId)
  let o ← Proc.need order (notFound "Order not found")
  pure (.order { o with idempotentReplay := true })

/-- The transaction of a checkout: the order it saved or found, or the order that `catch` finds after a duplicate key. -/
def saveOrder (c : Checkout) : Procedure (Uuid ⊕ Uuid) :=
  Proc.exec (Op.createOrder c) fun result =>
    match result with
    | .ok id => .done (.inl id)
    | .error e =>
      if e.kind = .uniqueViolation then do
        let replay ← read (.orderByKey c.userId c.idempotencyKey)
        let id ← Proc.need replay e
        pure (.inr id)
      else .fail e

/-- What `createOrder` makes of its cart for its transaction. -/
def checkoutOf (cfg : Config) (dto : CreateOrder) (items : List CheckoutItem) (subtotal : ℚ) : Except Err Checkout := do
  let fee ← shippingFeeOf cfg (roundMoney subtotal)
  pure {
    orderId := dto.orderId, orderCode := dto.orderCode, itemId := dto.itemId, userId := dto.userId
    idempotencyKey := dto.idempotencyKey, voucherCode := dto.voucherCode, shippingAddress := dto.shippingAddress, items
    cartSubtotal := roundMoney subtotal, shippingFee := fee, now := dto.now }

theorem checkoutOf_ok {cfg : Config} {dto : CreateOrder} {items : List CheckoutItem} {subtotal : ℚ} {c : Checkout}
    (h : checkoutOf cfg dto items subtotal = .ok c) : ∃ fee, shippingFeeOf cfg (roundMoney subtotal) = .ok fee ∧ c = {
      orderId := dto.orderId, orderCode := dto.orderCode, itemId := dto.itemId, userId := dto.userId
      idempotencyKey := dto.idempotencyKey, voucherCode := dto.voucherCode, shippingAddress := dto.shippingAddress, items
      cartSubtotal := roundMoney subtotal, shippingFee := fee, now := dto.now } := by
  unfold checkoutOf at h
  cases hfee : shippingFeeOf cfg (roundMoney subtotal) with
  | error e =>
    rw [hfee] at h
    cases h
  | ok fee =>
    rw [hfee] at h
    cases h
    exact ⟨fee, rfl, rfl⟩

/-- A checkout that is not a replay: the cart is read once, and the transaction works on that snapshot. -/
def checkout (cfg : Config) (dto : CreateOrder) : Procedure Reply := do
  let cart ← Proc.answer
  match cart with
  | .cart items subtotal => do
    let c ← Proc.ofExcept (checkoutOf cfg dto items subtotal)
    let saved ← saveOrder c
    match saved with
    | .inl id => replyWithOrder dto.userId id
    | .inr id => replayOrder dto.userId id
  | .cartRejected message =>
    Proc.fail (conflict ((nonEmpty message).getD "Giỏ hàng không còn đủ tồn kho để checkout."))
  | _ => Proc.fail (badGateway "Unable to fetch checkout cart")

def createOrder (cfg : Config) (dto : CreateOrder) : Procedure Reply := do
  let existing ← read (.orderByKey dto.userId dto.idempotencyKey)
  match existing with
  | some id => replayOrder dto.userId id
  | none => checkout cfg dto

def updatePaymentStatus (orderId : Uuid) (payment : ReportedPayment) (status : Option OrderStatus) (now : Time) :
    Procedure Reply := do
  let transition ← trans (.updatePaymentStatus orderId payment status now)
  replyWithOrder transition.1 orderId

def updateOrderStatus (orderId : Uuid) (status : OrderStatus) (note : Option String) (now : Time) : Procedure Reply := do
  let userId ← trans (.updateOrderStatus orderId status note now)
  replyWithOrder userId orderId

def createReturnRequest (n : NewReturn) : Procedure Reply := do
  let selected ← Proc.ofExcept (parseReturnItems n.selected)
  let _ ← trans (.createReturnRequest { n with selected })
  pure .done

def reviewReturnRequest (id reviewedBy : Uuid) (decision : ReviewDecision) (note : String) : Procedure Reply := do
  Proc.ensure (decision = .approved ∨ trim note ≠ "") (badRequest "Vui lòng nhập lý do từ chối để thông báo cho khách hàng.")
  let current ← read (.returnRequest id)
  let request ← Proc.need current (notFound "Return request not found")
  Proc.ensure (request.status = .pending) (badRequest "Yêu cầu trả hàng này đã được xử lý.")
  trans (.reviewReturnRequest id reviewedBy decision (trim note))
  pure .done

/-- `try { … } catch`: the dispatch is recorded, and any error on the way is a failed dispatch. -/
def dispatchReturnRefund (d : ReturnRefundDispatch) (now : Time) : Procedure Unit :=
  Proc.catching (do
      let result ← PaymentClient.startReturnRefund d
      trans (.recordDispatch d.returnRequestId result.paymentId result.reused now))
    fun _ => trans (.recordDispatchFailure d.returnRequestId)

def receiveReturnRequest (rc : Receipt) : Procedure Reply := do
  let dispatch ← trans (.receiveReturnRequest rc)
  match dispatch with
  | none => pure .done
  | some d => do
    dispatchReturnRefund d rc.now
    pure .done

def updateReturnRefundResult (id : Uuid) (result : RefundOutcome) (now : Time) : Procedure Reply := do
  trans (.updateReturnRefundResult id result now)
  pure .done

def completeManualReturnRefund (m : ManualRefund) : Procedure Reply := do
  Proc.ensure (m.evidenceUrls ≠ []) (badRequest "Phải tải lên ít nhất một ảnh biên lai hoàn tiền.")
  let _ ← trans (.completeManualReturnRefund m)
  pure .done

def updateVariantCall (id : Uuid) (dto : UpdateVariant) (actorId : Option Uuid) : Procedure Reply := do
  trans (.updateVariant id dto actorId)
  pure .done

end Balii
