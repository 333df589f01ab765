import Balii.Config
import Balii.Money
import Balii.Order.Inventory
/-!
# Order.Checkout — the transaction of `createOrder`

One transaction replays an earlier order with the same key, or takes the voucher under its lock, reserves the stock of
every cart line, writes the order with its items and counts the voucher's use.
-/
namespace Balii

open Rowdb

structure ShippingAddress where
  provinceId : ℕ
  districtId : ℕ
  wardId : ℕ

/-- What `createOrder` hands to its transaction: the request, the cart snapshot, the fees, and the ids the rows get. -/
structure Checkout where
  orderId : Uuid
  orderCode : String
  itemId : ℕ ↪ Uuid
  userId : Uuid
  idempotencyKey : Uuid
  voucherCode : Option String
  shippingAddress : ShippingAddress
  items : List CheckoutItem
  cartSubtotal : ℤ
  shippingFee : ℤ
  now : Time

/-! ## The voucher -/

/-- The discount of `validateVoucherForCheckout`. -/
def voucherDiscount (v : Voucher) (orderAmount : ℚ) : JsNumber :=
  let discountAmount : JsNumber :=
    if v.typeCode.toLower = "percent" then percentOf orderAmount (amountNumber v.discountValue) else .num (amountNumber v.discountValue)
  roundNumber (JsNumber.max (.num 0) (JsNumber.min (.num orderAmount) (cappedAt v.maxDiscountAmount discountAmount)))

/-- `new Date(String(date)).getTime()`: the text of a date ends with its seconds. -/
def wholeSecond (t : Time) : Time := t / 1000 * 1000

def validateVoucherForCheckout (cfg : Config) (code : String) (userId : Uuid) (orderAmount : ℚ) (now : Time) :
    Trans (Uuid × JsNumber) := do
  let wanted := cfg.upper (trim code)
  let found ← query fun s => (s.rows Tab.vouchers).find fun _ v => cfg.upper v.code == wanted
  let id ← Tx.need (found.map fun e => e.1) (badRequest "Mã giảm giá không tồn tại.")
  let voucher ← fetchJoin .vouchers id (fun v => (v.typeCode, cfg.upper v.code)) (badRequest "Mã giảm giá không tồn tại.")
  Tx.ensure (voucher.isActive = true ∧ wholeSecond voucher.startsAt ≤ now ∧ now ≤ wholeSecond voucher.expiresAt)
    (badRequest "Mã giảm giá chưa có hiệu lực hoặc đã hết hạn.")
  Tx.ensure (∀ limit ∈ voucher.usageLimit, voucher.usedCount < limit) (badRequest "Mã giảm giá đã hết lượt sử dụng.")
  Tx.ensure (amountNumber voucher.minOrderAmount ≤ orderAmount) (badRequest "Đơn hàng chưa đạt giá trị tối thiểu của mã.")
  let used ← query fun s => ((s.rows Tab.voucherUsages).select fun _ u => u.voucherId == id && u.userId == userId).length
  Tx.ensure ((used : ℤ) < voucher.userLimitPerUser) (badRequest "Bạn đã dùng hết lượt của mã giảm giá này.")
  pure (id, voucherDiscount voucher orderAmount)

/-! ## The order -/

def CheckoutItem.toOrderItem (item : CheckoutItem) (id : Uuid) : OrderItem where
  id := id
  variantId := item.variantId
  productName := item.productName
  unitPrice := roundMoney item.unitPrice
  quantity := item.quantity
  subtotal := roundMoney item.subtotal
  campaignId := item.campaignId
  campaignDiscountType := item.campaignDiscountType

def Checkout.order (c : Checkout) (voucher : Option (Uuid × ℤ)) : Order where
  userId := c.userId
  orderCode := c.orderCode
  checkoutIdempotencyKey := c.idempotencyKey
  status := .pending
  inventoryState := .reserved
  voucherId := voucher.map fun v => v.1
  subtotal := c.cartSubtotal
  discountAmount := (voucher.map fun v => v.2).getD 0
  shippingFee := c.shippingFee
  totalAmount := max 0 (c.cartSubtotal - (voucher.map fun v => v.2).getD 0 + c.shippingFee)
  items := c.items.zipIdx.map fun e => e.1.toOrderItem (c.itemId e.2)
  createdAt := c.now
  updatedAt := c.now

/-- `INSERT INTO orders` and `order_items`, with the constraints of both tables. -/
def insertOrder (id : Uuid) (o : Order) : Trans Unit := do
  Tx.ensure (0 ≤ o.subtotal ∧ 0 ≤ o.discountAmount ∧ 0 ≤ o.shippingFee ∧ 0 ≤ o.totalAmount)
    (checkViolation "chk_orders_money_nonnegative")
  uniqueIn (.orderCode o.orderCode) .orders (fun _ r => r.orderCode == o.orderCode) (uniqueViolation "orders_order_code_key")
  uniqueIn (.checkoutKey o.checkoutIdempotencyKey) .orders
    (fun _ r => r.checkoutIdempotencyKey == o.checkoutIdempotencyKey) (uniqueViolation "uq_orders_checkout_idempotency_key")
  Tx.ensure (∀ i ∈ o.items, 0 < i.quantity) (checkViolation "order_items_quantity_check")
  insertInto .orders id o (uniqueViolation "orders_pkey")

def useVoucher (orderId userId : Uuid) (voucher : Uuid × ℤ) : Trans Unit := do
  updateRow .vouchers voucher.1 fun v => { v with usedCount := v.usedCount + 1 }
  insertInto .voucherUsages orderId { voucherId := voucher.1, userId, discountApplied := voucher.2 }
    (uniqueViolation "ux_voucher_usages_order")

/-- The voucher of the request, when it names one, and its discount as it is stored. -/
def checkoutVoucher (cfg : Config) (c : Checkout) : Trans (Option (Uuid × ℤ)) :=
  match nonEmpty c.voucherCode with
  | none => pure none
  | some code => do
    let voucher ← validateVoucherForCheckout cfg code c.userId (amountNumber c.cartSubtotal) c.now
    pure (some (voucher.1, storedAmount voucher.2))

def recordVoucherUse (c : Checkout) (voucher : Option (Uuid × ℤ)) : Trans Unit :=
  match voucher with
  | none => pure ()
  | some v => useVoucher c.orderId c.userId v

/-- A checkout whose key no order carries yet. -/
def placeOrder (cfg : Config) (c : Checkout) : Trans Uuid := do
  Tx.ensure ((c.shippingAddress.wardId, c.shippingAddress.districtId, c.shippingAddress.provinceId) ∈ cfg.wards)
    (badRequest "Địa chỉ giao hàng có tỉnh, quận/huyện hoặc phường/xã không hợp lệ.")
  let voucher ← checkoutVoucher cfg c
  let ctx : AuditContext :=
    { eventType := "order_reserved", referenceType := some "checkout", referenceId := some c.idempotencyKey.text
      actorId := some c.userId }
  Tx.each (reserveItem ctx) c.items
  insertOrder c.orderId (c.order voucher)
  recordVoucherUse c voucher
  pure c.orderId

/-- The transaction of `createOrder`: the id of the order that carries the key. -/
def createOrderTransaction (cfg : Config) (c : Checkout) : Trans Uuid := do
  let replay ← query fun s => (s.rows Tab.orders).find fun _ o =>
    o.userId == c.userId && o.checkoutIdempotencyKey == c.idempotencyKey
  match replay with
  | some e => pure e.1
  | none => placeOrder cfg c

end Balii
