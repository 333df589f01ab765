import Balii.Schema
/-!
# Order.Inventory — reserving, committing and releasing stock

A checkout reserves stock item by item; payment or cancellation moves it on, variant by variant, with the quantities of
the order's items summed.  Every change of a variant goes through the audit trigger of `product_variants`.
-/
namespace Balii

open Rowdb

/-- What `setInventoryAuditContext` leaves for the trigger. -/
structure AuditContext where
  eventType : String
  referenceType : Option String
  referenceId : Option String
  actorId : Option Uuid
  deriving DecidableEq, Repr

/-- `audit_inventory_movement`: a line in the ledger for every change of the two balances. -/
def auditInventoryMovement (ctx : AuditContext) (variantId : Uuid) (old new : Variant) : Trans Unit :=
  if new.stockQuantity - old.stockQuantity = 0 ∧ new.reservedQuantity - old.reservedQuantity = 0 then pure ()
  else log (.movement {
    variantId, eventType := ctx.eventType, referenceType := ctx.referenceType, referenceId := ctx.referenceId
    actorId := ctx.actorId
    stockDelta := new.stockQuantity - old.stockQuantity
    reservedDelta := new.reservedQuantity - old.reservedQuantity
    stockAfter := new.stockQuantity, reservedAfter := new.reservedQuantity })

/-- `UPDATE product_variants SET … WHERE id = $1 AND … RETURNING id`, with its trigger: whether the row was updated. -/
def updateVariantWhere (ctx : AuditContext) (variantId : Uuid) (p : Variant → Bool) (f : Variant → Variant) : Trans Bool := do
  let updated ← updateRowWhere .variants variantId p f
  match updated with
  | none => pure false
  | some old => do
    auditInventoryMovement ctx variantId old (f old)
    pure true

/-! ## Reservation -/

/-- One line of a cart snapshot, a bought item or a gift. -/
structure CheckoutItem where
  variantId : Uuid
  productName : String
  unitPrice : ℚ
  quantity : ℤ
  subtotal : ℚ
  campaignId : Option Uuid
  campaignDiscountType : Option String

def Variant.reserve (quantity : ℤ) (v : Variant) : Variant := { v with reservedQuantity := v.reservedQuantity + quantity }

/-- The reservation loop of `createOrder`. -/
def reserveItem (ctx : AuditContext) (item : CheckoutItem) : Trans Unit := do
  let reserved ← updateVariantWhere ctx item.variantId
    (fun v => v.isActive && decide (item.quantity ≤ v.stockQuantity - v.reservedQuantity)) (Variant.reserve item.quantity)
  Tx.ensure (reserved = true) (conflict ("Sản phẩm " ++ item.productName ++ " không còn đủ tồn kho."))

/-! ## Moving an order's stock on -/

/-- How many of a variant an order's items ask for. -/
def quantityOf (items : List OrderItem) (variantId : Uuid) : ℤ :=
  ((items.filter fun i => i.variantId = variantId).map fun i => i.quantity).sum

/-- `SELECT variant_id, SUM(quantity) … GROUP BY variant_id`. -/
def itemsByVariant (items : List OrderItem) : List (Uuid × ℤ) :=
  (items.map fun i => i.variantId).dedup.map fun v => (v, quantityOf items v)

/-- `'committed' | 'released'`. -/
inductive InventoryTarget
  | committed
  | released
  deriving DecidableEq, Repr

def InventoryTarget.state : InventoryTarget → InventoryState
  | .committed => .committed
  | .released => .released

/-- The `WHERE` of the update that moves `quantity` of a variant from the state `current` to `target`. -/
def Variant.canMove (target : InventoryTarget) (current : InventoryState) (quantity : ℤ) (v : Variant) : Bool :=
  match target, current with
  | .committed, _ => decide (quantity ≤ v.stockQuantity) && decide (quantity ≤ v.reservedQuantity)
  | .released, .reserved => decide (quantity ≤ v.reservedQuantity)
  | .released, _ => true

/-- Its `SET`. -/
def Variant.move (target : InventoryTarget) (current : InventoryState) (quantity : ℤ) (v : Variant) : Variant :=
  match target, current with
  | .committed, _ =>
    { v with stockQuantity := v.stockQuantity - quantity, reservedQuantity := v.reservedQuantity - quantity }
  | .released, .reserved => { v with reservedQuantity := v.reservedQuantity - quantity }
  | .released, _ => { v with stockQuantity := v.stockQuantity + quantity }

/-- The error `transitionInventoryInTransaction` should never throw. -/
def inventoryInconsistent (variantId : Uuid) : Err :=
  badRequest ("Tồn kho của biến thể " ++ toString variantId ++ " không nhất quán.")

def moveVariant (ctx : AuditContext) (target : InventoryTarget) (current : InventoryState) (item : Uuid × ℤ) : Trans Unit := do
  let moved ← updateVariantWhere ctx item.1 (Variant.canMove target current item.2) (Variant.move target current item.2)
  Tx.ensure (moved = true) (inventoryInconsistent item.1)

def transitionEvent (target : InventoryTarget) (current : InventoryState) : String :=
  match target, current with
  | .committed, _ => "order_committed"
  | .released, .committed => "order_cancelled_restocked"
  | .released, _ => "order_released"

/-- Which states an order's stock may come from. -/
def InventoryTarget.from : InventoryTarget → InventoryState → Bool
  | .committed, .reserved => true
  | .released, .reserved => true
  | .released, .committed => true
  | _, _ => false

def transitionInventoryInTransaction (orderId : Uuid) (target : InventoryTarget) (now : Time) : Trans Unit := do
  let order ← fetch .orders orderId (notFound "Order not found")
  if order.inventoryState = target.state then pure ()
  else do
    Tx.ensure (target.from order.inventoryState = true)
      (conflict ("Không thể chuyển tồn kho từ " ++ order.inventoryState.code ++ " sang " ++ target.state.code ++ "."))
    let ctx : AuditContext :=
      { eventType := transitionEvent target order.inventoryState, referenceType := some "order"
        referenceId := some orderId.text, actorId := none }
    Tx.each (moveVariant ctx target order.inventoryState) (itemsByVariant order.items)
    updateRow .orders orderId fun o => { o with inventoryState := target.state, updatedAt := now }

/-! ## Vouchers -/

/-- `DELETE FROM voucher_usages … RETURNING`, and one use less for the voucher of a deleted row. -/
def releaseVoucherUsageInTransaction (orderId : Uuid) : Trans Unit := do
  let usage ← deleteFrom .voucherUsages orderId
  match usage with
  | none => pure ()
  | some u => updateRow .vouchers u.voucherId fun v => { v with usedCount := max (v.usedCount - 1) 0 }

end Balii
