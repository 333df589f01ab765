import Balii.Product.Variants
import Balii.Voucher.Vouchers
/-!
# Saving — TypeORM's `repository.save` of a voucher and of a variant

`save(entity)` reads the row of the entity's id again, and its `UPDATE` sets the columns in which the entity in memory
differs from what was read.  Both reads are statements of their own: neither holds the row.
-/
namespace Balii

open Rowdb

/-- A column after the `UPDATE`: set when the entity differs from the row that was reloaded. -/
def savedColumn {α : Type} [DecidableEq α] (entity reloaded current : α) : α := if entity = reloaded then current else entity

theorem savedColumn_eq_current {α : Type} [DecidableEq α] {entity reloaded current : α} :
    savedColumn entity reloaded current = current ↔ entity = reloaded ∨ entity = current := by
  unfold savedColumn
  split
  · rename_i h
    exact ⟨fun _ => .inl h, fun _ => rfl⟩
  · rename_i h
    exact ⟨.inr, fun h' => h'.resolve_left h⟩

def Voucher.saved (entity reloaded current : Voucher) : Voucher where
  code := savedColumn entity.code reloaded.code current.code
  typeCode := savedColumn entity.typeCode reloaded.typeCode current.typeCode
  discountValue := savedColumn entity.discountValue reloaded.discountValue current.discountValue
  maxDiscountAmount := savedColumn entity.maxDiscountAmount reloaded.maxDiscountAmount current.maxDiscountAmount
  minOrderAmount := savedColumn entity.minOrderAmount reloaded.minOrderAmount current.minOrderAmount
  usageLimit := savedColumn entity.usageLimit reloaded.usageLimit current.usageLimit
  usedCount := savedColumn entity.usedCount reloaded.usedCount current.usedCount
  userLimitPerUser := savedColumn entity.userLimitPerUser reloaded.userLimitPerUser current.userLimitPerUser
  startsAt := savedColumn entity.startsAt reloaded.startsAt current.startsAt
  expiresAt := savedColumn entity.expiresAt reloaded.expiresAt current.expiresAt
  isActive := savedColumn entity.isActive reloaded.isActive current.isActive

/-- The `UPDATE` of `save`. -/
def updateVoucherRow (id : Uuid) (entity reloaded : Voucher) : Trans Unit := do
  if entity.code = reloaded.code then pure () else uniqueVoucherCode id entity.code
  updateRow .vouchers id (entity.saved reloaded)

def Variant.saved (entity reloaded current : Variant) : Variant where
  stockQuantity := savedColumn entity.stockQuantity reloaded.stockQuantity current.stockQuantity
  reservedQuantity := savedColumn entity.reservedQuantity reloaded.reservedQuantity current.reservedQuantity
  isActive := savedColumn entity.isActive reloaded.isActive current.isActive

/-- The `UPDATE` of `save`, with its trigger. -/
def updateVariantRow (id : Uuid) (entity reloaded : Variant) : Trans Unit := do
  let row ← lock .variants id
  match row with
  | none => pure ()
  | some old => do
    updateRow .variants id (entity.saved reloaded)
    auditInventoryMovement (directContext "direct_adjustment") id old (entity.saved reloaded old)

end Balii
