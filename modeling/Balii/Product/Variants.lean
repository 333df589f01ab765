import Balii.Order.Inventory
/-!
# Product.Variants — the admin's create, update and remove of a variant
-/
namespace Balii

open Rowdb

/-- `UpdateProductVariantDto`, the fields of the stock. -/
structure UpdateVariant where
  stockQuantity : Option ℤ
  reservedQuantity : Option ℤ
  isActive : Option Bool
  deriving DecidableEq, Repr

def UpdateVariant.applyTo (dto : UpdateVariant) (v : Variant) : Variant :=
  { v with
    stockQuantity := dto.stockQuantity.getD v.stockQuantity
    reservedQuantity := dto.reservedQuantity.getD v.reservedQuantity
    isActive := dto.isActive.getD v.isActive }

/-- `ProductVariantsService.update`. -/
def updateVariant (id : Uuid) (dto : UpdateVariant) (actorId : Option Uuid) : Trans Unit := do
  Tx.ensure (dto.reservedQuantity = none)
    (badRequest "Không được điều chỉnh số lượng đang giữ chỗ bằng API quản trị.")
  let variant ← fetch .variants id (notFound "Product variant not found")
  Tx.ensure (∀ q ∈ dto.stockQuantity, variant.reservedQuantity ≤ q)
    (badRequest "Tồn kho mới không được nhỏ hơn số lượng đang giữ chỗ.")
  let ctx : AuditContext := { eventType := "admin_adjustment", referenceType := some "product_variant", referenceId := some id.text, actorId }
  updateRow .variants id dto.applyTo
  auditInventoryMovement ctx id variant (dto.applyTo variant)

/-- `CreateProductVariantDto`, the fields of the stock, as the `ValidationPipe` lets it through. -/
structure CreateVariant where
  id : Uuid
  sku : String
  stockQuantity : ℤ
  isActive : Option Bool
  /-- `@Min(0)`. -/
  stockQuantity_nonneg : 0 ≤ stockQuantity

def CreateVariant.row (dto : CreateVariant) : Variant where
  stockQuantity := dto.stockQuantity
  reservedQuantity := 0
  isActive := dto.isActive.getD true

/-- An `INSERT` with its trigger, for which there is no `OLD` row. -/
def insertVariant (ctx : AuditContext) (id : Uuid) (v : Variant) : Trans Unit := do
  insertInto .variants id v (uniqueViolation "product_variants_pkey")
  auditInventoryMovement ctx id { v with stockQuantity := 0, reservedQuantity := 0 } v

/-- `ProductVariantsService.create`. -/
def createVariant (dto : CreateVariant) (actorId : Option Uuid) : Trans Unit :=
  insertVariant
    { eventType := "variant_created", referenceType := some "product_variant", referenceId := some dto.sku, actorId } dto.id
    dto.row

/-- What the trigger finds where no context was set. -/
def directContext (eventType : String) : AuditContext where
  eventType := eventType
  referenceType := none
  referenceId := none
  actorId := none

end Balii
