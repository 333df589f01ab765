import Balii.Footprint
import Balii.Lib.Extend
import Balii.Saving
/-!
# BackOffice — the platform with the vouchers' own service and the admin's edits

The order service reserves stock and counts vouchers with SQL of its own; the product and voucher services write the same
tables.  `shop` is the platform with those writers beside it.
-/
namespace Balii

open Rowdb

inductive BackOp
  -- voucher service
  | readVoucher (id : Uuid)
  | redeemVoucher (r : Redemption)
  | insertVoucher (id : Uuid) (v : Voucher)
  | updateVoucherRow (id : Uuid) (entity reloaded : Voucher)
  -- product service
  | readVariant (id : Uuid)
  | createVariant (dto : CreateVariant) (actorId : Option Uuid)
  | insertVariant (id : Uuid) (v : Variant)
  | updateVariantRow (id : Uuid) (entity reloaded : Variant)

@[reducible] def BackOp.Res : BackOp → Type
  | .readVoucher _ => Option Voucher
  | .redeemVoucher _ => JsNumber
  | .readVariant _ => Option Variant
  | _ => Unit

def BackOp.tx (cfg : Config) : (op : BackOp) → Trans op.Res
  | .readVoucher id => query fun s => s.find Tab.vouchers id
  | .redeemVoucher r => redeemVoucherTransaction cfg r
  | .insertVoucher id v => Balii.insertVoucher id v
  | .updateVoucherRow id entity reloaded => Balii.updateVoucherRow id entity reloaded
  | .readVariant id => query fun s => s.find Tab.variants id
  | .createVariant dto actorId => Balii.createVariant dto actorId
  | .insertVariant id v => Balii.insertVariant (directContext "initial_stock") id v
  | .updateVariantRow id entity reloaded => Balii.updateVariantRow id entity reloaded

inductive BackCall
  | redeemVoucher (r : Redemption)
  | createVoucher (dto : CreateVoucher)
  | updateVoucher (id : Uuid) (dto : UpdateVoucher)
  | removeVoucher (id : Uuid)
  | createVariant (dto : CreateVariant) (actorId : Option Uuid)
  | removeVariant (id : Uuid)

abbrev ShopProcedure (α : Type) := Proc (Op ⊕ BackOp) (Sum.elim Op.Res BackOp.Res) (Call ⊕ BackCall) Reply Answer Err α

/-- A transaction of the back office. -/
def office (op : BackOp) : ShopProcedure op.Res := Proc.trans (Sum.inr op : Op ⊕ BackOp)

/-- `voucherRepository.save`. -/
def saveVoucher (id : Uuid) (entity : Voucher) : ShopProcedure Unit := do
  let reloaded ← office (.readVoucher id)
  match reloaded with
  | none => office (.insertVoucher id entity)
  | some stored => if entity = stored then pure () else office (.updateVoucherRow id entity stored)

/-- `variantRepo.save`. -/
def saveVariant (id : Uuid) (entity : Variant) : ShopProcedure Unit := do
  let reloaded ← office (.readVariant id)
  match reloaded with
  | none => office (.insertVariant id entity)
  | some stored => if entity = stored then pure () else office (.updateVariantRow id entity stored)

namespace VoucherService

def redeemVoucher (r : Redemption) : ShopProcedure Reply := do
  let _ ← office (.redeemVoucher r)
  pure .done

def create (cfg : Config) (dto : CreateVoucher) : ShopProcedure Reply := do
  Proc.ofExcept (validateDateRange dto.startDate dto.endDate)
  Proc.ofExcept (validateDiscountPayload dto.discountType.code dto.discountValue dto.maxDiscount)
  office (.insertVoucher dto.id (dto.row cfg))
  pure .done

def update (cfg : Config) (id : Uuid) (dto : UpdateVoucher) : ShopProcedure Reply := do
  let found ← office (.readVoucher id)
  let voucher ← Proc.need found (notFound "Voucher not found")
  Proc.ofExcept (dto.check voucher)
  saveVoucher id (dto.applyTo cfg voucher)
  pure .done

def remove (id : Uuid) : ShopProcedure Reply := do
  let found ← office (.readVoucher id)
  let voucher ← Proc.need found (notFound "Voucher not found")
  saveVoucher id { voucher with isActive := false }
  pure .done

end VoucherService

namespace ProductVariantsService

def create (dto : CreateVariant) (actorId : Option Uuid) : ShopProcedure Reply := do
  office (.createVariant dto actorId)
  pure .done

def remove (id : Uuid) : ShopProcedure Reply := do
  let found ← office (.readVariant id)
  let variant ← Proc.need found (notFound "Product variant not found")
  saveVariant id { variant with isActive := false }
  pure .done

end ProductVariantsService

def BackCall.proc (cfg : Config) : BackCall → ShopProcedure Reply
  | .redeemVoucher r => VoucherService.redeemVoucher r
  | .createVoucher dto => VoucherService.create cfg dto
  | .updateVoucher id dto => VoucherService.update cfg id dto
  | .removeVoucher id => VoucherService.remove id
  | .createVariant dto actorId => ProductVariantsService.create dto actorId
  | .removeVariant id => ProductVariantsService.remove id

@[reducible] def backOffice (cfg : Config) : System.Extension (platform cfg) where
  Op := BackOp
  Res := BackOp.Res
  Call := BackCall
  tx := BackOp.tx cfg
  proc := BackCall.proc cfg

/-- **The shop**: the platform and its back office. -/
@[reducible] def shop (cfg : Config) : System := (platform cfg).extend (backOffice cfg)

abbrev ShopCommit (cfg : Config) : Type := System.Commit (shop cfg)

/-! ## The tables they write -/

section Footprint
open Tx Sql

def BackOp.tables : BackOp → List Tab
  | .readVoucher _ => []
  | .redeemVoucher _ => [.vouchers, .voucherUsages]
  | .insertVoucher .. => [.vouchers]
  | .updateVoucherRow .. => [.vouchers]
  | .readVariant _ => []
  | .createVariant .. => [.variants]
  | .insertVariant .. => [.variants]
  | .updateVariantRow .. => [.variants]

theorem writes_redeemVoucher (cfg : Config) (r : Redemption) : Writes (Into [.vouchers, .voucherUsages]) (redeemVoucherTransaction cfg r) := by
  refine writes_bind (writes_bind writes_select fun _ => writes_bind (writes_need _ _) fun _ => writes_bind writes_fetchJoin
    fun _ => writes_bind writes_claim fun _ => writes_pure _) fun _ => writes_bind ?_ fun _ => ?_
  · refine writes_bind (writes_ensure _ _) fun _ => writes_bind (writes_ensure _ _) fun _ => writes_bind (writes_ensure _ _)
      fun _ => writes_bind (writes_ensure _ _) fun _ => writes_bind (writes_ensure _ _) fun _ => ?_
    exact writes_bind writes_select fun _ => writes_bind (writes_ensure _ _) fun _ => writes_pure _
  · refine writes_bind writes_select fun _ => writes_bind (writes_ensure _ _) fun _ => ?_
    refine writes_bind (writes_update (into_update (by decide))) fun _ => ?_
    exact writes_bind (writes_insert (into_insert (by decide))) fun _ => writes_pure _

theorem writes_insertVariant (ctx : AuditContext) (id : Uuid) (v : Variant) :
    Writes (Into [.variants]) (insertVariant ctx id v) :=
  writes_bind (writes_insert (into_insert (by decide))) fun _ => writes_audit _ _ _ _

theorem writes_backTx (cfg : Config) (op : BackOp) : Writes (Into op.tables) (op.tx cfg) := by
  cases op with
  | readVoucher id => exact writes_select
  | redeemVoucher r => exact writes_redeemVoucher cfg r
  | insertVoucher id v => exact writes_bind writes_unique fun _ => writes_insert (into_insert List.mem_cons_self)
  | updateVoucherRow id entity reloaded =>
    refine writes_if (writes_update (into_update List.mem_cons_self)) (writes_bind writes_unique fun _ => ?_)
    exact writes_update (into_update List.mem_cons_self)
  | readVariant id => exact writes_select
  | createVariant dto actorId => exact writes_insertVariant _ _ _
  | insertVariant id v => exact writes_insertVariant _ _ _
  | updateVariantRow id entity reloaded =>
    refine writes_bind writes_forUpdate fun row => ?_
    cases row with
    | none => exact writes_pure _
    | some old => exact writes_bind (writes_update (into_update List.mem_cons_self)) fun _ => writes_audit _ _ _ _

def shopTables : Op ⊕ BackOp → List Tab
  | .inl op => op.tables
  | .inr op => op.tables

theorem writes_shopTx (cfg : Config) : (op : Op ⊕ BackOp) → Writes (Into (shopTables op)) ((shop cfg).tx op)
  | .inl op => writes_tx cfg op
  | .inr op => writes_backTx cfg op

/-- **A commit of the shop leaves the tables outside its footprint alone.** -/
theorem shop_rows_of_notMem {cfg : Config} {c : ShopCommit cfg} {Inv : Db → Prop} {G : List (LockKey schema) → Db → Db → Prop}
    (hf : c.Faithful Inv G) {t : Tab} (ht : t ∉ shopTables c.op) : c.after.rows t = c.before.rows t :=
  rows_written (D := schema) c.before fun w hw h =>
    ht ((Exec.writes _ hf (writes_shopTx cfg c.op) (fun _ h => nomatch h) w hw).table t h)

end Footprint

end Balii
