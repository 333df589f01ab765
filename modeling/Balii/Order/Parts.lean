import Balii.Footprint
/-!
# Order.Parts — the two transactions that move an order, in parts

What they do to stock, vouchers and payments they do in three helpers; everything else writes orders and return requests.
-/
namespace Balii

open Rowdb Tx Sql

/-- The parts `Part` allows hold the helpers, and whatever stays within the order's own tables. -/
structure OrderParts (Part : (α : Type) → Trans α → Prop) : Prop where
  other {α : Type} {t : Trans α} {ts : List Tab} (h : Writes (Into ts) t)
    (hts : ∀ u ∈ ts, u ∈ [Tab.orders, Tab.returnRequests]) : Part α t
  transition (id : Uuid) (target : InventoryTarget) (now : Time) : Parts Part (transitionInventoryInTransaction id target now)
  release (id : Uuid) : Parts Part (releaseVoucherUsageInTransaction id)
  payments (id : Uuid) : Parts Part (cancelPendingPaymentsInTransaction id)

namespace OrderParts

variable {Part : (α : Type) → Trans α → Prop} (p : OrderParts Part)
include p

/-- A part that writes nothing. -/
theorem still {α : Type} {t : Trans α} (h : Writes (Into []) t) : Parts Part t := .part (p.other h fun _ hu => (nomatch hu))

theorem within {α : Type} {t : Trans α} {ts : List Tab} (h : Writes (Into ts) t)
    (hts : ∀ u ∈ ts, u ∈ [Tab.orders, Tab.returnRequests]) : Parts Part t :=
  .part (p.other h hts)

theorem cancel {α : Type} (id : Uuid) (now : Time) {t : Trans α} (ht : Parts Part t) : Parts Part (do
    transitionInventoryInTransaction id .released now
    releaseVoucherUsageInTransaction id
    cancelPendingPaymentsInTransaction id
    t : Trans α) :=
  parts_bind (p.transition _ _ _) fun _ => parts_bind (p.release id) fun _ =>
    parts_bind (p.payments id) fun _ => ht

theorem updatePaymentStatus (id : Uuid) (payment : ReportedPayment) (status : Option OrderStatus) (now : Time) :
    Parts Part (updatePaymentStatusTransaction id payment status now) := by
  refine parts_bind (p.still writes_fetchJoin) fun order => parts_bind ?_ fun next => ?_
  · cases payment with
    | failed =>
      refine parts_if (parts_bind (p.still writes_select) fun settled => ?_) (p.still (writes_pure _))
      exact parts_if (p.still (writes_pure _)) (p.cancel id now (p.still (writes_pure _)))
    | paid =>
      refine parts_bind (p.still (writes_ensure _ _)) fun _ => parts_if (parts_bind ?_ fun _ => p.still (writes_pure _))
        (parts_bind (p.still (writes_ensure _ _)) fun _ => p.still (writes_pure _))
      exact p.transition _ _ _
    | refunded => exact parts_bind (p.still (writes_ensure _ _)) fun _ => p.still (writes_pure _)
    | unpaid => exact p.still (writes_pure _)
    | pending => exact p.still (writes_pure _)
  · refine parts_bind (p.still (writes_ensure _ _)) fun _ => ?_
    refine parts_bind (p.within (writes_applyNextStatus _ _ _ _ _) (by decide)) fun changed => ?_
    refine parts_if (parts_bind ?_ fun _ => p.still (writes_pure _)) (p.still (writes_pure _))
    exact p.within (writes_completeReturns _ _) (by decide)

theorem updateOrderStatus (id : Uuid) (status : OrderStatus) (note : Option String) (now : Time) :
    Parts Part (updateOrderStatusTransaction id status note now) := by
  refine parts_bind (p.still writes_fetchJoin) fun order => parts_if (p.still (writes_pure _)) ?_
  refine parts_bind (p.still (writes_ensure _ _)) fun _ => parts_bind (p.still writes_select) fun payments => ?_
  refine parts_bind ?_ fun _ => parts_bind (p.within (writes_setOrderStatus _ _ _ _ _) (by decide)) fun _ =>
    p.still (writes_pure _)
  cases status with
  | confirmed => exact parts_bind (p.still (writes_ensure _ _)) fun _ => p.transition _ _ _
  | cancelled =>
    refine parts_bind (p.still (writes_ensure _ _)) fun _ => parts_bind (p.transition _ _ _) fun _ => ?_
    exact parts_bind (p.release id) fun _ => p.payments id
  | _ => exact p.still (writes_pure _)

end OrderParts
end Balii
