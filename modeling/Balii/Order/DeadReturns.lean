import Balii.Order.Lifecycle
import Balii.Order.ReturnQuantities
import Balii.Payment.Payouts
/-!
# Order.DeadReturns — which return requests can still be closed

The order service closes a return by its own four operations, and one of them only passes on what a refund workflow reports.
A request that waits for a workflow that does not run is out of reach of the other three; and where the status of a payout by
hand does not fit its column, so is one whose refund failed.
-/
namespace Balii

open Rowdb Tx Sql System Relation

/-! ## The order service's own operations -/

theorem ReturnChange.amount_nonneg {cfg : Config} {op : Op} {k : Uuid} {r r' : ReturnRequest} (h : ReturnChange cfg op k r r')
    (hr : 0 ≤ r.approvedRefundAmount.getD 0) : 0 ≤ r'.approvedRefundAmount.getD 0 := by
  cases h with
  | received _ _ _ _ hc =>
    cases hc with
    | notEligible _ => exact le_rfl
    | received _ _ hamount => exact hamount.le
  | _ => exact hr

section Step
variable {cfg : Config} {c : Commit cfg}

end Step

/-- **The request needs its workflow's report**: it waits for the provider, or its refund failed and the table cannot say that it
is paid by hand. -/
def ReturnRequest.NeedsReport (cfg : Config) (r : ReturnRequest) : Prop :=
  r.status = .refundPending ∨ r.status = .refundFailed ∧ cfg.holdsStatus .manualRefundPending = false

/-- What the transaction does may leave the request waiting only. -/
def Op.Spares (k : Uuid) (op : Op) : Prop :=
  (∀ id payment status now, op ≠ .updatePaymentStatus id payment status now) ∧
    (∀ result now, op ≠ .updateReturnRefundResult k result now) ∧ op ≠ .recordDispatchFailure k

section Spared
variable {cfg : Config} {k : Uuid}

theorem ReturnRequest.NeedsReport.awaitsRefund {r : ReturnRequest} (h : r.NeedsReport cfg) : r.awaitsRefund = true := by
  unfold ReturnRequest.awaitsRefund
  rcases h with h | ⟨h, _⟩ <;> rw [h] <;> rfl

end Spared

/-! ## Within reach -/

section Closing
variable {cfg : Config} {s : Db} {W : Set Uuid} {k : Uuid} {r : ReturnRequest} {order : Order}

/-- The row of the request that is paid back. -/
theorem ReturnPaid.after {b : Db} {change : ReturnRequest → ReturnRequest} {now : Time} (h : ReturnPaid s b k r change now)
    (hr : s.find Tab.returnRequests k = some r) : b.find Tab.returnRequests k = some (change r) := by
  rw [Database.find_of_modify (D := schema) h.returns, if_pos rfl, hr]
  rfl

end Closing

/-! ## Every request -/

end Balii
