import Balii.Order.LateDispatch
import Balii.Order.ReturnRefunds
/-!
# Order.FullRefunds — what a customer has back who returned everything

A request that finishes has the order's paid back amounts added up, under the order's lock, and the order is refunded when
they reach the total of its goods.  Each request is paid its own rounded share: where the shares lose more by rounding than
they gain, all goods are back and the order is not refunded.
-/
namespace Balii

open Rowdb Tx Sql System

/-! ## Finishing a request -/

/-- What a request counts for once it is finished and paid back. -/
def ReturnRequest.paidBack (r : ReturnRequest) : ℤ :=
  if r.status = .completed ∧ (r.refundStatus = some .completed ∨ r.refundStatus = some .manualCompleted)
  then r.approvedRefundAmount.getD 0 else 0

/-- The transaction can finish the request `k` of the order `id`. -/
def Op.Finishes (op : Op) (id k : Uuid) : Prop :=
  match op with
  | .updatePaymentStatus id' payment _ _ => id' = id ∧ payment = .refunded
  | .updateReturnRefundResult k' result _ => k' = k ∧ result = .completed
  | .completeManualReturnRefund m => m.returnRequestId = k
  | _ => False

section Row
variable {cfg : Config} {op : Op} {k : Uuid} {r r' : ReturnRequest}

theorem paidBack_of_not_completed (h : r.status ≠ .completed) : r.paidBack = 0 := if_neg fun hc => h hc.1

/-- **Nothing is paid back** by a change that does not finish the request. -/
theorem ReturnChange.unpaid (h : ReturnChange cfg op k r r') (hn : ¬ op.Finishes r.orderId k)
    (hclosed : ∀ id payment status now, op = .updatePaymentStatus id payment status now → payment ≠ .refunded → r' = r) :
    r'.paidBack = r.paidBack := by
  have hopen : r.status ≠ .completed → (r'.status == .completed) = false → r'.paidBack = r.paidBack := fun hr hr' => by
    rw [paidBack_of_not_completed hr, paidBack_of_not_completed (beq_eq_false_iff_ne.1 hr')]
  cases h with
  | kept => rfl
  | @closed id payment status now hop hid ha =>
    by_cases hp : payment = .refunded
    · exact absurd (by rw [hop]; exact ⟨hid.symm, hp⟩) hn
    · rw [hclosed _ _ _ _ hop hp]
  | completed hop _ => exact absurd (by rw [hop]; exact ⟨rfl, rfl⟩) hn
  | confirmed hop hk _ _ => exact absurd (by rw [hop]; exact hk) hn
  | failed _ ha => exact hopen (not_completed_of_awaits ha) rfl
  | toManual _ _ hst => exact hopen (by rw [hst]; decide) rfl
  | dispatched _ hst => exact hopen hst rfl
  | dispatchFailed _ hst => exact hopen hst rfl
  | @reviewed _ decision _ _ hst => exact hopen (by rw [hst]; decide) (by cases decision <;> rfl)
  | received _ _ hst _ hc =>
    rw [paidBack_of_not_completed (r := r) (by rw [hst]; decide)]
    cases hc with
    | notEligible restocked => exact if_neg fun hc => by rcases hc.2 with h | h <;> cases h
    | received restocked provider hamount => exact paidBack_of_not_completed (by cases provider <;> exact fun h => nomatch h)

end Row

section Exec
variable {R : List (LockKey schema) → Db → Db → Prop} {s : Db}

end Exec

/-! ## The invariant -/

section Step
variable {cfg : Config} {c : Commit cfg} {Inv : Db → Prop} {G : List (LockKey schema) → Db → Db → Prop}

end Step

/-! ## Every run -/

end Balii
