import Balii.Order.ReturnQuantities
import Balii.Payment.Payouts
/-!
# Order.LateDispatch — the dispatcher's last word

`receiveReturnRequest` records the outcome of its dispatch in an `UPDATE` of its own, long after its transaction, guarded only
against a completed request.  What the provider reported in the meantime, and what an administrator did about it, stays
exactly where that `UPDATE` finds the request as the receipt left it.
-/
namespace Balii

open Rowdb Tx Sql System

/-- The `UPDATE` of a dispatch that was taken finds its request waiting for the provider or closed, and that of a failed one
does not find it waiting for a manual refund. -/
def InTime {cfg : Config} (c : Commit cfg) : Prop :=
  ∀ k r, c.before.find Tab.returnRequests k = some r →
    (∀ paymentId reused now, c.op = .recordDispatch k paymentId reused now → r.status = .refundPending ∨ r.status = .completed) ∧
      (c.op = .recordDispatchFailure k → r.status ≠ .manualRefundPending)

section Step
variable {cfg : Config} {c : Commit cfg} {Inv : Db → Prop} {G : List (LockKey schema) → Db → Db → Prop}

end Step

end Balii
