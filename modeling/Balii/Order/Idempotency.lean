import Balii.Lib.Perform
import Balii.Order.Stock
import Balii.Voucher.Usage
/-!
# Order.Idempotency — one order for a checkout's key

Checkouts with one key race to the unique index of `orders`.  Whoever claims the key's entry looks at the table after all
that had it before, so the order is placed once, with its reservations and its voucher use; everybody else writes nothing
and answers with that order.
-/
namespace Balii

open Rowdb Tx Sql System

/-- `uq_orders_checkout_idempotency_key`. -/
def UniqueCheckoutKeys (s : Db) : Prop :=
  ∀ id id' o o', s.find Tab.orders id = some o → s.find Tab.orders id' = some o' →
    o.checkoutIdempotencyKey = o'.checkoutIdempotencyKey → id = id'

/-- The order is there, the user's, and has the key. -/
def Carries (userId key id : Uuid) (s : Db) : Prop :=
  ∃ o, s.find Tab.orders id = some o ∧ o.userId = userId ∧ o.checkoutIdempotencyKey = key

/-- No order has the key. -/
def KeyFree (key : Uuid) (s : Db) : Prop := ∀ id o, s.find Tab.orders id = some o → o.checkoutIdempotencyKey ≠ key

/-- What others promise: orders keep their keys, and a new order's key was claimed. -/
def KeysClaimed (L : List (LockKey schema)) (a b : Db) : Prop :=
  (∀ key, LockKey.entry (D := schema) (.checkoutKey key) ∉ L → KeyFree key a → KeyFree key b) ∧
    ∀ userId key id, Carries userId key id a → Carries userId key id b

/-! ## What the transaction of a checkout finds -/

section Checkout
variable {R : List (LockKey schema) → Db → Db → Prop} {s : Db} {L : List (LockKey schema)} {ws : List (Write schema)}

end Checkout

/-! ## Every commit -/

/-- Whose an order is, by which key, and what it is of, stays. -/
theorem OrderChange.identity {R : List (LockKey schema) → Db → Db → Prop} {s b : Db} {id : Uuid} {o o' : Order}
    (h : OrderChange R s b id o o') : o'.userId = o.userId ∧ o'.checkoutIdempotencyKey = o.checkoutIdempotencyKey := by
  cases h <;> exact ⟨rfl, rfl⟩

variable {cfg : Config} {c : Commit cfg} {Inv : Db → Prop} {G : List (LockKey schema) → Db → Db → Prop}

theorem carries_after (hf : c.Faithful Inv G) {userId key id : Uuid} (h : Carries userId key id c.before) :
    Carries userId key id c.after := by
  obtain ⟨o, ho, huser, hkey⟩ := h
  obtain ⟨o', ho', hchange⟩ := order_after hf ho
  exact ⟨o', ho', hchange.identity.1.trans huser, hchange.identity.2.trans hkey⟩

/-- The commits of a run under the index. -/
abbrev Indexed (c : Commit cfg) : Prop := c.Faithful UniqueCheckoutKeys KeysClaimed

section Answers
variable {s s' : Db} {userId key id : Uuid}

theorem carries_indexed (c : Commit cfg) (hc : Indexed c) (h : Carries userId key id c.before) : Carries userId key id c.after :=
  carries_after hc h

theorem Moved.carries (h : Moved (S := platform cfg) (Regime.open Indexed) s s') (hs : Carries userId key id s) :
    Carries userId key id s' :=
  h.keeps carries_indexed hs

end Answers

end Balii
