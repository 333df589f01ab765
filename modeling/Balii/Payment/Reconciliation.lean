import Balii.Payment.Checkout
/-!
# Payment.Reconciliation — asking again about payments that still wait

The reconciliation takes one pending payment at a time and keeps its number of attempts in the payment's metadata, which
anybody may have written anything to.
-/
namespace Balii

open Rowdb

/-! ## The metadata of a payment -/

/-- An integer as PostgreSQL reads one, its sign aside: decimal, or with a prefix for another base, and an underscore only
before a digit. -/
def parseUnsignedInt (cs : List Char) : Option ℕ :=
  let grouped := fun (lead : Bool) (ds : List Char) =>
    (lead || ds.head? != some '_') && ds.getLast? != some '_' && !(ds.zip ds.tail).contains ('_', '_')
  let digits := fun (base : ℕ) (lead : Bool) (ds : List Char) =>
    if grouped lead ds && ds.any (· != '_') then parseDigits base (ds.filter (· != '_')) else none
  match cs with
  | '0' :: p :: ds =>
    if p = 'x' ∨ p = 'X' then digits 16 true ds
    else if p = 'o' ∨ p = 'O' then digits 8 true ds
    else if p = 'b' ∨ p = 'B' then digits 2 true ds
    else digits 10 false cs
  | _ => digits 10 false cs

/-- `text::int`. -/
def parseInt4 (s : String) : Option ℤ :=
  let isSpace := fun c : Char => c == ' ' || (9 ≤ c.toNat && c.toNat ≤ 13)
  let cs := ((s.toList.dropWhile isSpace).reverse.dropWhile isSpace).reverse
  let value := match cs with
    | '-' :: ds => (parseUnsignedInt ds).map fun n => -(n : ℤ)
    | '+' :: ds => (parseUnsignedInt ds).map fun n => (n : ℤ)
    | _ => (parseUnsignedInt cs).map fun n => (n : ℤ)
  value.filter fun n => decide (-2147483648 ≤ n ∧ n ≤ 2147483647)

/-- `metadata ->> key`. -/
def metadataText (metadata : Json) (key : String) : Option String :=
  match metadata.get key with
  | none => none
  | some .null => none
  | some (.str s) => some s
  | some j => some j.stringify

/-- `COALESCE((metadata ->> 'reconciliationAttempt')::int, 0)`, none when the cast fails. -/
def reconciliationAttempt (metadata : Option Json) : Option ℤ :=
  match metadata.bind fun m => metadataText m "reconciliationAttempt" with
  | none => some 0
  | some text => parseInt4 text

def readMetadataString (metadata : Option Json) (key : String) : Option String :=
  match metadata.bind fun m => m.get key with
  | some (.str s) => if trim s = "" then none else some s
  | _ => none

/-! ## The statements -/

/-- The payment to ask about: of those that wait, without cash on delivery, the one that expires first. -/
def findPendingPayment (s : Db) : Option (Uuid × Payment) :=
  (((s.rows Tab.payments).select fun _ p => p.status == .pending && p.method != .cod).insertionSort fun a b =>
    a.2.expiresAt.getD a.2.createdAt < b.2.expiresAt.getD b.2.createdAt ∨
      (a.2.expiresAt.getD a.2.createdAt = b.2.expiresAt.getD b.2.createdAt ∧ a.2.createdAt ≤ b.2.createdAt)).head?

/-- `jsonb_set(metadata, '{reconciliationAttempt}', …)`: only an object has such a field. -/
def setReconciliationAttempt (attempt : ℤ) (metadata : Json) : Option Json :=
  match metadata with
  | .obj fields => some (.obj (fields.filter (fun f => f.1 != "reconciliationAttempt") ++
      [("reconciliationAttempt", .ofNumber (.num attempt))]))
  | _ => none

/-- `increaseReconciliationAttempt`: the new number of attempts. -/
def increaseReconciliationAttempt (paymentId : Uuid) : Trans ℤ := do
  let payment ← fetch .payments paymentId (notFound "Payment not found")
  let attempt ← Tx.need (reconciliationAttempt payment.metadata) (invalidText "integer")
  Tx.ensure (attempt < 2147483647) (invalidText "integer")
  let metadata ← Tx.need (setReconciliationAttempt (attempt + 1) (payment.metadata.getD (.obj []))) (invalidText "jsonb")
  updateRow .payments paymentId fun p => { p with metadata := some metadata }
  pure (attempt + 1)

end Balii
