import Balii.Lib.Guarantee
/-!
# Extend — a system with more transactions and calls

`S.extend X` has the transactions and calls of `S` and those of `X`, all on the database of `S`.  A commit of an old
transaction in the new system is a commit of the old system: what is known of it stays known.
-/
namespace Rowdb

/-- The same procedure where there are more transactions and calls. -/
def Proc.within {Op Op' : Type} {Res : Op → Type} {Res' : Op' → Type} {Call Call' Reply Answer ε α : Type} :
    Proc Op Res Call Reply Answer ε α → Proc (Op ⊕ Op') (Sum.elim Res Res') (Call ⊕ Call') Reply Answer ε α
  | .done a => .done a
  | .fail e => .fail e
  | .exec op next => .exec (.inl op) fun r => (next r).within
  | .call c next => .call (.inl c) fun r => (next r).within
  | .ask next => .ask fun a => (next a).within

namespace System

/-- More transactions and calls over the database of `S`. -/
structure Extension (S : System) where
  Op : Type
  Res : Op → Type
  Call : Type
  tx : (op : Op) → Tx S.State S.Row S.Write S.Err (Res op)
  proc : Call → Proc (S.Op ⊕ Op) (Sum.elim S.Res Res) (S.Call ⊕ Call) S.Reply S.Answer S.Err S.Reply

@[reducible] def extend (S : System) (X : Extension S) : System where
  State := S.State
  Key := S.Key
  Row := S.Row
  Write := S.Write
  Err := S.Err
  Op := S.Op ⊕ X.Op
  Res := Sum.elim S.Res X.Res
  Call := S.Call ⊕ X.Call
  Reply := S.Reply
  Answer := S.Answer
  store := S.store
  tx
    | .inl op => S.tx op
    | .inr op => X.tx op
  proc
    | .inl c => (S.proc c).within
    | .inr c => X.proc c
  lost := S.lost

variable {S : System} {X : Extension S} {Inv : S.State → Prop} {G : List S.Key → S.State → S.State → Prop}

end System
end Rowdb
