import Balii.BackOffice
import Balii.Lib.Column
import Balii.Order.Parts
/-!
# Product.Balances — everything that writes a variant, in parts

Whoever reserves, moves, restocks, adjusts or saves does it with an `UPDATE` that sets the two balances by what they were, or
with an `INSERT`, each with its trigger.
-/
namespace Balii

open Rowdb Tx Sql

/-- What the ledger keeps books on. -/
def Variant.balance (v : Variant) : ℤ × ℤ := (v.stockQuantity, v.reservedQuantity)

inductive VariantPart : (α : Type) → Trans α → Prop
  | other {α : Type} {t : Trans α} {ts : List Tab} (h : Writes (Into ts) t) (hts : Tab.variants ∉ ts) : VariantPart α t
  | update {f : Variant → Variant} {g : ℤ × ℤ → ℤ × ℤ} (ctx : AuditContext) (id : Uuid) (p : Variant → Bool)
      (hf : ∀ v, (f v).balance = g v.balance) : VariantPart Bool (updateVariantWhere ctx id p f)
  | save (id : Uuid) (entity reloaded : Variant) : VariantPart Unit (updateVariantRow id entity reloaded)
  | adjust (id : Uuid) (dto : UpdateVariant) (actorId : Option Uuid) : VariantPart Unit (updateVariant id dto actorId)
  | insert (ctx : AuditContext) (id : Uuid) (v : Variant) : VariantPart Unit (insertVariant ctx id v)

theorem parts_aside {α : Type} {t : Trans α} {ts : List Tab} (h : Writes (Into ts) t) (hts : Tab.variants ∉ ts) :
    Parts VariantPart t :=
  .part (.other h hts)

theorem parts_silent {α : Type} {t : Trans α} (h : Writes (Into []) t) : Parts VariantPart t := parts_aside h List.not_mem_nil

theorem parts_turns {ι : Type} {f : ι → Trans Unit} {xs : List ι} (h : ∀ x, Parts VariantPart (f x)) :
    Parts VariantPart (each f xs) :=
  parts_each (fun h => .other (h.mono fun _ h => h.elim) List.not_mem_nil) fun x _ => h x

theorem balance_move (target : InventoryTarget) (current : InventoryState) (quantity : ℤ) :
    ∃ g : ℤ × ℤ → ℤ × ℤ, ∀ v, (Variant.move target current quantity v).balance = g v.balance := by
  cases target with
  | committed => exact ⟨fun b => (b.1 - quantity, b.2 - quantity), fun v => rfl⟩
  | released =>
    cases current with
    | reserved => exact ⟨fun b => (b.1, b.2 - quantity), fun v => rfl⟩
    | _ => exact ⟨fun b => (b.1 + quantity, b.2), fun v => rfl⟩

theorem parts_moveVariant (ctx : AuditContext) (target : InventoryTarget) (current : InventoryState) (item : Uuid × ℤ) :
    Parts VariantPart (moveVariant ctx target current item) := by
  obtain ⟨g, hg⟩ := balance_move target current item.2
  exact parts_bind (.part (.update ctx _ _ hg)) fun _ => parts_silent (writes_ensure _ _)

theorem parts_transition (id : Uuid) (target : InventoryTarget) (now : Time) :
    Parts VariantPart (transitionInventoryInTransaction id target now) := by
  refine parts_bind (parts_silent writes_fetch) fun order => parts_if (parts_silent (writes_pure _)) ?_
  refine parts_bind (parts_silent (writes_ensure _ _)) fun _ => parts_bind ?_ fun _ => ?_
  · exact parts_turns fun item => parts_moveVariant _ _ _ item
  · exact parts_aside (writes_update (into_update (by decide))) (by decide : Tab.variants ∉ [Tab.orders])

theorem variantParts : OrderParts VariantPart where
  other h hts := .other h fun hv => absurd (hts _ hv) (by decide)
  transition := parts_transition
  release id := parts_aside (writes_releaseVoucher id) (by decide)
  payments id := parts_aside (writes_cancelPending id) (by decide)

theorem parts_reserveItem (ctx : AuditContext) (item : CheckoutItem) : Parts VariantPart (reserveItem ctx item) :=
  parts_bind (.part (.update (g := fun b => (b.1, b.2 + item.quantity)) ctx _ _ fun _ => rfl)) fun _ =>
    parts_silent (writes_ensure _ _)

theorem parts_createOrder (cfg : Config) (c : Checkout) : Parts VariantPart (createOrderTransaction cfg c) := by
  refine parts_bind (parts_silent writes_select) fun replay => ?_
  cases replay with
  | some e => exact parts_silent (writes_pure _)
  | none =>
    refine parts_bind (parts_silent (writes_ensure _ _)) fun _ => parts_bind (parts_silent (writes_checkoutVoucher _ c)) fun _ => ?_
    refine parts_bind ?_ fun _ => parts_bind (parts_aside (writes_insertOrder _ _) (by decide)) fun _ => ?_
    · exact parts_turns fun item => parts_reserveItem _ item
    · exact parts_bind (parts_aside (writes_recordVoucherUse _ _) (by decide)) fun _ => parts_silent (writes_pure _)

theorem parts_receiveItem (rc : Receipt) (order : Order) (refunds : List (Uuid × ℤ)) (item : ReturnItem) :
    Parts VariantPart (receiveItem rc order refunds item) := by
  refine parts_bind (parts_aside (writes_update (into_update (by decide))) (by decide : Tab.variants ∉ [Tab.returnRequests])) fun _ => ?_
  refine parts_if ?_ (parts_silent (writes_pure _))
  split
  · exact parts_silent (writes_pure _)
  · exact parts_bind (.part (.update (g := fun b => (b.1 + item.requestedQuantity, b.2)) _ _ _ fun _ => rfl)) fun _ =>
      parts_silent (writes_pure _)

theorem parts_receiveReturn (cfg : Config) (rc : Receipt) : Parts VariantPart (receiveReturnRequestTransaction cfg rc) := by
  have hrow : ∀ f : ReturnRequest → ReturnRequest, Parts VariantPart (updateRow .returnRequests rc.returnRequestId f) := fun f =>
    parts_aside (writes_update (into_update (by decide))) (by decide : Tab.variants ∉ [Tab.returnRequests])
  refine parts_bind (parts_silent writes_select) fun payment => parts_bind (parts_silent writes_fetch) fun request => ?_
  refine parts_bind (parts_silent writes_fetch) fun order => ?_
  cases request.status with
  | completed => exact parts_silent (writes_pure _)
  | refundPending => exact parts_silent (writes_pure _)
  | manualRefundPending => exact parts_silent (writes_pure _)
  | refundFailed =>
    exact parts_bind (parts_silent (writes_ensure _ _)) fun _ => parts_bind (hrow _) fun _ => parts_silent (writes_pure _)
  | approved =>
    refine parts_bind (parts_silent (writes_ensure _ _)) fun _ => parts_bind (parts_silent (writes_ensure _ _)) fun _ => ?_
    refine parts_bind (parts_silent writes_select) fun _ => parts_bind ?_ fun _ => ?_
    · exact parts_turns fun item => parts_receiveItem _ _ _ item
    · refine parts_if (parts_bind (hrow _) fun _ => parts_silent (writes_pure _)) ?_
      refine parts_bind (parts_silent (writes_ensure _ _)) fun _ => ?_
      exact parts_bind (hrow _) fun _ => parts_if (parts_silent (writes_pure _)) (parts_silent (writes_pure _))
  | pending => exact parts_silent (writes_fail _)
  | rejected => exact parts_silent (writes_fail _)

/-- **Every transaction of the shop writes variants in such parts.** -/
theorem parts_shopTx (cfg : Config) (op : Op ⊕ BackOp) : Parts VariantPart ((shop cfg).tx op) := by
  have haside : Tab.variants ∉ shopTables op → Parts VariantPart ((shop cfg).tx op) := parts_aside (writes_shopTx cfg op)
  cases op with
  | inl op =>
    cases op with
    | createOrder c => exact parts_createOrder cfg c
    | updatePaymentStatus id payment status now => exact variantParts.updatePaymentStatus id payment status now
    | updateOrderStatus id status note now => exact variantParts.updateOrderStatus id status note now
    | receiveReturnRequest rc => exact parts_receiveReturn cfg rc
    | updateVariant id dto actorId => exact .part (.adjust id dto actorId)
    | _ => exact haside (by simp [shopTables, Op.tables])
  | inr op =>
    cases op with
    | createVariant dto actorId => exact .part (.insert _ _ _)
    | insertVariant id v => exact .part (.insert _ _ _)
    | updateVariantRow id entity reloaded => exact .part (.save id entity reloaded)
    | _ => exact haside (by simp [shopTables, BackOp.tables])

/-- The `UPDATE` of `save` finds no row, or sets what is there, with a line in the ledger. -/
theorem exec_updateVariantRow {R : List (LockKey schema) → Db → Db → Prop} {s : Db} {L : List (LockKey schema)}
    {ws : List (Write schema)} {id : Uuid} {entity reloaded : Variant} {o : Outcome (LockKey schema) (Write schema) Unit}
    (h : Exec R (updateVariantRow id entity reloaded) s L ws o) :
    ((written ws s).find Tab.variants id = none ∧ o.writes = ws) ∨
      ∃ v, (written ws s).find Tab.variants id = some v ∧
        o.writes = ws ++ .update Tab.variants id (entity.saved reloaded) ::
          movementWrites (directContext "direct_adjustment") id v (entity.saved reloaded v) := by
  unfold updateVariantRow at h
  rw [exec_bind] at h
  obtain ⟨⟨row, K, vs⟩, hm, h⟩ := h
  have hrow : row = (written ws s).find Tab.variants id := congrArg Outcome.val hm
  obtain rfl : vs = ws := congrArg Outcome.writes hm
  cases row with
  | none =>
    cases h
    exact .inl ⟨hrow.symm, rfl⟩
  | some v =>
    simp only [exec_bind, exec_update] at h
    obtain ⟨_, rfl, ha⟩ := h
    cases exec_audit.1 ha
    exact .inr ⟨v, hrow.symm, by rw [List.append_assoc, List.singleton_append]⟩

/-! ## Balances come from balances -/

/-- `stock_quantity` and `reserved_quantity` of every variant. -/
abbrev balances (s : Db) : Uuid → Option (ℤ × ℤ) := s.column Tab.variants Variant.balance

/-- What the write makes of the balances depends on the balances alone. -/
abbrev BalancesAlone (w : Write schema) : Prop := w.Alone Tab.variants Variant.balance

theorem balancesAlone_audit (ctx : AuditContext) (id : Uuid) (old new : Variant) :
    Writes BalancesAlone (auditInventoryMovement ctx id old new) :=
  writes_if (writes_pure _) (writes_append (Write.alone_of_tab (by simp [Write.tab?])))

theorem balance_applyTo (dto : UpdateVariant) (v : Variant) : (dto.applyTo v).balance =
    (dto.stockQuantity.getD v.balance.1, dto.reservedQuantity.getD v.balance.2) := rfl

theorem balance_saved (entity reloaded v : Variant) : (entity.saved reloaded v).balance =
    (savedColumn entity.stockQuantity reloaded.stockQuantity v.balance.1,
      savedColumn entity.reservedQuantity reloaded.reservedQuantity v.balance.2) := rfl

theorem balancesAlone_part {α : Type} {t : Trans α} (h : VariantPart α t) : Writes BalancesAlone t := by
  cases h with
  | other h hts => exact h.mono fun w hw => Write.alone_of_tab fun ht => hts (hw.table _ ht)
  | update ctx id p hf =>
    refine writes_bind (writes_updateWhere (Write.alone_update (D := schema) (t := Tab.variants) id hf)) fun old => ?_
    cases old with
    | none => exact writes_pure _
    | some v => exact writes_bind (balancesAlone_audit _ _ _ _) fun _ => writes_pure _
  | save id entity reloaded =>
    refine writes_bind writes_forUpdate fun row => ?_
    cases row with
    | none => exact writes_pure _
    | some old =>
      exact writes_bind (writes_update (Write.alone_update (D := schema) (t := Tab.variants)
        (g := fun b => (savedColumn entity.stockQuantity reloaded.stockQuantity b.1,
          savedColumn entity.reservedQuantity reloaded.reservedQuantity b.2)) id (balance_saved entity reloaded))) fun _ =>
        balancesAlone_audit _ _ _ _
  | adjust id dto actorId =>
    refine writes_bind (writes_ensure _ _) fun _ => writes_bind writes_fetch fun v => writes_bind (writes_ensure _ _) fun _ => ?_
    exact writes_bind (writes_update (Write.alone_update (D := schema) (t := Tab.variants)
      (g := fun b => (dto.stockQuantity.getD b.1, dto.reservedQuantity.getD b.2)) id (balance_applyTo dto))) fun _ => balancesAlone_audit _ _ _ _
  | insert ctx id v =>
    exact writes_bind (writes_insert (Write.alone_insert (D := schema) (t := Tab.variants) id v)) fun _ => balancesAlone_audit _ _ _ _

/-- **Every transaction determines the balances from what they were.** -/
theorem balancesAlone_tx (cfg : Config) (op : Op ⊕ BackOp) : Writes BalancesAlone ((shop cfg).tx op) :=
  (parts_shopTx cfg op).writes balancesAlone_part

end Balii
