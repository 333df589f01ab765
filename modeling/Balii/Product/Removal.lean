import Balii.Lib.Replay
import Balii.Payment.Settlement
import Balii.Product.Balances
/-!
# Product.Removal — disabling a variant and its quantities

`remove` loads the variant without its lock, reloads it in `save`, and writes the columns in which the two differ.  A
reservation, a release or a restock between the two loads makes a quantity one of them: the removal writes the old value back.
-/
namespace Balii

open Rowdb Tx Sql System

/-- Whether the commit is the `UPDATE` of a removal. -/
def isRemoval (c : ShopCommit cfg) : Bool :=
  match c.op with
  | .inr (.updateVariantRow ..) => true
  | _ => false

/-- The removal writes no stale value of the quantity: what it loaded is what `save` read again, or what the row has now. -/
def StillLoaded (quantity : Variant → ℤ) (c : ShopCommit cfg) : Prop :=
  ∀ id entity reloaded, c.op = .inr (.updateVariantRow id entity reloaded) →
    quantity entity = quantity reloaded ∨ ∀ v, c.before.find Tab.variants id = some v → quantity v = quantity entity

def BalanceStillLoaded (c : ShopCommit cfg) : Prop :=
  StillLoaded Variant.stockQuantity c ∧ StillLoaded Variant.reservedQuantity c

theorem balances_movementWrites (ctx : AuditContext) (id : Uuid) (old new : Variant) (a : Db) :
    balances (written (movementWrites ctx id old new) a) = balances a := by
  funext k
  exact congrArg (Option.map Variant.balance) (Database.find_of_rows (D := schema) (rows_movementWrites ctx id old new a Tab.variants) k)

/-- The `UPDATE` of `save` sets the balances of the row that is there. -/
theorem balances_updateVariantRow {R : List (LockKey schema) → Db → Db → Prop} {s : Db} {id : Uuid} {entity reloaded : Variant}
    {o : Outcome (LockKey schema) (Write schema) Unit} (h : Exec R (updateVariantRow id entity reloaded) s [] [] o) :
    balances (written o.writes s) =
      balances ((Write.update (D := schema) Tab.variants id (entity.saved reloaded)).apply s) := by
  rcases exec_updateVariantRow h with ⟨hnone, hw⟩ | ⟨v, hv, hw⟩
  · rw [hw, written_nil]
    refine (column_update_eq_iff.2 fun v hv => ?_).symm
    rw [written_nil, hv] at hnone
    cases hnone
  · rw [hw, List.nil_append, written_cons, balances_movementWrites]

variable {cfg : Config} {c : ShopCommit cfg} {Inv : Db → Prop} {G : List (LockKey schema) → Db → Db → Prop}

/-- **A removal keeps the quantities** exactly if it writes no stale one. -/
theorem removal_keeps_iff (hf : c.Faithful Inv G) (hremoval : isRemoval c = true) :
    balances c.after = balances c.before ↔ BalanceStillLoaded c := by
  obtain ⟨call, op, s, o⟩ := c
  unfold isRemoval at hremoval
  split at hremoval
  · rename_i id entity reloaded hop
    dsimp only at hop
    subst hop
    show balances (written o.writes s) = balances s ↔ _
    rw [balances_updateVariantRow hf, balances, column_update_eq_iff]
    have hkept : ∀ {quantity : Variant → ℤ}, (∀ v, s.find Tab.variants id = some v →
        savedColumn (quantity entity) (quantity reloaded) (quantity v) = quantity v) ↔
          StillLoaded quantity (⟨call, .inr (.updateVariantRow id entity reloaded), s, o⟩ : ShopCommit cfg) := by
      intro quantity
      constructor
      · intro h id' entity' reloaded' heq
        cases heq
        by_cases hsame : quantity entity = quantity reloaded
        · exact .inl hsame
        · exact .inr fun v hv => ((savedColumn_eq_current.1 (h v hv)).resolve_left hsame).symm
      · intro h v hv
        exact savedColumn_eq_current.2 ((h id entity reloaded rfl).imp_right fun h' => (h' v hv).symm)
    unfold BalanceStillLoaded
    rw [← hkept, ← hkept]
    constructor
    · intro h
      exact ⟨fun v hv => congrArg Prod.fst (h v hv), fun v hv => congrArg Prod.snd (h v hv)⟩
    · rintro ⟨hstock, hreserved⟩ v hv
      exact Prod.ext (hstock v hv) (hreserved v hv)
  · cases hremoval

/-- **Removals and the quantities**: at every moment of every run the quantities are what the other commits alone would have
made of them, exactly if no removal wrote a stale one. -/
theorem removals_keep_quantities (cfg : Config) (e : Execution (shop cfg) (fun _ => True) fun _ => True) :
    (∀ es, es <+: e.events → balances (stateAfter e.init es) = balances (replay isRemoval e.init es)) ↔
      ∀ c, .commit c ∈ e.events → BalanceStillLoaded c := by
  have hk : Keeps (S := shop cfg) (fun _ => True) (fun _ _ _ => True) (fun _ => True) fun _ => True :=
    fun _ _ _ _ _ => ⟨trivial, trivial⟩
  have hfaithful := fun c hc => (e.commits hk (fun _ _ => trivial) (fun _ _ => trivial) c hc).2.1
  rw [e.run.unaffected_iff (f := balances) fun c hc _ a b hab =>
    Write.column_written (Exec.writes _ (hfaithful c hc) (balancesAlone_tx cfg c.op) fun _ h => nomatch h) hab]
  refine forall₂_congr fun c hc => ⟨fun h => ?_, fun h hremoval => (removal_keeps_iff (hfaithful c hc) hremoval).2 h⟩
  by_cases hremoval : isRemoval c = true
  · exact (removal_keeps_iff (hfaithful c hc) hremoval).1 (h hremoval)
  · refine ⟨fun id en r hop => absurd ?_ hremoval, fun id en r hop => absurd ?_ hremoval⟩
    · unfold isRemoval
      rw [hop]
    · unfold isRemoval
      rw [hop]

/-! ### A variant disabled while it is sold -/

/-- A database with the variant `1`, of which five are in stock. -/
def variantShop : Db where
  rows t :=
    match t with
    | .variants => (∅ : Table Uuid Variant).insert 1 { stockQuantity := 5, reservedQuantity := 0, isActive := true }
    | _ => ∅
  log := []

/-- Two of the variant `1`. -/
def soldLine : CheckoutItem where
  variantId := 1
  productName := "Áo thun"
  unitPrice := 100000
  quantity := 2
  subtotal := 200000
  campaignId := none
  campaignDiscountType := none

/-- The order `1` of the user `1`, with the key `7`. -/
def plainCheckout : Call :=
  .createOrder {
    orderId := 1, orderCode := "BL1", itemId := .refl _, userId := 1, idempotencyKey := 7, voucherCode := none
    shippingAddress := ⟨1, 1, 1⟩, now := 1 }

/-- `remove` loads the variant, a checkout reserves two, and `remove` saves. -/
def staleRemoval : Execution (shop sampleConfig) (fun _ => True) fun _ => True :=
  .ofSchedule variantShop
    ([.arrive (.inr (.removeVariant 1)), .go 0, .arrive (.inl plainCheckout), .go 1, .answer 1 (.cart [soldLine] 200000), .go 1]
      ++ steps 0 2) trivial fun _ _ => trivial

/-- Two are sold, and the reserve says none are. -/
theorem staleRemoval_losesReserve : ¬ ∀ es, es <+: staleRemoval.events →
    balances (stateAfter staleRemoval.init es) = balances (replay isRemoval staleRemoval.init es) := by
  intro h
  have hend := congrFun (h _ List.prefix_rfl) 1
  revert hend
  decide +kernel

end Balii
