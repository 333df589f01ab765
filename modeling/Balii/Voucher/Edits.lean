import Balii.Lib.Column
import Balii.Lib.Replay
import Balii.Order.Stock
import Balii.Payment.Settlement
import Balii.Voucher.Usage
/-!
# Voucher.Edits — an admin's edit of a voucher and its counter

`update` and `remove` load the voucher, reload it in `save`, and write the columns in which the two differ.  A use or a
release between the two loads makes the counter one of them: the edit writes the old value back.
-/
namespace Balii

open Rowdb Tx Sql System

/-- `used_count` of every voucher. -/
abbrev usedCounts (s : Db) : Uuid → Option ℤ := s.column Tab.vouchers Voucher.usedCount

/-- Whether the commit is the `UPDATE` of an edit. -/
def isVoucherEdit (c : ShopCommit cfg) : Bool :=
  match c.op with
  | .inr (.updateVoucherRow ..) => true
  | _ => false

/-- **The edit writes no stale counter**: the counter it loaded is what `save` read again, or what the row has now. -/
def CountStillLoaded (c : ShopCommit cfg) : Prop :=
  ∀ id entity reloaded, c.op = .inr (.updateVoucherRow id entity reloaded) →
    entity.usedCount = reloaded.usedCount ∨ ∀ v, c.before.find Tab.vouchers id = some v → v.usedCount = entity.usedCount

/-! ## The others determine the counters from what they were -/

/-- What the write makes of the counters depends on the counters alone. -/
abbrev CountsAlone (w : Write schema) : Prop := w.Alone Tab.vouchers Voucher.usedCount

theorem countsAlone_of_into {ts : List Tab} (hts : Tab.vouchers ∉ ts) {w : Write schema} (hw : Into ts w) : CountsAlone w :=
  Write.alone_of_tab fun ht => hts (hw.table _ ht)

theorem countsAlone_part {α : Type} {t : Trans α} (h : CancelPart α t) : Writes CountsAlone t := by
  cases h with
  | other h hv _ => exact h.mono fun w => countsAlone_of_into hv
  | release id =>
    refine writes_bind (writes_deleteReturning (Write.alone_of_tab (by simp [Write.tab?]))) fun usage => ?_
    cases usage with
    | none => exact writes_pure _
    | some u => exact writes_update (Write.alone_update (g := fun n => max (n - 1) 0) _ fun v => rfl)

theorem countsAlone_recordUse (orderId : Uuid) (u : VoucherUsage) : Writes CountsAlone (recordUse orderId u) :=
  writes_bind (writes_update (Write.alone_update (g := fun n => n + 1) _ fun v => rfl)) fun _ =>
    writes_insert (Write.alone_of_tab (by simp [Write.tab?]))

theorem countsAlone_createOrder (cfg : Config) (co : Checkout) : Writes CountsAlone (createOrderTransaction cfg co) := by
  refine writes_bind writes_select fun replay => ?_
  cases replay with
  | some e => exact writes_pure _
  | none =>
    refine writes_bind (writes_ensure _ _) fun _ => writes_bind (writes_checkoutVoucher cfg co) fun voucher => ?_
    refine writes_bind ((writes_each fun item _ => writes_reserveItem _ item).mono fun w =>
      countsAlone_of_into (by decide : Tab.vouchers ∉ [Tab.variants])) fun _ => ?_
    refine writes_bind ((writes_insertOrder _ _).mono fun w => countsAlone_of_into (by decide)) fun _ => ?_
    refine writes_bind ?_ fun _ => writes_pure _
    cases voucher with
    | none => exact writes_pure _
    | some v => exact countsAlone_recordUse co.orderId ⟨v.1, co.userId, v.2⟩

theorem countsAlone_redeem (cfg : Config) (r : Redemption) : Writes CountsAlone (redeemVoucherTransaction cfg r) := by
  refine writes_bind (writes_bind writes_select fun _ => writes_bind (writes_need _ _) fun _ => writes_bind writes_fetchJoin
    fun _ => writes_bind writes_claim fun _ => writes_pure _) fun voucher => writes_bind ?_ fun discountAmount => ?_
  · refine writes_bind (writes_ensure _ _) fun _ => writes_bind (writes_ensure _ _) fun _ => writes_bind (writes_ensure _ _)
      fun _ => writes_bind (writes_ensure _ _) fun _ => writes_bind (writes_ensure _ _) fun _ => ?_
    exact writes_bind writes_select fun _ => writes_bind (writes_ensure _ _) fun _ => writes_pure _
  · refine writes_bind writes_select fun _ => writes_bind (writes_ensure _ _) fun _ => ?_
    refine writes_bind (writes_update (Write.alone_update (g := fun n => n + 1) _ fun v => rfl)) fun _ => ?_
    exact writes_bind (writes_insert (Write.alone_of_tab (by simp [Write.tab?]))) fun _ => writes_pure _

/-- **Whatever is no edit determines the counters from what they were.** -/
theorem countsAlone_tx (cfg : Config) (op : Op ⊕ BackOp) (h : ∀ id e r, op ≠ .inr (.updateVoucherRow id e r)) :
    Writes CountsAlone ((shop cfg).tx op) := by
  have hother : Tab.vouchers ∉ shopTables op → Writes CountsAlone ((shop cfg).tx op) := fun ht =>
    (writes_shopTx cfg op).mono fun w => countsAlone_of_into ht
  cases op with
  | inl op =>
    cases op with
    | createOrder co => exact countsAlone_createOrder cfg co
    | updatePaymentStatus id payment status now => exact (cancelParts.updatePaymentStatus id payment status now).writes countsAlone_part
    | updateOrderStatus id status note now => exact (cancelParts.updateOrderStatus id status note now).writes countsAlone_part
    | _ => exact hother (by simp [shopTables, Op.tables])
  | inr op =>
    cases op with
    | redeemVoucher r => exact countsAlone_redeem cfg r
    | insertVoucher id v => exact writes_bind writes_unique fun _ => writes_insert (Write.alone_insert (D := schema) (t := Tab.vouchers) id v)
    | updateVoucherRow id e r => exact absurd rfl (h id e r)
    | _ => exact hother (by simp [shopTables, BackOp.tables])

/-! ## The edits -/

variable {cfg : Config} {c : ShopCommit cfg} {Inv : Db → Prop} {G : List (LockKey schema) → Db → Db → Prop}

/-- **An edit keeps the counters** exactly if it writes no stale one. -/
theorem edit_keeps_iff (hf : c.Faithful Inv G) (hedit : isVoucherEdit c = true) :
    usedCounts c.after = usedCounts c.before ↔ CountStillLoaded c := by
  obtain ⟨call, op, s, o⟩ := c
  unfold isVoucherEdit at hedit
  split at hedit
  · rename_i id entity reloaded hop
    dsimp only at hop
    subst hop
    show usedCounts (written o.writes s) = usedCounts s ↔ _
    rw [exec_updateVoucherRow hf, written_cons, written_nil, usedCounts, column_update_eq_iff]
    have hcolumn : ∀ v : Voucher, (entity.saved reloaded v).usedCount = v.usedCount ↔
        entity.usedCount = reloaded.usedCount ∨ entity.usedCount = v.usedCount := fun v => savedColumn_eq_current
    constructor
    · intro h id' entity' reloaded' heq
      cases heq
      by_cases hsame : entity.usedCount = reloaded.usedCount
      · exact .inl hsame
      · exact .inr fun v hv => (((hcolumn v).1 (h v hv)).resolve_left hsame).symm
    · intro h v hv
      exact (hcolumn v).2 ((h id entity reloaded rfl).imp_right fun h' => (h' v hv).symm)
  · cases hedit

/-- **Admin edits and the counter**: at every moment of every run the counters are what the other commits alone would have
made of them, exactly if no edit wrote a stale one. -/
theorem edits_keep_usage (cfg : Config) (e : Execution (shop cfg) (fun _ => True) fun _ => True) :
    (∀ es, es <+: e.events → usedCounts (stateAfter e.init es) = usedCounts (replay isVoucherEdit e.init es)) ↔
      ∀ c, .commit c ∈ e.events → CountStillLoaded c := by
  have hk : Keeps (S := shop cfg) (fun _ => True) (fun _ _ _ => True) (fun _ => True) fun _ => True :=
    fun _ _ _ _ _ => ⟨trivial, trivial⟩
  have hfaithful := fun c hc => (e.commits hk (fun _ _ => trivial) (fun _ _ => trivial) c hc).2.1
  have hno : ∀ c : ShopCommit cfg, isVoucherEdit c = false → ∀ id en r, c.op ≠ .inr (.updateVoucherRow id en r) := by
    intro c h id en r hop
    unfold isVoucherEdit at h
    rw [hop] at h
    cases h
  rw [e.run.unaffected_iff (f := usedCounts) fun c hc hskip a b hab => ?_]
  · refine forall₂_congr fun c hc => ⟨fun h => ?_, fun h hedit => (edit_keeps_iff (hfaithful c hc) hedit).2 h⟩
    by_cases hedit : isVoucherEdit c = true
    · exact (edit_keeps_iff (hfaithful c hc) hedit).1 (h hedit)
    · exact fun id en r hop => absurd hop (hno c (Bool.not_eq_true _ ▸ hedit) id en r)
  · exact Write.column_written (Exec.writes _ (hfaithful c hc) (countsAlone_tx cfg c.op (hno c hskip)) fun _ h => nomatch h) hab

/-! ### A voucher disabled while it is used -/

def sampleVoucher : Voucher where
  code := "SALE"
  typeCode := "fixed"
  discountValue := 1000000
  maxDiscountAmount := none
  minOrderAmount := 0
  usageLimit := some 1
  usedCount := 0
  userLimitPerUser := 1
  startsAt := 0
  expiresAt := 1000
  isActive := true

/-- A database with the voucher `1` and the variant `1`. -/
def voucherShop : Db where
  rows t :=
    match t with
    | .vouchers => (∅ : Table Uuid Voucher).insert 1 sampleVoucher
    | .variants => (∅ : Table Uuid Variant).insert 1 { stockQuantity := 5, reservedQuantity := 0, isActive := true }
    | _ => ∅
  log := []

/-- The order `1` of the user `1`, with the key `7` and the voucher. -/
def voucherCheckout : Call :=
  .createOrder {
    orderId := 1, orderCode := "BL1", itemId := .refl _, userId := 1, idempotencyKey := 7, voucherCode := some "SALE"
    shippingAddress := ⟨1, 1, 1⟩, now := 1 }

/-- `remove` loads the voucher, a checkout uses it, and `remove` saves. -/
def staleSave : Execution (shop sampleConfig) (fun _ => True) fun _ => True :=
  .ofSchedule voucherShop
    ([.arrive (.inr (.removeVoucher 1)), .go 0, .arrive (.inl voucherCheckout), .go 1,
      .answer 1 (.cart [cartLine] 10000000), .go 1] ++ steps 0 2) trivial fun _ _ => trivial

/-- The voucher is used once, and its counter says it is not. -/
theorem staleSave_losesUse : ¬ ∀ es, es <+: staleSave.events →
    usedCounts (stateAfter staleSave.init es) = usedCounts (replay isVoucherEdit staleSave.init es) := by
  intro h
  have hend := congrFun (h _ List.prefix_rfl) 1
  revert hend
  decide +kernel

end Balii
