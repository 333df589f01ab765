import Balii.BackOffice
import Balii.Order.Commits
import Balii.Order.Parts
/-!
# Voucher.Usage — a voucher's counter and its usage rows move together

A use adds a row and one to the counter under the lock of the voucher; a release takes both back.  Every other transaction
leaves the counter and the rows alone.
-/
namespace Balii

open Rowdb Tx Sql

variable {R : List (LockKey schema) → Db → Db → Prop} {s : Db} {L : List (LockKey schema)} {ws : List (Write schema)}

/-- `SELECT COUNT(*) FROM voucher_usages WHERE …`. -/
def usagesWhere (p : VoucherUsage → Bool) (s : Db) : ℤ := (s.rows Tab.voucherUsages).count fun _ u => p u

def usesOf (id : Uuid) (s : Db) : ℤ := usagesWhere (fun u => u.voucherId == id) s

def usesBy (id userId : Uuid) (s : Db) : ℤ := usagesWhere (fun u => u.voucherId == id && u.userId == userId) s

def Voucher.use (v : Voucher) : Voucher := { v with usedCount := v.usedCount + 1 }

def Voucher.release (v : Voucher) : Voucher := { v with usedCount := max (v.usedCount - 1) 0 }

/-! ## Releases -/

/-- What a transaction without vouchers does to them, and the release of an order's use. -/
inductive ReleaseStep (a b : Db) : Prop
  | kept (hv : b.rows Tab.vouchers = a.rows Tab.vouchers) (hu : b.rows Tab.voucherUsages = a.rows Tab.voucherUsages)
  | released {orderId u} (h : a.find Tab.voucherUsages orderId = some u)
      (hv : b.rows Tab.vouchers = (a.rows Tab.vouchers).modify u.voucherId Voucher.release)
      (hu : b.rows Tab.voucherUsages = (a.rows Tab.voucherUsages).erase orderId)

theorem moves_release (id : Uuid) : Moves ReleaseStep (releaseVoucherUsageInTransaction id) := by
  intro R s L ws o h
  unfold releaseVoucherUsageInTransaction at h
  rw [exec_bind] at h
  obtain ⟨m, hm, h⟩ := h
  rcases exec_deleteReturning hm with ⟨hv, hw, _⟩ | ⟨u, hu, rfl⟩
  · rw [hv] at h
    cases h
    rw [hw]
  · cases h
    refine .single (.released hu ?_ ?_)
    · show (written _ s).rows Tab.vouchers = ((written ws s).rows Tab.vouchers).modify _ _
      rw [written_append, written_append, written_cons, written_nil, written_cons, written_nil, rows_update,
        rows_apply _ (by simp [Write.tab?])]
      rfl
    · show (written _ s).rows Tab.voucherUsages = _
      rw [written_append, written_append, written_cons, written_nil, written_cons, written_nil,
        rows_apply _ (by simp [Write.tab?])]
      exact Database.set_rows_self _ _ _

/-- The parts of a transaction that may cancel an order. -/
inductive CancelPart : (α : Type) → Trans α → Prop
  | other {α : Type} {t : Trans α} {ts : List Tab} (h : Writes (Into ts) t) (hv : Tab.vouchers ∉ ts)
      (hu : Tab.voucherUsages ∉ ts) : CancelPart α t
  | release (id : Uuid) : CancelPart Unit (releaseVoucherUsageInTransaction id)

theorem cancelParts : OrderParts CancelPart where
  other h hts := .other h (fun hv => absurd (hts _ hv) (by decide)) fun hu => absurd (hts _ hu) (by decide)
  transition _ _ _ := .part (.other (writes_transition _ _ _) (by decide) (by decide))
  release id := .part (.release id)
  payments id := .part (.other (writes_cancelPending id) (by decide) (by decide))

theorem moves_part {α : Type} {t : Trans α} (h : CancelPart α t) : Moves ReleaseStep t := by
  cases h with
  | other h hv hu =>
    exact moves_of_writes h fun _ hw s => .kept (rows_apply (D := schema) s fun ht => hv (hw.table _ ht))
      (rows_apply (D := schema) s fun ht => hu (hw.table _ ht))
  | release id => exact moves_release id

/-! ## Uses -/

/-- Under the lock of the voucher, its user was seen to have a use left. -/
def SeenBelowLimit (R : List (LockKey schema) → Db → Db → Prop) (s : Db) (id userId : Uuid) (v : Voucher) : Prop :=
  ∃ L s₀, LockKey.row (D := schema) Tab.vouchers id ∈ L ∧ R L s₀ s ∧ usesBy id userId s₀ < v.userLimitPerUser

/-- **The voucher is used**: it had a use left, for everybody and for its user; the use is counted and recorded. -/
structure Used (R : List (LockKey schema) → Db → Db → Prop) (s b : Db) (locks : List (LockKey schema)) (orderId : Uuid)
    (u : VoucherUsage) (v : Voucher) : Prop where
  voucher : s.find Tab.vouchers u.voucherId = some v
  limit : ∀ limit ∈ v.usageLimit, v.usedCount < limit
  seen : SeenBelowLimit R s u.voucherId u.userId v
  locked : LockKey.row (D := schema) Tab.vouchers u.voucherId ∈ locks
  fresh : s.find Tab.voucherUsages orderId = none
  vouchers : b.rows Tab.vouchers = (s.rows Tab.vouchers).modify u.voucherId Voucher.use
  usages : b.rows Tab.voucherUsages = (s.rows Tab.voucherUsages).insertNew orderId u

theorem usesBy_eq (id userId : Uuid) (s : Db) : usesBy id userId s =
    ((s.rows Tab.voucherUsages).select fun _ u => u.voucherId == id && u.userId == userId).length := by
  unfold usesBy usagesWhere
  exact AList.count_eq_length _ _

/-- What a voucher that passed the checks of a checkout had. -/
theorem exec_validateVoucher {cfg : Config} {code : String} {userId : Uuid} {orderAmount : ℚ} {now : Time}
    {o : Outcome (LockKey schema) (Write schema) (Uuid × JsNumber)}
    (h : Exec R (validateVoucherForCheckout cfg code userId orderAmount now) s L [] o) :
    ∃ v, s.find Tab.vouchers o.val.1 = some v ∧ (∀ limit ∈ v.usageLimit, v.usedCount < limit) ∧
      SeenBelowLimit R s o.val.1 userId v := by
  unfold validateVoucherForCheckout at h
  simp only [exec_bind, exec_select, exec_need, exec_ensure, exec_pure] at h
  obtain ⟨_, ⟨s₀, _, rfl⟩, _, ⟨id, hid, rfl⟩, _, h1, _, ⟨_, rfl⟩, _, ⟨hlimit, rfl⟩, _, ⟨_, rfl⟩, _, ⟨s₁, hs₁, rfl⟩, _,
    ⟨huser, rfl⟩, rfl⟩ := h
  obtain ⟨v, hv, rfl⟩ := exec_fetchJoin h1
  refine ⟨v, hv, hlimit, _, s₁, List.mem_cons_self, hs₁, ?_⟩
  rw [usesBy_eq]
  exact huser

/-- The two statements of a use. -/
def recordUse (orderId : Uuid) (u : VoucherUsage) : Trans Unit := do
  updateRow .vouchers u.voucherId Voucher.use
  insertInto .voucherUsages orderId u (uniqueViolation "ux_voucher_usages_order")

/-- They use the voucher, after writes that are none of its business. -/
theorem exec_recordUse {orderId : Uuid} {u : VoucherUsage} {v : Voucher} {o : Outcome (LockKey schema) (Write schema) Unit}
    (h : Exec R (recordUse orderId u) s L ws o) (hv : s.find Tab.vouchers u.voucherId = some v)
    (hlimit : ∀ limit ∈ v.usageLimit, v.usedCount < limit) (hseen : SeenBelowLimit R s u.voucherId u.userId v)
    (hvouchers : (written ws s).rows Tab.vouchers = s.rows Tab.vouchers)
    (husages : (written ws s).rows Tab.voucherUsages = s.rows Tab.voucherUsages) :
    Used R s (written o.writes s) o.locks orderId u v := by
  unfold recordUse at h
  simp only [exec_bind, exec_update] at h
  obtain ⟨_, rfl, h⟩ := h
  obtain ⟨hfresh, rfl⟩ := exec_insert h
  refine ⟨hv, hlimit, hseen, List.mem_cons_of_mem _ (List.mem_cons_of_mem _ List.mem_cons_self), ?_, ?_, ?_⟩
  · rw [written_append, written_cons, written_nil, find_apply _ _ (by simp [Write.tab?])] at hfresh
    exact (Database.find_of_rows (D := schema) husages orderId).symm.trans hfresh
  · rw [written_append, written_append, written_cons, written_nil, written_cons, written_nil,
      rows_apply _ (by simp [Write.tab?]), rows_update, hvouchers]
  · rw [written_append, written_append, written_cons, written_nil, written_cons, written_nil, rows_insert,
      rows_apply _ (by simp [Write.tab?]), husages]

/-- What a checkout does to the vouchers: the one it validated is used, or there was none. -/
def Redeems (R : List (LockKey schema) → Db → Db → Prop) (s b : Db) (locks : List (LockKey schema)) (c : Checkout) :
    Option (Uuid × ℤ) → Prop
  | none => b.rows Tab.vouchers = s.rows Tab.vouchers ∧ b.rows Tab.voucherUsages = s.rows Tab.voucherUsages
  | some voucher => ∃ v, Used R s b locks c.orderId ⟨voucher.1, c.userId, voucher.2⟩ v

/-- **A checkout that places its order uses the voucher the order names**, once. -/
theorem exec_createOrder_voucher {cfg : Config} {c : Checkout} {o : Outcome (LockKey schema) (Write schema) Uuid}
    (h : Exec R (createOrderTransaction cfg c) s [] [] o) :
    o.writes = [] ∨ ∃ voucher, (written o.writes s).find Tab.orders c.orderId = some (c.order voucher) ∧
      (nonEmpty c.voucherCode = none → voucher = none) ∧ Redeems R s (written o.writes s) o.locks c voucher := by
  unfold createOrderTransaction at h
  rw [exec_bind] at h
  obtain ⟨_, ⟨s₀, _, rfl⟩, h⟩ := h
  split at h
  · cases h
    exact .inl rfl
  · simp only [placeOrder, exec_bind, exec_ensure, exec_pure] at h
    obtain ⟨_, ⟨_, rfl⟩, m₁, h1, m₂, h2, m₃, h3, m₄, h4, rfl⟩ := h
    have hw1 := h1.writes_eq (writes_checkoutVoucher cfg c)
    have hloop : Writes (Into [.variants]) (each (reserveItem {
        eventType := "order_reserved", referenceType := some "checkout", referenceId := some c.idempotencyKey.text
        actorId := some c.userId }) c.items) := writes_each fun x _ => writes_reserveItem _ x
    have horder := writes_insertOrder c.orderId (c.order m₁.val)
    have hkept : ∀ t, t ∉ [Tab.orders, Tab.variants] → (written m₃.writes s).rows t = s.rows t := by
      intro t ht
      rw [rows_of_exec h3 horder fun h => ht (List.mem_cons.2 (.inl (List.mem_singleton.1 h))),
        rows_of_exec h2 hloop fun h => ht (List.mem_cons_of_mem _ h), hw1, written_nil]
    have hinserted : (written m₄.writes s).find Tab.orders c.orderId = some (c.order m₁.val) := by
      obtain ⟨_, hnone, _, hw3⟩ := exec_insertOrder h3
      rw [find_of_exec (t := Tab.orders) h4 (writes_recordVoucherUse c m₁.val) (by decide), hw3, written_append, written_cons,
        written_nil, find_insert, if_pos rfl, hnone]
      rfl
    refine .inr ⟨m₁.val, hinserted, fun hcode => ?_, ?_⟩
    · unfold checkoutVoucher at h1
      rw [hcode] at h1
      cases h1
      rfl
    cases hvoucher : m₁.val with
    | none =>
      rw [hvoucher] at h4
      cases h4
      exact ⟨hkept _ (by decide), hkept _ (by decide)⟩
    | some voucher =>
      rw [hvoucher] at h4
      unfold checkoutVoucher at h1
      split at h1
      · cases h1
        cases hvoucher
      · obtain ⟨m, hm, hsome⟩ := (exec_bind _ (fun a : Uuid × JsNumber => pure (some (a.1, storedAmount a.2))) s _ _ _).1 h1
        cases hsome
        cases hvoucher
        obtain ⟨v, hv, hlimit, hseen⟩ := exec_validateVoucher hm
        have h4 : Exec R (recordUse c.orderId ⟨m.val.1, c.userId, storedAmount m.val.2⟩) s m₃.locks m₃.writes m₄ := h4
        exact ⟨v, exec_recordUse h4 hv hlimit hseen (hkept _ (by decide)) (hkept _ (by decide))⟩

theorem exec_getVoucherRow {cfg : Config} {code : String} {o : Outcome (LockKey schema) (Write schema) (Uuid × Voucher)}
    (h : Exec R (getVoucherRowByCode cfg code) s [] [] o) : s.find Tab.vouchers o.val.1 = some o.val.2 ∧
      LockKey.row (D := schema) Tab.vouchers o.val.1 ∈ o.locks ∧ o.writes = [] := by
  unfold getVoucherRowByCode at h
  simp only [exec_bind, exec_select, exec_need, exec_pure, exec_claim] at h
  obtain ⟨_, ⟨s₀, _, rfl⟩, _, ⟨e, _, rfl⟩, _, h1, _, rfl, rfl⟩ := h
  obtain ⟨v, hv, rfl⟩ := exec_fetchJoin h1
  exact ⟨hv, List.mem_cons_of_mem _ List.mem_cons_self, rfl⟩

theorem exec_assertUsable {id userId : Uuid} {v : Voucher} {orderAmount : ℚ} {now : Time}
    {o : Outcome (LockKey schema) (Write schema) JsNumber} (h : Exec R (assertVoucherUsable id v orderAmount userId now) s L [] o) :
    (∀ limit ∈ v.usageLimit, v.usedCount < limit) ∧ (∃ s₀, R L s₀ s ∧ usesBy id userId s₀ < v.userLimitPerUser) ∧
      o.writes = [] := by
  unfold assertVoucherUsable at h
  simp only [exec_bind, exec_select, exec_ensure, exec_pure] at h
  obtain ⟨_, ⟨_, rfl⟩, _, ⟨_, rfl⟩, _, ⟨_, rfl⟩, _, ⟨hlimit, rfl⟩, _, ⟨_, rfl⟩, _, ⟨s₁, hs₁, rfl⟩, _, ⟨huser, rfl⟩, rfl⟩ := h
  refine ⟨hlimit, ⟨s₁, hs₁, ?_⟩, rfl⟩
  rw [usesBy_eq]
  exact huser

/-- **A redemption uses its voucher.** -/
theorem exec_redeemVoucher {cfg : Config} {r : Redemption} {o : Outcome (LockKey schema) (Write schema) JsNumber}
    (h : Exec R (redeemVoucherTransaction cfg r) s [] [] o) :
    ∃ u v, u.userId = r.userId ∧ Used R s (written o.writes s) o.locks r.orderId u v := by
  unfold redeemVoucherTransaction at h
  simp only [exec_bind, exec_select, exec_ensure, exec_pure] at h
  obtain ⟨m₁, h1, m₂, h2, _, ⟨s₂, _, rfl⟩, _, ⟨_, rfl⟩, m₃, h3, m₄, h4, rfl⟩ := h
  obtain ⟨hv, hlock, hw1⟩ := exec_getVoucherRow h1
  rw [hw1] at h2
  obtain ⟨hlimit, ⟨s₁, hs₁, huser⟩, hw2⟩ := exec_assertUsable h2
  have h4 : Exec R (recordUse r.orderId ⟨m₁.val.1, r.userId, storedAmount m₂.val⟩) s m₂.locks m₂.writes m₄ := by
    refine (exec_bind _ (fun _ => _) s _ _ _).2 ⟨m₃, h3, h4⟩
  refine ⟨_, m₁.val.2, rfl, exec_recordUse h4 hv hlimit ⟨_, s₁, hlock, hs₁, huser⟩ ?_ ?_⟩
  · rw [hw2, written_nil]
  · rw [hw2, written_nil]

/-! ## Every commit -/

/-- What a commit of the shop makes of the vouchers and their usage rows. -/
inductive VoucherChange (R : List (LockKey schema) → Db → Db → Prop) (op : Op ⊕ BackOp) (s b : Db)
    (locks : List (LockKey schema)) : Prop
  | released (h : Relation.ReflTransGen ReleaseStep s b)
  | used {orderId u v} (h : Used R s b locks orderId u v)
  | created {id v} (hop : op = .inr (.insertVoucher id v)) (hnone : s.find Tab.vouchers id = none)
      (hv : b.rows Tab.vouchers = (s.rows Tab.vouchers).insertNew id v)
      (hu : b.rows Tab.voucherUsages = s.rows Tab.voucherUsages)
  | edited {id entity reloaded} (hop : op = .inr (.updateVoucherRow id entity reloaded))
      (hv : b.rows Tab.vouchers = (s.rows Tab.vouchers).modify id (entity.saved reloaded))
      (hu : b.rows Tab.voucherUsages = s.rows Tab.voucherUsages)

theorem exec_updateVoucherRow {id : Uuid} {entity reloaded : Voucher} {o : Outcome (LockKey schema) (Write schema) Unit}
    (h : Exec R (updateVoucherRow id entity reloaded) s [] [] o) :
    o.writes = [.update Tab.vouchers id (entity.saved reloaded)] := by
  unfold updateVoucherRow at h
  split at h
  · cases h
    rfl
  · rw [exec_bind] at h
    obtain ⟨m, hm, h⟩ := h
    obtain ⟨_, rfl⟩ := exec_unique hm
    cases h
    rfl

variable {cfg : Config} {c : ShopCommit cfg} {Inv : Db → Prop} {G : List (LockKey schema) → Db → Db → Prop}

theorem voucher_change (hf : c.Faithful Inv G) :
    VoucherChange (System.Rely (S := platform cfg) Inv G) c.op c.before c.after c.out.locks := by
  have hkept : Tab.vouchers ∉ shopTables c.op → Tab.voucherUsages ∉ shopTables c.op →
      VoucherChange (System.Rely (S := platform cfg) Inv G) c.op c.before c.after c.out.locks := fun hv hu =>
    .released (.single (.kept (shop_rows_of_notMem hf hv) (shop_rows_of_notMem hf hu)))
  obtain ⟨call, op, s, o⟩ := c
  cases op with
  | inl op =>
    cases op with
    | createOrder co =>
      rcases exec_createOrder_voucher hf with hw | ⟨voucher, _, _, h⟩
      · refine .released (.single ?_)
        show ReleaseStep s (written o.writes s)
        rw [hw]
        exact .kept rfl rfl
      · cases voucher with
        | none => exact .released (.single (.kept h.1 h.2))
        | some voucher =>
          obtain ⟨v, h⟩ := h
          exact .used h
    | updatePaymentStatus id payment status now =>
      exact .released ((cancelParts.updatePaymentStatus id payment status now).moves moves_part _ _ _ _ _ hf)
    | updateOrderStatus id status note now => exact .released ((cancelParts.updateOrderStatus id status note now).moves moves_part _ _ _ _ _ hf)
    | _ => exact hkept (by simp [shopTables, Op.tables]) (by simp [shopTables, Op.tables])
  | inr op =>
    cases op with
    | redeemVoucher r =>
      obtain ⟨u, v, _, h⟩ := exec_redeemVoucher hf
      exact .used h
    | insertVoucher id v =>
      obtain ⟨m, hm, h⟩ := (exec_bind _ (fun _ => _) s _ _ _).1 hf
      obtain ⟨_, rfl⟩ := exec_unique hm
      obtain ⟨hnone, rfl⟩ := exec_insert h
      exact .created rfl hnone rfl rfl
    | updateVoucherRow id entity reloaded =>
      have hw := exec_updateVoucherRow hf
      refine .edited rfl ?_ ?_
      · show (written o.writes s).rows Tab.vouchers = _
        rw [hw, written_cons, written_nil, rows_update]
      · show (written o.writes s).rows Tab.voucherUsages = _
        rw [hw, written_cons, written_nil, rows_apply _ (by simp [Write.tab?])]
    | _ => exact hkept (by simp [shopTables, BackOp.tables]) (by simp [shopTables, BackOp.tables])

end Balii
