import Balii.Order.Stock
/-!
# Order.Lifecycle — an order's status, its stock and its voucher stay in step

The status of an order is written by five transactions, three of which do not consult the transition table.  What keeps
them in line is the stock's own state, the lock of the order, and that a return request exists only once its order was
delivered.
-/
namespace Balii

open Rowdb Tx Sql System

/-! ## The invariant -/

/-- The inventory state an order has in its status. -/
def Order.InStep (o : Order) : Prop :=
  match o.status with
  | .pending => o.inventoryState = .reserved
  | .cancelled => o.inventoryState = .released
  | .refunded => o.inventoryState = .committed ∨ o.inventoryState = .released
  | _ => o.inventoryState = .committed

structure Lifecycle (s : Db) : Prop where
  inStep : ∀ id o, s.find Tab.orders id = some o → o.InStep
  released : ∀ id o, s.find Tab.orders id = some o → o.status = .cancelled → s.find Tab.voucherUsages id = none
  returned : ∀ k r, s.find Tab.returnRequests k = some r →
    ∃ o, s.find Tab.orders r.orderId = some o ∧ (o.status = .delivered ∨ o.status = .refunded)

/-- An order keeps its status or goes to a next one, a new order is pending, and no order disappears. -/
def StatusStep (a b : Db) : Prop :=
  ∀ id, match a.find Tab.orders id, b.find Tab.orders id with
    | none, none => True
    | none, some o => o.status = .pending
    | some _, none => False
    | some o, some o' => o'.status = o.status ∨ o'.status ∈ o.status.next

/-- Only who holds an order's row writes the use of its voucher. -/
def UsagesUnderLock (L : List (LockKey schema)) (a b : Db) : Prop :=
  ∀ id, LockKey.row (D := schema) Tab.orders id ∉ L → b.find Tab.voucherUsages id = a.find Tab.voucherUsages id

/-- No orders yet, and so no return requests. -/
def NoOrders (s : Db) : Prop := s.rows Tab.orders = ∅ ∧ s.rows Tab.returnRequests = ∅

theorem NoOrders.lifecycle {s : Db} (h : NoOrders s) : Lifecycle s := by
  have ho : ∀ id, s.find Tab.orders id = none := fun id => by unfold Database.find; rw [h.1]; rfl
  have hr : ∀ k, s.find Tab.returnRequests k = none := fun k => by unfold Database.find; rw [h.2]; rfl
  refine ⟨fun id o h => ?_, fun id o h => ?_, fun k r h => ?_⟩
  · rw [ho] at h; cases h
  · rw [ho] at h; cases h
  · rw [hr] at h; cases h

/-! ## One commit -/

section Step
variable {cfg : Config} {s b : Db}

theorem statusStep_of_find (ho : ∀ id, b.find Tab.orders id = s.find Tab.orders id) : StatusStep s b := by
  intro id
  rw [ho]
  cases s.find Tab.orders id with
  | none => trivial
  | some o => exact .inl rfl

theorem statusStep_of_modify {id : Uuid} {order : Order} {f : Order → Order} (ho : s.find Tab.orders id = some order)
    (hrows : b.rows Tab.orders = (s.rows Tab.orders).modify id f)
    (hstep : (f order).status = order.status ∨ (f order).status ∈ order.status.next) : StatusStep s b := by
  intro k
  rw [Database.find_of_modify (D := schema) hrows]
  by_cases hk : k = id
  · subst hk
    rw [if_pos rfl, ho]
    exact hstep
  · rw [if_neg hk]
    cases s.find Tab.orders k with
    | none => trivial
    | some o => exact .inl rfl

/-- A delivered or refunded order stays one of the two. -/
theorem StatusStep.returned (h : StatusStep s b) {id : Uuid} {o : Order} (ho : s.find Tab.orders id = some o)
    (hst : o.status = .delivered ∨ o.status = .refunded) :
    ∃ o', b.find Tab.orders id = some o' ∧ (o'.status = .delivered ∨ o'.status = .refunded) := by
  have hstep := h id
  rw [ho] at hstep
  cases hb : b.find Tab.orders id with
  | none => rw [hb] at hstep; exact hstep.elim
  | some o' =>
    rw [hb] at hstep
    refine ⟨o', rfl, ?_⟩
    rcases hstep with heq | hnext
    · rwa [heq]
    · rcases hst with hst | hst
      · rw [hst] at hnext
        exact .inr (by simpa [OrderStatus.next] using hnext)
      · rw [hst] at hnext
        simp [OrderStatus.next] at hnext

/-- The requests of `b` are requests of `s`, or new ones for delivered orders. -/
def ReturnsFrom (s b : Db) : Prop :=
  ∀ k r, b.find Tab.returnRequests k = some r →
    (∃ r₀, s.find Tab.returnRequests k = some r₀ ∧ r₀.orderId = r.orderId) ∨
      ∃ o, s.find Tab.orders r.orderId = some o ∧ o.status = .delivered

/-- **Requests need no care of their own**: their orders stay delivered or refunded when statuses only move on. -/
theorem Lifecycle.returns (h : Lifecycle s) (hr : ReturnsFrom s b) (hstep : StatusStep s b) (k : Uuid) (r : ReturnRequest)
    (hb : b.find Tab.returnRequests k = some r) :
    ∃ o, b.find Tab.orders r.orderId = some o ∧ (o.status = .delivered ∨ o.status = .refunded) := by
  rcases hr k r hb with ⟨r₀, h0, heq⟩ | ⟨o, ho, hst⟩
  · obtain ⟨o, ho, hst⟩ := h.returned k r₀ h0
    rw [heq] at ho
    exact hstep.returned ho hst
  · exact hstep.returned ho (.inl hst)

theorem Lifecycle.of_find (h : Lifecycle s) (hr : ReturnsFrom s b) (ho : ∀ id, b.find Tab.orders id = s.find Tab.orders id)
    (hu : ∀ id, b.find Tab.voucherUsages id = s.find Tab.voucherUsages id) : Lifecycle b := by
  refine ⟨fun id o hb => ?_, fun id o hb hc => ?_, h.returns hr (statusStep_of_find ho)⟩
  · rw [ho] at hb
    exact h.inStep id o hb
  · rw [ho] at hb
    rw [hu]
    exact h.released id o hb hc

/-- One order changed, and perhaps its voucher's use. -/
theorem Lifecycle.of_modify (h : Lifecycle s) (hr : ReturnsFrom s b) {id : Uuid} {order : Order} {f : Order → Order}
    (ho : s.find Tab.orders id = some order) (hrows : b.rows Tab.orders = (s.rows Tab.orders).modify id f)
    (hstep : StatusStep s b) (hin : (f order).InStep)
    (hused : (f order).status = .cancelled → b.find Tab.voucherUsages id = none)
    (hu : ∀ k, k ≠ id → b.find Tab.voucherUsages k = s.find Tab.voucherUsages k) : Lifecycle b := by
  have hof := Database.find_of_modify (D := schema) hrows
  refine ⟨fun k o hb => ?_, fun k o hb hc => ?_, h.returns hr hstep⟩
  · rw [hof] at hb
    by_cases hk : k = id
    · subst hk
      rw [if_pos rfl, ho] at hb
      cases hb
      exact hin
    · rw [if_neg hk] at hb
      exact h.inStep k o hb
  · rw [hof] at hb
    by_cases hk : k = id
    · subst hk
      rw [if_pos rfl, ho] at hb
      cases hb
      exact hused hc
    · rw [if_neg hk] at hb
      rw [hu k hk]
      exact h.released k o hb hc

theorem inStep_moveTo {o : Order} {status : OrderStatus} {now : Time} (h : o.InStep) (hs : status ∈ o.status.next) :
    (o.moveTo status (status.inventory o.inventoryState) now).InStep := by
  unfold Order.InStep at h ⊢
  cases hst : o.status <;> rw [hst] at h hs <;> simp [OrderStatus.next] at hs
  all_goals first
    | (subst hs; simp [Order.moveTo, OrderStatus.inventory, h])
    | (rcases hs with rfl | rfl <;> simp [Order.moveTo, OrderStatus.inventory, h])

theorem usage_released {Inv : Db → Prop} {L : List (LockKey schema)} {id : Uuid}
    (hL : LockKey.row (D := schema) Tab.orders id ∈ L) (h : UsageReleased (Rely (S := platform cfg) Inv UsagesUnderLock) L s b id) :
    b.find Tab.voucherUsages id = none := by
  rcases h.1 with h | ⟨h, L', s₀, hL', ⟨_, hs₀⟩, hnone⟩
  · exact h
  · rw [h, ← hnone]
    exact eq_of_others (f := fun s : Db => s.find Tab.voucherUsages id)
      (fun K a b hK hg => hg id fun hk => hK _ hk (hL' _ hL)) hs₀

/-- **A change of status keeps the lifecycle.** -/
theorem Lifecycle.moved {Inv : Db → Prop} (h : Lifecycle s) (hr : ReturnsFrom s b) {To : OrderStatus → Prop} {id : Uuid} {order : Order}
    {now : Time} (ho : s.find Tab.orders id = some order)
    (hm : OrderMoved (Rely (S := platform cfg) Inv UsagesUnderLock) To s b id order now) :
    Lifecycle b ∧ StatusStep s b ∧ ∀ k, k ≠ id → b.find Tab.voucherUsages k = s.find Tab.voucherUsages k := by
  rcases hm with ⟨h1, _, h3, _⟩ | ⟨status, hmem, _, horders, halong⟩
  · have hof := Database.find_of_rows (D := schema) h1
    have huf := Database.find_of_rows (D := schema) h3
    exact ⟨h.of_find hr hof huf, statusStep_of_find hof, fun k _ => huf k⟩
  · have hstep : StatusStep s b := statusStep_of_modify ho horders (.inr hmem)
    have huse : ∀ k, k ≠ id → b.find Tab.voucherUsages k = s.find Tab.voucherUsages k := by
      intro k hk
      by_cases hc : status = .cancelled
      · obtain ⟨_, _, _, L, _, _, hother⟩ := halong.cancelled hc
        exact hother k hk
      · exact Database.find_of_rows (D := schema) (halong.usages hc) k
    refine ⟨h.of_modify hr ho horders hstep (inStep_moveTo (h.inStep id order ho) hmem) (fun hc => ?_) huse, hstep, huse⟩
    obtain ⟨_, _, _, L, hL, hused⟩ := halong.cancelled hc
    exact usage_released hL hused

/-- **A refund of the order keeps the lifecycle**: whose return is paid back is delivered, or refunded already. -/
theorem Lifecycle.paid (h : Lifecycle s) (hr : ReturnsFrom s b) {id : Uuid} {request : ReturnRequest}
    {change : ReturnRequest → ReturnRequest} {now : Time} (hreq : s.find Tab.returnRequests id = some request)
    (hu : ∀ k, b.find Tab.voucherUsages k = s.find Tab.voucherUsages k) (hp : ReturnPaid s b id request change now) :
    Lifecycle b ∧ StatusStep s b := by
  obtain ⟨order, ho, hst⟩ := h.returned id request hreq
  rcases hp.orders with hrows | hrows
  · have hof := Database.find_of_rows (D := schema) hrows
    exact ⟨h.of_find hr hof hu, statusStep_of_find hof⟩
  · have hstep : StatusStep s b := by
      refine statusStep_of_modify ho hrows ?_
      rcases hst with hst | hst
      · exact .inr (by rw [hst]; exact List.mem_cons_self)
      · exact .inl hst.symm
    refine ⟨h.of_modify hr ho hrows hstep ?_ (fun hc => (nomatch hc)) fun k _ => hu k, hstep⟩
    have hin := h.inStep _ _ ho
    unfold Order.InStep at hin ⊢
    rcases hst with hst | hst <;> rw [hst] at hin
    · exact .inl hin
    · exact hin

theorem Lifecycle.placed (h : Lifecycle s) (hr : ReturnsFrom s b) {c : Checkout} {voucher : Option (Uuid × ℤ)}
    (hp : Placed s b c voucher) : Lifecycle b ∧ StatusStep s b := by
  have hof := hp.find_orders
  have hstep : StatusStep s b := by
    intro k
    rw [hof]
    by_cases hk : k = c.orderId
    · subst hk
      rw [if_pos rfl, hp.fresh]
      exact rfl
    · rw [if_neg hk]
      cases s.find Tab.orders k with
      | none => trivial
      | some o => exact .inl rfl
  refine ⟨⟨fun k o hb => ?_, fun k o hb hc => ?_, h.returns hr hstep⟩, hstep⟩
  · rw [hof] at hb
    split at hb
    · cases hb
      exact rfl
    · exact h.inStep k o hb
  · rw [hof] at hb
    split at hb
    · cases hb
      cases hc
    · rename_i hk
      rw [hp.usages k hk]
      exact h.released k o hb hc

end Step

/-! ## Every commit -/

variable {cfg : Config}

theorem returnsFrom_commit {c : Commit cfg} {Inv : Db → Prop} {G : List (LockKey schema) → Db → Db → Prop}
    (hf : c.Faithful Inv G) : ReturnsFrom c.before c.after := by
  intro k r hr
  rcases return_change hf hr with ⟨r₀, h0, hchange⟩ | ⟨n, order, _, _, _, ho, hst, rfl, _⟩
  · exact .inl ⟨r₀, h0, hchange.orderId.symm⟩
  · exact .inr ⟨order, ho, hst⟩

/-- **Every commit keeps the lifecycle**, moves no status but along the table, and writes voucher uses under lock. -/
theorem lifecycle_commit (c : Commit cfg) (h : Lifecycle c.before) (hf : c.Faithful Lifecycle UsagesUnderLock) :
    Lifecycle c.after ∧ UsagesUnderLock c.out.locks c.before c.after ∧ StatusStep c.before c.after := by
  have hr := returnsFrom_commit hf
  have husages : Tab.voucherUsages ∉ c.op.tables →
      ∀ id, c.after.find Tab.voucherUsages id = c.before.find Tab.voucherUsages id := fun ht id => find_of_notMem hf ht id
  have horders : Tab.orders ∉ c.op.tables → ∀ id, c.after.find Tab.orders id = c.before.find Tab.orders id :=
    fun ht id => find_of_notMem hf ht id
  have hsame : c.out.writes = [] →
      Lifecycle c.after ∧ UsagesUnderLock c.out.locks c.before c.after ∧ StatusStep c.before c.after := fun hw => by
    rw [after_of_nil hw]
    exact ⟨h, fun _ _ => rfl, statusStep_of_find fun _ => rfl⟩
  obtain ⟨call, op, s, o⟩ := c
  cases op with
  | createOrder co =>
    rcases exec_createOrder hf with hw | ⟨voucher, hp, hkey⟩
    · exact hsame hw
    · obtain ⟨h1, h2⟩ := h.placed hr hp
      exact ⟨h1, fun id hid => hp.usages id fun hk => hid (hk ▸ hkey), h2⟩
  | updatePaymentStatus id payment status now =>
    obtain ⟨order, ho, hkey, hm, _⟩ := exec_updatePaymentStatus hf
    obtain ⟨h1, h2, h3⟩ := h.moved hr ho hm
    exact ⟨h1, fun k hk => h3 k fun he => hk (he ▸ hkey), h2⟩
  | updateOrderStatus id status note now =>
    obtain ⟨order, ho, hkey, hm⟩ := exec_updateOrderStatus hf
    obtain ⟨h1, h2, h3⟩ := h.moved hr ho hm
    exact ⟨h1, fun k hk => h3 k fun he => hk (he ▸ hkey), h2⟩
  | updateReturnRefundResult id result now =>
    obtain ⟨request, _, hreq, _, ⟨_, hw⟩ | ⟨_, hp⟩⟩ := exec_updateReturnRefundResult hf
    · exact hsame hw
    · have hu := husages (by simp [Op.tables])
      obtain ⟨h1, h2⟩ := h.paid hr hreq hu hp
      exact ⟨h1, fun k _ => hu k, h2⟩
  | completeManualReturnRefund m =>
    obtain ⟨request, _, hreq, _, ⟨_, hw⟩ | ⟨_, _, hp⟩⟩ := exec_completeManual hf
    · exact hsame hw
    · have hu := husages (by simp [Op.tables])
      obtain ⟨h1, h2⟩ := h.paid hr hreq hu hp
      exact ⟨h1, fun k _ => hu k, h2⟩
  | _ =>
    have ho := horders (by simp [Op.tables])
    have hu := husages (by simp [Op.tables])
    exact ⟨h.of_find hr ho hu, fun k _ => hu k, statusStep_of_find ho⟩

theorem lifecycle_keeps : Keeps (S := platform cfg) Lifecycle UsagesUnderLock (fun _ => True) fun _ => True := by
  intro c _ h hf _
  obtain ⟨h1, h2, _⟩ := lifecycle_commit c h hf
  exact ⟨h1, h2⟩

/-! ## Every run -/

/-- **The lifecycle of orders.**  In every state of every run from a shop without orders, whatever interleaves, a pending
order has its stock reserved, a confirmed, processing, shipping or delivered one has it committed, a cancelled one released
and no use of a voucher left, a refunded one committed or released; and no commit moves an order's status but along
`OrderStatus.next`. -/
theorem order_lifecycle (cfg : Config) (e : Execution (platform cfg) NoOrders fun _ => True) :
    (∀ s ∈ e.history, ∀ id o, s.find Tab.orders id = some o →
      (o.status = .pending → o.inventoryState = .reserved) ∧
      (o.status = .confirmed ∨ o.status = .processing ∨ o.status = .shipping ∨ o.status = .delivered →
        o.inventoryState = .committed) ∧
      (o.status = .cancelled → o.inventoryState = .released ∧ s.find Tab.voucherUsages id = none) ∧
      (o.status = .refunded → o.inventoryState = .committed ∨ o.inventoryState = .released)) ∧
    e.history.IsChain StatusStep := by
  have hinv : ∀ s ∈ e.history, Lifecycle s := fun s hs =>
    e.invariant lifecycle_keeps (fun _ h => h.lifecycle) (fun _ _ => trivial) hs
  refine ⟨fun s hs id o ho => ?_, ?_⟩
  · have hstep := (hinv s hs).inStep id o ho
    unfold Order.InStep at hstep
    refine ⟨fun h => ?_, fun h => ?_, fun h => ⟨?_, (hinv s hs).released id o ho h⟩, fun h => ?_⟩
    · rwa [h] at hstep
    · rcases h with h | h | h | h <;> rwa [h] at hstep
    · rwa [h] at hstep
    · rwa [h] at hstep
  · rw [e.isChain_history]
    intro c hc
    obtain ⟨h1, h2, _⟩ := e.commits lifecycle_keeps (fun _ h => h.lifecycle) (fun _ _ => trivial) c hc
    exact (lifecycle_commit c h1 h2).2.2

/-- An order is placed, and cancelled. -/
def soldAndCancelled : Execution (platform sampleConfig) NoOrders fun _ => True :=
  .ofSchedule openedShop (sold 0 1 7 ++ moved 1 1 .cancelled) ⟨rfl, rfl⟩ fun _ _ => trivial

theorem soldAndCancelled_released : ∃ o, soldAndCancelled.final.db.find Tab.orders 1 = some o ∧ o.status = .cancelled ∧
    o.inventoryState = .released ∧ soldAndCancelled.final.db.find Tab.voucherUsages 1 = none := by
  have horder : (soldAndCancelled.final.db.find Tab.orders 1).any (fun o => o.status == .cancelled) = true := by decide +kernel
  obtain ⟨o, ho, hstatus⟩ := (Option.any_eq_true _ _).1 horder
  obtain ⟨-, -, hcancelled, -⟩ := (order_lifecycle sampleConfig soldAndCancelled).1 _ soldAndCancelled.final_mem_history 1 o ho
  obtain ⟨hreleased, hunused⟩ := hcancelled (beq_iff_eq.1 hstatus)
  exact ⟨o, ho, beq_iff_eq.1 hstatus, hreleased, hunused⟩

end Balii
