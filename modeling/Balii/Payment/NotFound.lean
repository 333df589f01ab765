import Balii.Lib.Steady
import Balii.Payment.Ledger
/-!
# Payment.NotFound — when "not found" is true

`updatePaymentStatus`, `updateOrderStatus` and the two `persist…ResultTransaction`s find their row with a `SELECT … FOR UPDATE` that
joins it with its status.  Where the row's status changes while the statement waits for the row, the join no longer holds, the
statement returns nothing, and the code says that there is no such row.
-/
namespace Balii

open Rowdb Tx Sql System

/-! ## The errors of everything after -/

/-- An error that does not say of something that it is not there. -/
def Err.Ordinary (e : Err) : Prop := e.kind ≠ .notFound

theorem ordinary_of {kind : ErrKind} {message : String} (h : kind ≠ .notFound) : Err.Ordinary ⟨kind, message⟩ := h

theorem badRequest_ordinary (message : String) : (badRequest message).Ordinary := ordinary_of (by decide)

theorem conflict_ordinary (message : String) : (conflict message).Ordinary := ordinary_of (by decide)

theorem uniqueViolation_ordinary (index : String) : (uniqueViolation index).Ordinary := ordinary_of (by decide)

theorem checkViolation_ordinary (constraint : String) : (checkViolation constraint).Ordinary := ordinary_of (by decide)

theorem foreignKeyViolation_ordinary (constraint : String) : (foreignKeyViolation constraint).Ordinary := ordinary_of (by decide)

section Throws

theorem throws_updateVariantWhere (ctx : AuditContext) (id : Uuid) (p : Variant → Bool) (f : Variant → Variant) :
    Throws Err.Ordinary (updateVariantWhere ctx id p f) := by
  refine throws_bind throws_updateWhere fun updated => ?_
  cases updated with
  | none => exact throws_pure _
  | some old => exact throws_bind (throws_ite (throws_pure _) throws_append) fun _ => throws_pure _

theorem throws_moveVariant (ctx : AuditContext) (target : InventoryTarget) (current : InventoryState) (item : Uuid × ℤ) :
    Throws Err.Ordinary (moveVariant ctx target current item) :=
  throws_bind (throws_updateVariantWhere _ _ _ _) fun _ => throws_ensure (badRequest_ordinary _)

theorem throws_releaseVoucher (id : Uuid) : Throws Err.Ordinary (releaseVoucherUsageInTransaction id) := by
  refine throws_bind throws_deleteReturning fun usage => ?_
  cases usage with
  | none => exact throws_pure _
  | some u => exact throws_update

theorem throws_cancelPending (id : Uuid) : Throws Err.Ordinary (cancelPendingPaymentsInTransaction id) :=
  throws_bind throws_select fun _ => throws_each fun _ => throws_bind throws_updateWhere fun _ => throws_pure _

theorem throws_setOrderStatus (id : Uuid) (a b : OrderStatus) (note : String) (now : Time) :
    Throws Err.Ordinary (setOrderStatus id a b note now) := throws_bind throws_update fun _ => throws_append

theorem throws_completeReturns (id : Uuid) (now : Time) : Throws Err.Ordinary (completeReturnRequests id now) :=
  throws_bind throws_select fun _ => throws_each fun _ => throws_bind throws_updateWhere fun _ => throws_pure _

theorem throws_applyNextStatus (id : Uuid) (order : Order) (payment : ReportedPayment) (next : Option OrderStatus) (now : Time) :
    Throws Err.Ordinary (applyNextStatus id order payment next now) := by
  cases next with
  | none => exact throws_pure _
  | some status => exact throws_ite (throws_pure _) (throws_bind (throws_setOrderStatus _ _ _ _ _) fun _ => throws_pure _)

theorem throws_saveWebhook (hash : String) (w : Webhook) : Throws Err.Ordinary (saveWebhook hash w) :=
  throws_bind throws_insertIgnore fun _ => throws_bind throws_select fun _ => throws_ensure (foreignKeyViolation_ordinary _)

theorem throws_publishEvent (id : Uuid) (e : OutboxEvent) : Throws Err.Ordinary (publishEvent id e) :=
  throws_insert (uniqueViolation_ordinary _)

theorem throws_settlePayment (i : PaymentResultInput) (order : Order) (payment : Payment) :
    Throws Err.Ordinary (settlePayment i order payment) := by
  refine throws_bind (throws_ensure (badRequest_ordinary _)) fun _ => throws_bind throws_update fun _ => ?_
  exact throws_bind (throws_publishEvent _ _) fun _ => throws_pure _

theorem throws_checkProviderRefundId (i : RefundResultInput) : Throws Err.Ordinary (checkProviderRefundId i) := by
  unfold checkProviderRefundId uniqueOption
  split
  · exact throws_pure _
  · exact throws_unique (uniqueViolation_ordinary _)

theorem throws_refundSucceeded (i : RefundResultInput) (refund : Refund) (payment : Payment) :
    Throws Err.Ordinary (refundSucceeded i refund payment) := by
  refine throws_bind throws_update fun _ => throws_bind (throws_checkProviderRefundId i) fun _ => throws_bind throws_select fun _ => ?_
  refine throws_bind (throws_bind throws_updateWhere fun _ => throws_ensure (checkViolation_ordinary _)) fun _ => ?_
  exact throws_bind (throws_publishEvent _ _) fun _ => throws_pure _

theorem throws_refundFailed (i : RefundResultInput) (refund : Refund) (payment : Payment) :
    Throws Err.Ordinary (refundFailed i refund payment) := by
  refine throws_bind throws_update fun _ => throws_bind (throws_checkProviderRefundId i) fun _ => ?_
  exact throws_bind (throws_publishEvent _ _) fun _ => throws_pure _

end Throws

/-! ## What the statements count on -/

/-- What a refund's statement joins: the payment it is of, and that payment's status. -/
def refundJoin (refundId : Uuid) (s : Db) : Option (Uuid × PaymentStatus) :=
  (findRefundWithPayment refundId s).map fun found => (found.1.paymentId, found.2.status)

/-- The statuses of the order, the payment and the refund that a transaction has read when it waits for `k`. -/
def Op.joined (op : Op) (k : LockKey schema) (s : Db) : Option OrderStatus × Option PaymentStatus × Option (Uuid × PaymentStatus) :=
  match op, k with
  | .updatePaymentStatus id _ _ _, _ => ((s.find Tab.orders id).map fun o => o.status, none, none)
  | .updateOrderStatus id _ _ _, _ => ((s.find Tab.orders id).map fun o => o.status, none, none)
  | .persistPaymentResult i, .row .orders _ => ((s.find Tab.orders i.orderId).map fun o => o.status, none, none)
  | .persistPaymentResult i, _ => (none, (s.find Tab.payments i.paymentId).map fun p => p.status, none)
  | .persistRefundResult i, _ => (none, none, refundJoin i.refundId s)
  | _, _ => (none, none, none)

/-- **What the transaction waits with stays true**: its row still has the status that the statement joined it with. -/
def Op.KeepsJoin (op : Op) (k : LockKey schema) (a b : Db) : Prop := op.joined k a = op.joined k b

/-- **The transaction's "not found" is true**: the row it names is not there. -/
def Op.Absent (op : Op) (e : Err) (s : Db) : Prop :=
  match op with
  | .updatePaymentStatus id _ _ _ => e = notFound "Order not found" → s.find Tab.orders id = none
  | .updateOrderStatus id _ _ _ => e = notFound "Order not found" → s.find Tab.orders id = none
  | .persistPaymentResult i => (e = notFound "Order not found" → s.find Tab.orders i.orderId = none) ∧
      (e = notFound "Payment not found" → s.find Tab.payments i.paymentId = none)
  | .persistRefundResult i => e = notFound "Refund not found" → s.find Tab.refunds i.refundId = none
  | _ => True

/-- `refunds_payment_id_fkey`. -/
def Owned (s : Db) : Prop := ∀ k r, s.find Tab.refunds k = some r → (s.find Tab.payments r.paymentId).isSome = true

theorem Op.absent_of_ordinary {op : Op} {e : Err} (h : e.Ordinary) (s : Db) : op.Absent e s := by
  have hne : ∀ message, e ≠ notFound message := fun message heq => h (by rw [heq]; rfl)
  unfold Op.Absent
  split
  · exact fun heq => absurd heq (hne _)
  · exact fun heq => absurd heq (hne _)
  · exact ⟨fun heq => absurd heq (hne _), fun heq => absurd heq (hne _)⟩
  · exact fun heq => absurd heq (hne _)
  · trivial

/-! ## Each body -/

/-- What a transaction may fail with, in a database whose refunds are of payments that exist. -/
def Op.FailsOnly (op : Op) (e : Err) (s : Db) : Prop := Owned s → op.Absent e s

section Steady
variable {op : Op} {α : Type} {Q : Outcome (LockKey schema) (Write schema) α → Db → Prop} {L : List (LockKey schema)} {s : Db}

theorem steady_of_ordinary (hQ : ∀ o s, Q o s) {t : Trans α} {ws : List (Write schema)} (h : Throws Err.Ordinary t) :
    Steady op.KeepsJoin op.FailsOnly Q t L ws s :=
  steady_of_throws (fun _ s he _ => Op.absent_of_ordinary he s) hQ h

/-- The move of the stock finds the order, or the order is not there. -/
theorem steady_transition {Q : Outcome (LockKey schema) (Write schema) Unit → Db → Prop} {id : Uuid}
    (hnone : ∀ s, s.find Tab.orders id = none → op.FailsOnly (notFound "Order not found") s) (hQ : ∀ o s, Q o s)
    (target : InventoryTarget) (now : Time) :
    Steady op.KeepsJoin op.FailsOnly Q (transitionInventoryInTransaction id target now) L [] s := by
  refine steady_fetch hnone fun order s _ => steady_of_ordinary hQ ?_
  refine throws_ite (throws_pure _) (throws_bind (throws_ensure (conflict_ordinary _)) fun _ => ?_)
  exact throws_bind (throws_each fun _ => throws_moveVariant _ _ _ _) fun _ => throws_update

end Steady

section Bodies
variable {op : Op} {α : Type} {Q : Outcome (LockKey schema) (Write schema) α → Db → Prop} {L : List (LockKey schema)} {s : Db}

theorem failsOnly_ordinary {e : Err} (h : e.Ordinary) (s : Db) : op.FailsOnly e s := fun _ => Op.absent_of_ordinary h s

theorem steady_nextStatus {Q : Outcome (LockKey schema) (Write schema) (Option OrderStatus) → Db → Prop} {id : Uuid}
    (hnone : ∀ s, s.find Tab.orders id = none → op.FailsOnly (notFound "Order not found") s) (hQ : ∀ o s, Q o s)
    (order : Order) (payment : ReportedPayment) (now : Time) :
    Steady op.KeepsJoin op.FailsOnly Q (nextStatusOf id order payment now) L [] s := by
  have hpure : ∀ (next : Option OrderStatus) {L ws s}, Steady op.KeepsJoin op.FailsOnly Q (pure next) L ws s :=
    fun _ => steady_of_ordinary hQ (throws_pure _)
  cases payment with
  | paid =>
    refine steady_ensure (failsOnly_ordinary (conflict_ordinary _)) fun _ => ?_
    split
    · exact steady_bind.2 (steady_transition hnone (fun o s => hpure _) _ _)
    · exact steady_of_ordinary hQ (throws_bind (throws_ensure (conflict_ordinary _)) fun _ => throws_pure _)
  | failed =>
    show Steady op.KeepsJoin op.FailsOnly Q (failedOrder id order now) L [] s
    unfold failedOrder
    split
    · refine steady_look fun s => ?_
      split
      · exact hpure _
      · refine steady_bind.2 (steady_transition hnone (fun o s => steady_of_ordinary hQ ?_) _ _)
        exact throws_bind (throws_releaseVoucher _) fun _ => throws_bind (throws_cancelPending _) fun _ => throws_pure _
    · exact hpure _
  | refunded => exact steady_of_ordinary hQ (throws_bind (throws_ensure (conflict_ordinary _)) fun _ => throws_pure _)
  | unpaid => exact hpure _
  | pending => exact hpure _

theorem steady_moveWithStatus {Q : Outcome (LockKey schema) (Write schema) Unit → Db → Prop} {id : Uuid}
    (hnone : ∀ s, s.find Tab.orders id = none → op.FailsOnly (notFound "Order not found") s) (hQ : ∀ o s, Q o s)
    (status : OrderStatus) (payments : List (Uuid × Payment)) (now : Time) :
    Steady op.KeepsJoin op.FailsOnly Q (moveWithStatus id status payments now) L [] s := by
  have hpure : Steady op.KeepsJoin op.FailsOnly Q (pure () : Trans Unit) L [] s := steady_of_ordinary hQ (throws_pure _)
  cases status with
  | confirmed =>
    refine steady_ensure (failsOnly_ordinary (conflict_ordinary _)) fun _ => ?_
    exact steady_transition hnone hQ _ _
  | cancelled =>
    refine steady_ensure (failsOnly_ordinary (conflict_ordinary _)) fun _ => ?_
    refine steady_bind.2 (steady_transition hnone (fun o s => steady_of_ordinary hQ ?_) _ _)
    exact throws_bind (throws_releaseVoucher _) fun _ => throws_cancelPending _
  | _ => exact hpure

end Bodies

section Transactions
variable {s : Db}

theorem steady_updatePaymentStatus (id : Uuid) (payment : ReportedPayment) (status : Option OrderStatus) (now : Time) :
    Steady (Op.updatePaymentStatus id payment status now).KeepsJoin (Op.updatePaymentStatus id payment status now).FailsOnly
      (fun _ _ => True) (updatePaymentStatusTransaction id payment status now) [] [] s := by
  have hnone : ∀ s : Db, s.find Tab.orders id = none →
      (Op.updatePaymentStatus id payment status now).FailsOnly (notFound "Order not found") s := fun s h _ _ => h
  refine steady_fetchJoin (fun _ _ h => congrArg Prod.fst h) hnone fun order s _ => ?_
  refine steady_bind.2 (steady_nextStatus hnone (fun o s => ?_) order payment now)
  refine steady_of_ordinary (fun _ _ => trivial) (throws_bind (throws_ensure (badRequest_ordinary _)) fun _ => ?_)
  refine throws_bind (throws_applyNextStatus _ _ _ _ _) fun _ => ?_
  exact throws_ite (throws_bind (throws_completeReturns _ _) fun _ => throws_pure _) (throws_pure _)

theorem steady_updateOrderStatus (id : Uuid) (status : OrderStatus) (note : Option String) (now : Time) :
    Steady (Op.updateOrderStatus id status note now).KeepsJoin (Op.updateOrderStatus id status note now).FailsOnly
      (fun _ _ => True) (updateOrderStatusTransaction id status note now) [] [] s := by
  have hnone : ∀ s : Db, s.find Tab.orders id = none →
      (Op.updateOrderStatus id status note now).FailsOnly (notFound "Order not found") s := fun s h _ _ => h
  refine steady_fetchJoin (fun _ _ h => congrArg Prod.fst h) hnone fun order s _ => ?_
  split
  · trivial
  · refine steady_ensure (failsOnly_ordinary (badRequest_ordinary _)) fun _ => steady_look fun s => ?_
    refine steady_bind.2 (steady_moveWithStatus hnone (fun o s => ?_) status _ now)
    exact steady_of_ordinary (fun _ _ => trivial) (throws_bind (throws_setOrderStatus _ _ _ _ _) fun _ => throws_pure _)

theorem steady_persistPaymentResult (cfg : Config) (i : PaymentResultInput) :
    Steady (Op.persistPaymentResult i).KeepsJoin (Op.persistPaymentResult i).FailsOnly (fun _ _ => True)
      (persistPaymentResult cfg i) [] [] s := by
  have horder : ∀ s : Db, s.find Tab.orders i.orderId = none →
      (Op.persistPaymentResult i).FailsOnly (notFound "Order not found") s :=
    fun s h _ => ⟨fun _ => h, fun heq => absurd heq (by decide)⟩
  have hpayment : ∀ s : Db, s.find Tab.payments i.paymentId = none →
      (Op.persistPaymentResult i).FailsOnly (notFound "Payment not found") s :=
    fun s h _ => ⟨fun heq => absurd heq (by decide), fun _ => h⟩
  refine steady_fetchJoin (fun _ _ h => congrArg Prod.fst h) horder fun order s _ => ?_
  refine steady_fetchJoin (fun _ _ h => (Prod.ext_iff.1 (Prod.ext_iff.1 h).2).1) hpayment fun payment s _ => ?_
  refine steady_of_ordinary (fun _ _ => trivial) (throws_bind (throws_ensure (badRequest_ordinary _)) fun _ => ?_)
  exact throws_bind (throws_saveWebhook _ _) fun _ => throws_ite (throws_settlePayment _ _ _) (throws_pure _)

/-- A refund's statement looks once, and waits for the refund and then for its payment. -/
theorem steady_fetchRefund (i : RefundResultInput) {Q : Outcome (LockKey schema) (Write schema) (Refund × Payment) → Db → Prop}
    (hQ : ∀ o s, Q o s) :
    Steady (Op.persistRefundResult i).KeepsJoin (Op.persistRefundResult i).FailsOnly Q (fetchRefund i.refundId) [] [] s := by
  intro s₀ _ s₁ _ h₁
  show Steady _ _ Q (Tx.need (s₁.find Tab.refunds i.refundId) (notFound "Refund not found") >>= _) _ [] s₁
  cases hrefund : s₁.find Tab.refunds i.refundId with
  | none => exact fun s' h _ _ => (h (.row Tab.refunds i.refundId) List.mem_cons_self).symm.trans hrefund
  | some r =>
    intro s₂ hL₂ h₂
    have hrefund₂ : s₂.find Tab.refunds i.refundId = some r :=
      (hL₂ (.row Tab.refunds i.refundId) List.mem_cons_self).symm.trans hrefund
    show Steady _ _ Q (Tx.need (s₂.find Tab.payments r.paymentId) (notFound "Refund not found") >>= _) _ [] s₂
    cases hpayment : s₂.find Tab.payments r.paymentId with
    | none =>
      -- a refund is of a payment that exists
      intro s' h howned
      have hr := (h (.row Tab.refunds i.refundId) (List.mem_cons_of_mem _ List.mem_cons_self)).symm.trans hrefund₂
      have hp := (h (.row Tab.payments r.paymentId) List.mem_cons_self).symm.trans hpayment
      have hsome := howned _ r hr
      rw [show s'.find Tab.payments r.paymentId = none from hp] at hsome
      cases hsome
    | some p =>
      have hseen : refundJoin i.refundId s₀ = some (r.paymentId, p.status) := by
        have h02 := (Prod.ext_iff.1 (Prod.ext_iff.1 (Eq.trans h₁ h₂)).2).2
        rw [show refundJoin i.refundId s₀ = refundJoin i.refundId s₂ from h02, refundJoin, findRefundWithPayment, hrefund₂]
        simp [hpayment]
      show Steady _ _ Q (Tx.ensure (refundJoin i.refundId s₀ = some (r.paymentId, p.status)) (notFound "Refund not found") >>= _) _ [] s₂
      rw [Tx.ensure, if_pos hseen]
      exact fun _ _ _ => hQ _ _

theorem steady_persistRefundResult (cfg : Config) (i : RefundResultInput) :
    Steady (Op.persistRefundResult i).KeepsJoin (Op.persistRefundResult i).FailsOnly (fun _ _ => True)
      (persistRefundResult cfg i) [] [] s := by
  refine steady_bind.2 (steady_fetchRefund i fun o s => steady_of_ordinary (fun _ _ => trivial) ?_)
  refine throws_bind (throws_saveWebhook _ _) fun _ => ?_
  exact throws_ite (throws_refundSucceeded _ _ _) (throws_refundFailed _ _ _)

/-- **Every transaction that waits undisturbed fails with a true "not found" only.** -/
theorem steady_tx (cfg : Config) (op : Op) (s : Db) :
    Steady op.KeepsJoin op.FailsOnly (fun _ _ => True) (op.tx cfg) [] [] s := by
  cases op with
  | updatePaymentStatus id payment status now => exact steady_updatePaymentStatus id payment status now
  | updateOrderStatus id status note now => exact steady_updateOrderStatus id status note now
  | persistPaymentResult i => exact steady_persistPaymentResult cfg i
  | persistRefundResult i => exact steady_persistRefundResult cfg i
  | _ => exact steady_of_always (fun _ _ _ => trivial) fun _ _ => trivial

end Transactions

/-! ## Runs -/

/-- Refunds stay with payments that exist. -/
theorem keeps_owned (cfg : Config) : Keeps (S := platform cfg) Owned
    (fun _ a b => ∀ k, (a.find Tab.payments k).isSome = true → (b.find Tab.payments k).isSome = true) (fun _ => True) fun _ => True :=
  fun _ _ h hf _ => ⟨refunds_owned hf (fun _ _ _ hg k => hg k) h, payments_stay hf⟩

/-- **"Not found" is true in every run that disturbs no locking join**: when one of the four transactions throws it, there is no such
order, payment or refund. -/
theorem notFound_absent (cfg : Config) {s : Db} (hs : Owned s) {es : List (Event (platform cfg))} {w : World (platform cfg)}
    (run : UndisturbedRun (S := platform cfg) Op.KeepsJoin (quiet s) es w) :
    ∀ f : Failure (platform cfg), .failed f ∈ es → f.op.Absent f.err f.before := by
  let e : Execution (platform cfg) Owned fun _ => True := ⟨s, es, w, hs, run.run, fun _ _ => trivial⟩
  intro f hf
  have howned := (e.failures (keeps_owned cfg) (fun _ h => h) (fun _ _ => trivial) f hf).1
  have htrans : ∀ (op : Op) k a b c, op.KeepsJoin k a b → op.KeepsJoin k b c → op.KeepsJoin k a c := fun _ _ _ _ _ => Eq.trans
  have hrefl : ∀ (op : Op) k a, op.KeepsJoin k a a := fun _ _ _ => rfl
  exact (run.failures htrans hrefl (steady_tx cfg)).2 f hf howned

/-- A status is asked of an order that nobody placed. -/
theorem notFound_absent_ghost : ∃ f : Failure (platform sampleConfig), f.err = notFound "Order not found" ∧
    f.op = .updateOrderStatus 1 .processing none 3 ∧ f.before.find Tab.orders 1 = none := by
  let s : Db := ⟨fun _ => ∅, []⟩
  have hs : Owned s := fun _ _ hr => by cases hr
  have hrefl : ∀ (op : Op) k a, op.KeepsJoin k a a := fun _ _ _ => rfl
  obtain ⟨es, w, hrun, hf⟩ := refused (S := platform sampleConfig) (s := s) (c := .updateOrderStatus 1 .processing none 3)
    hrefl rfl rfl rfl (e := notFound "Order not found") rfl
  exact ⟨_, rfl, rfl, notFound_absent sampleConfig hs hrun _ hf rfl⟩

/-! ### A callback overtaken by a status change -/

/-- The gateway's callback has read the confirmed order and waits for its row while the order goes into processing. -/
theorem callback_overtaken : ¬ ∀ s : Db, Owned s → ∀ es w, Run (S := platform sampleConfig) (quiet s) es w →
    ∀ f : Failure (platform sampleConfig), .failed f ∈ es → f.op.Absent f.err f.before := by
  intro h
  let s : Db := shopPaid { sampleOrder with status := .confirmed, inventoryState := .committed }
  have hs : Owned s := fun _ _ hr => by cases hr
  let i : PaymentResultInput := gatewaySays 10 100 "SUCCESS" "paid" 2
  obtain ⟨es, w, hrun, hf⟩ := overtaken (S := platform sampleConfig) (s := s) (c := .persistPaymentResultTransaction i)
    (.updateOrderStatus 1 .processing none 3) rfl rfl rfl (e := notFound "Order not found") rfl
  have habsent := (h s hs es w hrun _ hf).1 rfl
  revert habsent
  decide

end Balii
