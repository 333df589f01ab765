import Balii.Payment.Commits
/-!
# Payment.Changes — what one commit makes of one payment, of one refund and of one event

Ten transactions of two services write a payment.  `PaymentChange` lists what each can make of it and under which guard;
what is said of payments later is a case analysis over this list.
-/
namespace Balii

open Rowdb Tx Sql System

/-! ## Payments -/

/-- The columns that say whose payment it is, of how much, and what became of it. -/
structure Payment.SameMoney (p q : Payment) : Prop where
  orderId : q.orderId = p.orderId
  status : q.status = p.status
  amount : q.amount = p.amount
  refundedAmount : q.refundedAmount = p.refundedAmount

/-- **What one transaction can make of one payment.**  Only a pending one is settled or cancelled; an expiry and a refund
look at no status. -/
inductive PaymentChange (op : Op) (k : Uuid) (p : Payment) : Payment → Prop
  | noted {q} (h : p.SameMoney q) : PaymentChange op k p q
  | cancelled (h : (∃ payment status now, op = .updatePaymentStatus p.orderId payment status now) ∨
        ∃ status note now, op = .updateOrderStatus p.orderId status note now) (hp : p.status = .pending) :
      PaymentChange op k p p.cancel
  | settled {i} (h : op = .persistPaymentResult i) (hk : i.paymentId = k) (ho : p.orderId = i.orderId) (hp : p.status = .pending) :
      PaymentChange op k p (i.settle p)
  | expired {i} (h : op = .markExpired i) (hk : i.paymentId = k) : PaymentChange op k p p.expire
  | refunded {i total amount} (h : op = .persistRefundResult i) (hk : i.paymentId = k) (hs : i.refundResult = "SUCCESS") :
      PaymentChange op k p (p.refund total amount)

/-- **What one transaction writes into one payment**, column by column. -/
inductive PaymentEdit (op : Op) (k : Uuid) (p : Payment) : Payment → Prop
  | kept : PaymentEdit op k p p
  | cancelled (h : (∃ payment status now, op = .updatePaymentStatus p.orderId payment status now) ∨
        ∃ status note now, op = .updateOrderStatus p.orderId status note now) (hp : p.status = .pending) :
      PaymentEdit op k p p.cancel
  | settled {i} (h : op = .persistPaymentResult i) (hk : i.paymentId = k) (ho : p.orderId = i.orderId) (hp : p.status = .pending) :
      PaymentEdit op k p (i.settle p)
  | expired {i} (h : op = .markExpired i) (hk : i.paymentId = k) : PaymentEdit op k p p.expire
  | refunded {i total amount} (h : op = .persistRefundResult i) (hk : i.paymentId = k) (hs : i.refundResult = "SUCCESS") :
      PaymentEdit op k p (p.refund total amount)
  | linked {url} (h : op = .setPaymentUrl k url) : PaymentEdit op k p { p with paymentUrl := url }
  | renewed {ref url expiresAt simulated} (h : op = .renewPayment k ref url expiresAt simulated) (hp : p.status = .pending) :
      PaymentEdit op k p (p.renew ref url expiresAt simulated)
  | reviewed {reason} (h : op = .markReviewRequired k reason) : PaymentEdit op k p { p with failureReason := some reason }
  | attempted {metadata} (h : op = .increaseReconciliationAttempt k) : PaymentEdit op k p { p with metadata := some metadata }

theorem PaymentEdit.change {op : Op} {k : Uuid} {p q : Payment} (h : PaymentEdit op k p q) : PaymentChange op k p q := by
  cases h with
  | cancelled h hp => exact .cancelled h hp
  | settled h hk ho hp => exact .settled h hk ho hp
  | expired h hk => exact .expired h hk
  | refunded h hk hs => exact .refunded h hk hs
  | _ => exact .noted ⟨rfl, rfl, rfl, rfl⟩

/-- No payment becomes pending. -/
theorem PaymentEdit.pending {op : Op} {k : Uuid} {p q : Payment} (h : PaymentEdit op k p q) (hq : q.status = .pending) :
    p.status = .pending := by
  cases h with
  | cancelled _ hp => exact hp
  | settled _ _ _ hp => exact hp
  | expired _ _ => cases hq
  | refunded _ _ _ =>
    unfold Payment.refund at hq
    dsimp only at hq
    split at hq <;> cases hq
  | _ => exact hq

theorem PaymentEdit.origin {op : Op} {k : Uuid} {p q : Payment} (h : PaymentEdit op k p q) :
    q.method = p.method ∧ q.orderId = p.orderId ∧ q.createdAt = p.createdAt := by
  cases h <;> exact ⟨rfl, rfl, rfl⟩

theorem PaymentChange.orderId {op : Op} {k : Uuid} {p q : Payment} (h : PaymentChange op k p q) : q.orderId = p.orderId := by
  cases h with
  | noted h => exact h.orderId
  | _ => rfl

theorem PaymentChange.amount {op : Op} {k : Uuid} {p q : Payment} (h : PaymentChange op k p q) : q.amount = p.amount := by
  cases h with
  | noted h => exact h.amount
  | _ => rfl

section Rows
variable {s : Db}

/-- What the change of an order's status makes of a payment. -/
theorem payment_of_moved {R : List (LockKey schema) → Db → Db → Prop} {To : OrderStatus → Prop} {b : Db} {id k : Uuid} {order : Order}
    {now : Time} (hm : OrderMoved R To s b id order now) :
    b.find Tab.payments k = s.find Tab.payments k ∨
      ∃ p, s.find Tab.payments k = some p ∧ (p.orderId = id ∧ p.status = .pending) ∧ b.find Tab.payments k = some p.cancel := by
  rcases hm with ⟨_, _, _, hrows⟩ | ⟨status, _, _, _, halong⟩
  · exact .inl (Database.find_of_rows (D := schema) hrows k)
  · by_cases hc : status = .cancelled
    · exact (halong.cancelled hc).2.2.1 k
    · exact .inl (Database.find_of_rows (D := schema) (halong.payments hc) k)

end Rows

section Commits
variable {cfg : Config} {c : Commit cfg} {Inv : Db → Prop} {G : List (LockKey schema) → Db → Db → Prop}

/-- A new payment. -/
def PaymentNew (op : Op) (k : Uuid) (p : Payment) : Prop := ∃ n, op = .createPaymentRow n ∧ n.id = k ∧ p = n.row ∧ 0 ≤ p.amount

/-- An update by the payment's id. -/
theorem edited_step {op : Op} {k : Uuid} (s : Db) (id : Uuid) (f : Payment → Payment)
    (hf : k = id → ∀ p, s.find Tab.payments k = some p → PaymentEdit op k p (f p)) :
    RowStep (PaymentNew op k) (PaymentEdit op k) (s.find Tab.payments k)
      ((written [.update (D := schema) Tab.payments id f] s).find Tab.payments k) := by
  refine RowStep.update (p := k = id) (f := f) (fun p => .kept) hf ?_
  rw [written_cons, written_nil, find_update]

/-- **Every payment stays, and is written to as its transaction may**; a new one is pending. -/
theorem payment_edit_step (hf : c.Faithful Inv G) (k : Uuid) :
    RowStep (PaymentNew c.op k) (PaymentEdit c.op k) (c.before.find Tab.payments k) (c.after.find Tab.payments k) := by
  have hkept : ∀ p, PaymentEdit c.op k p p := fun p => .kept
  have hsame : Tab.payments ∉ c.op.tables → RowStep (PaymentNew c.op k) (PaymentEdit c.op k) (c.before.find Tab.payments k)
      (c.after.find Tab.payments k) := fun ht => .of_eq hkept (find_of_notMem hf ht k)
  obtain ⟨call, op, s, o⟩ := c
  show RowStep (PaymentNew op k) (PaymentEdit op k) (s.find Tab.payments k) ((written o.writes s).find Tab.payments k)
  have hmoved : ∀ {R : List (LockKey schema) → Db → Db → Prop} {To : OrderStatus → Prop} {id : Uuid} {order : Order} {now : Time},
      OrderMoved R To s (written o.writes s) id order now →
      (∀ p : Payment, p.orderId = id → p.status = .pending → PaymentEdit op k p p.cancel) →
      RowStep (PaymentNew op k) (PaymentEdit op k) (s.find Tab.payments k) ((written o.writes s).find Tab.payments k) := by
    intro R To id order now hm hcancel
    rcases payment_of_moved (k := k) hm with heq | ⟨p, hp, ⟨hid, hpend⟩, hb⟩
    · exact .of_eq hkept heq
    · rw [hp, hb]
      exact hcancel p hid hpend
  cases op with
  | updatePaymentStatus id payment status now =>
    obtain ⟨_, _, _, hm, _⟩ := exec_updatePaymentStatus hf
    exact hmoved hm fun p hid hpend => .cancelled (.inl ⟨_, _, _, by rw [hid]⟩) hpend
  | updateOrderStatus id status note now =>
    obtain ⟨_, _, _, hm⟩ := exec_updateOrderStatus hf
    exact hmoved hm fun p hid hpend => .cancelled (.inr ⟨_, _, _, by rw [hid]⟩) hpend
  | createPaymentRow n =>
    obtain ⟨hnone, hpos, hw⟩ := exec_createPayment hf
    refine RowStep.insert hkept (p := k = n.id) (r := n.row) (fun hk => ⟨hk ▸ hnone, n, rfl, hk.symm, rfl, hpos⟩) ?_
    rw [hw, written_cons, written_nil, find_insert]
  | setPaymentUrl id url =>
    rw [show o.writes = _ from congrArg Outcome.writes hf]
    exact edited_step s id _ fun hk p _ => .linked (by rw [hk])
  | renewPayment id ref url expiresAt simulated =>
    rcases exec_renewPayment hf with hw | ⟨p, hp, hpend, hw⟩
    · rw [hw]
      exact .refl hkept _
    · rw [hw]
      refine edited_step s id _ fun hk q hq => ?_
      subst hk
      cases Option.some.inj (hp.symm.trans hq)
      exact .renewed rfl hpend
  | persistPaymentResult i =>
    obtain ⟨_, payment, vs, _, hpay, hid, _, htab, hcases⟩ := exec_persistPaymentResult hf
    have hvs : (written vs s).find Tab.payments k = s.find Tab.payments k := by
      refine find_written (D := schema) (t := Tab.payments) s k fun v hv ht => ?_
      rw [htab v hv] at ht
      cases ht
    rcases hcases with ⟨_, hw, _⟩ | ⟨hpend, _, _, hw, _⟩
    · rw [hw, hvs]
      exact .refl hkept _
    · refine RowStep.update hkept (p := k = i.paymentId) (f := i.settle) (fun hk p hp => ?_) ?_
      · subst hk
        cases Option.some.inj (hp.symm.trans hpay)
        exact .settled rfl rfl hid hpend
      · rw [hw]
        simp only [written_append, written_cons, written_nil]
        rw [find_apply _ _ (by simp [Write.tab?]), find_update, hvs]
  | markReviewRequired id reason =>
    rw [show o.writes = _ from congrArg Outcome.writes hf]
    exact edited_step s id _ fun hk p _ => .reviewed (by rw [hk])
  | increaseReconciliationAttempt id =>
    obtain ⟨_, hw⟩ := exec_increaseAttempt hf
    rw [hw]
    exact edited_step s id _ fun hk p _ => .attempted (by rw [hk])
  | markExpired i =>
    refine RowStep.update hkept (p := k = i.paymentId) (f := Payment.expire) (fun hk p _ => .expired rfl hk.symm) ?_
    rw [(exec_markExpired hf).2, written_cons, written_cons, written_nil, find_apply _ _ (by simp [Write.tab?]), find_update]
  | persistRefundResult i =>
    obtain ⟨refund, payment, hr⟩ := exec_persistRefundResult hf
    rcases hr.payments with ⟨hs, total, _, ⟨_, _, _, _, hrows⟩ | ⟨hrows, _⟩⟩ | ⟨_, hrows⟩
    · exact RowStep.update hkept (fun hk p _ => .refunded rfl hk.symm hs) (Database.find_of_modify (D := schema) hrows k)
    · exact .of_eq hkept (Database.find_of_rows (D := schema) hrows k)
    · exact .of_eq hkept (Database.find_of_rows (D := schema) hrows k)
  | _ => exact hsame (by simp [Op.tables])

/-- **Every payment stays, and changes as its transaction may**; a new one is pending. -/
theorem payment_step (hf : c.Faithful Inv G) (k : Uuid) :
    RowStep (PaymentNew c.op k) (PaymentChange c.op k) (c.before.find Tab.payments k) (c.after.find Tab.payments k) :=
  (payment_edit_step hf k).mono fun _ _ h => h.change

theorem payment_after (hf : c.Faithful Inv G) {k : Uuid} {p : Payment} (hp : c.before.find Tab.payments k = some p) :
    ∃ q, c.after.find Tab.payments k = some q ∧ PaymentChange c.op k p q := by
  have hstep := payment_step hf k
  rw [hp] at hstep
  exact hstep.after

theorem payment_before (hf : c.Faithful Inv G) {k : Uuid} {q : Payment} (hq : c.after.find Tab.payments k = some q) :
    (∃ p, c.before.find Tab.payments k = some p ∧ PaymentChange c.op k p q) ∨
      (c.before.find Tab.payments k = none ∧ PaymentNew c.op k q) := by
  have hstep := payment_step hf k
  rw [hq] at hstep
  exact hstep.before

theorem payment_edited (hf : c.Faithful Inv G) {k : Uuid} {p : Payment} (hp : c.before.find Tab.payments k = some p) :
    ∃ q, c.after.find Tab.payments k = some q ∧ PaymentEdit c.op k p q := by
  have hstep := payment_edit_step hf k
  rw [hp] at hstep
  exact hstep.after

theorem payment_edit_before (hf : c.Faithful Inv G) {k : Uuid} {q : Payment} (hq : c.after.find Tab.payments k = some q) :
    (∃ p, c.before.find Tab.payments k = some p ∧ PaymentEdit c.op k p q) ∨
      (c.before.find Tab.payments k = none ∧ PaymentNew c.op k q) := by
  have hstep := payment_edit_step hf k
  rw [hq] at hstep
  exact hstep.before

/-- A result that finds its payment pending settles or fails it. -/
theorem settle_after (hf : c.Faithful Inv G) {i : PaymentResultInput} (hop : c.op = .persistPaymentResult i) {p : Payment}
    (hp : c.before.find Tab.payments i.paymentId = some p) (hpend : p.status = .pending) :
    c.after.find Tab.payments i.paymentId = some (i.settle p) := by
  obtain ⟨call, op, s, o⟩ := c
  dsimp only at hop
  subst hop
  obtain ⟨_, payment, vs, _, hpay, _, _, htab, hcases⟩ := exec_persistPaymentResult hf
  cases Option.some.inj (hp.symm.trans hpay)
  rcases hcases with ⟨hnot, _⟩ | ⟨_, _, _, hw, _⟩
  · exact absurd hpend hnot
  · have hvs : (written vs s).find Tab.payments i.paymentId = s.find Tab.payments i.paymentId := by
      refine find_written (D := schema) (t := Tab.payments) s i.paymentId fun v hv ht => ?_
      rw [htab v hv] at ht
      cases ht
    change (written o.writes s).find Tab.payments i.paymentId = _
    rw [hw]
    simp only [written_append, written_cons, written_nil]
    rw [find_apply _ _ (by simp [Write.tab?]), find_update, if_pos rfl, hvs]
    exact congrArg (Option.map i.settle) hp

theorem expire_after (hf : c.Faithful Inv G) {i : ExpiredInput} (hop : c.op = .markExpired i) {p : Payment}
    (hp : c.before.find Tab.payments i.paymentId = some p) : c.after.find Tab.payments i.paymentId = some p.expire := by
  obtain ⟨call, op, s, o⟩ := c
  dsimp only at hop
  subst hop
  change (written o.writes s).find Tab.payments i.paymentId = _
  rw [(exec_markExpired hf).2, written_cons, written_cons, written_nil, find_apply _ _ (by simp [Write.tab?]), find_update,
    if_pos rfl]
  exact congrArg (Option.map Payment.expire) hp

end Commits

/-! ## Refunds -/

/-- **What one transaction can make of one refund.**  A result and a rejection look at no status. -/
inductive RefundChange (op : Op) (k : Uuid) (r : Refund) : Refund → Prop
  | kept : RefundChange op k r r
  | requested {ref} (h : op = .requestGatewayRefund k ref) :
      RefundChange op k r { r with providerRefundId := r.providerRefundId.or (some ref), gatewayStatus := some "REQUESTED" }
  | retried (h : op = .increaseRefundRetryCount k) : RefundChange op k r { r with retryCount := r.retryCount + 1 }
  | rejected {i} (h : op = .rejectRefund k i) : RefundChange op k r (r.reject i)
  | heard {i} (h : op = .persistRefundResult i) (hk : i.refundId = k) : RefundChange op k r (i.outcome r)

/-- A new refund: opened, or put down as rejected. -/
def RefundNew (op : Op) (k : Uuid) (r : Refund) : Prop :=
  0 < r.amount ∧ ((∃ n, op = .createRefundRecord n ∧ n.id = k ∧ r = n.row) ∨
    ∃ i, op = .insertRejectedRefund i ∧ i.newId = k ∧ r = i.row)

/-- The columns of a refund that never change. -/
structure Refund.SameClaim (r q : Refund) : Prop where
  paymentId : q.paymentId = r.paymentId
  amount : q.amount = r.amount
  idempotencyKey : q.idempotencyKey = r.idempotencyKey

theorem RefundChange.sameClaim {op : Op} {k : Uuid} {r q : Refund} (h : RefundChange op k r q) : r.SameClaim q := by
  cases h with
  | heard h hk =>
    unfold RefundResultInput.outcome
    split <;> exact ⟨rfl, rfl, rfl⟩
  | _ => exact ⟨rfl, rfl, rfl⟩

section Commits
variable {cfg : Config} {c : Commit cfg} {Inv : Db → Prop} {G : List (LockKey schema) → Db → Db → Prop}

theorem changed_step {op : Op} {k : Uuid} (s : Db) (id : Uuid) (f : Refund → Refund)
    (hf : k = id → ∀ r : Refund, RefundChange op k r (f r)) :
    RowStep (RefundNew op k) (RefundChange op k) (s.find Tab.refunds k)
      ((written [.update (D := schema) Tab.refunds id f] s).find Tab.refunds k) := by
  refine RowStep.update (p := k = id) (f := f) (fun r => .kept) (fun hk r _ => hf hk r) ?_
  rw [written_cons, written_nil, find_update]

/-- **Every refund stays, and changes as its transaction may**; a new one is pending or failed. -/
theorem refund_step (hf : c.Faithful Inv G) (k : Uuid) :
    RowStep (RefundNew c.op k) (RefundChange c.op k) (c.before.find Tab.refunds k) (c.after.find Tab.refunds k) := by
  have hsame : Tab.refunds ∉ c.op.tables → RowStep (RefundNew c.op k) (RefundChange c.op k) (c.before.find Tab.refunds k)
      (c.after.find Tab.refunds k) := fun ht => .of_eq (fun r => .kept) (find_of_notMem hf ht k)
  obtain ⟨call, op, s, o⟩ := c
  show RowStep (RefundNew op k) (RefundChange op k) (s.find Tab.refunds k) ((written o.writes s).find Tab.refunds k)
  cases op with
  | createRefundRecord n =>
    obtain ⟨_, _, _, hw | ⟨hopen, hw⟩⟩ := exec_createRefundRecord hf
    · rw [hw]
      exact .refl (fun r => .kept) _
    · refine RowStep.insert (fun r => .kept) (p := k = n.id) (r := n.row)
        (fun hk => ⟨hk ▸ hopen.fresh, hopen.positive, .inl ⟨n, rfl, hk.symm, rfl⟩⟩) ?_
      rw [hw, written_cons, written_nil, find_insert]
  | insertRejectedRefund i =>
    obtain ⟨hpos, hnone, _, hw⟩ := exec_insertRefund hf
    refine RowStep.insert (fun r => .kept) (p := k = i.newId) (r := i.row)
      (fun hk => ⟨hk ▸ hnone, hpos, .inr ⟨i, rfl, hk.symm, rfl⟩⟩) ?_
    rw [hw, List.nil_append, written_cons, written_nil, find_insert]
  | rejectRefund id i =>
    rw [show o.writes = _ from congrArg Outcome.writes hf]
    exact changed_step s id _ fun hk r => .rejected (by rw [hk])
  | requestGatewayRefund id ref =>
    rcases exec_requestGatewayRefund hf with hw | hw
    · rw [hw]
      exact .refl (fun r => .kept) _
    · rw [hw]
      exact changed_step s id _ fun hk r => .requested (by rw [hk])
  | increaseRefundRetryCount id =>
    rw [exec_increaseRetry hf]
    exact changed_step s id _ fun hk r => .retried (by rw [hk])
  | persistRefundResult i =>
    obtain ⟨refund, payment, hr⟩ := exec_persistRefundResult hf
    exact RowStep.update (fun r => .kept) (fun hk r _ => .heard rfl hk.symm)
      (Database.find_of_modify (D := schema) hr.refunds k)
  | _ => exact hsame (by simp [Op.tables, cancellationTables])

theorem refund_after (hf : c.Faithful Inv G) {k : Uuid} {r : Refund} (hr : c.before.find Tab.refunds k = some r) :
    ∃ q, c.after.find Tab.refunds k = some q ∧ RefundChange c.op k r q := by
  have hstep := refund_step hf k
  rw [hr] at hstep
  exact hstep.after

theorem refund_before (hf : c.Faithful Inv G) {k : Uuid} {q : Refund} (hq : c.after.find Tab.refunds k = some q) :
    (∃ r, c.before.find Tab.refunds k = some r ∧ RefundChange c.op k r q) ∨
      (c.before.find Tab.refunds k = none ∧ RefundNew c.op k q) := by
  have hstep := refund_step hf k
  rw [hq] at hstep
  exact hstep.before

end Commits

/-! ## Events -/

/-- A new event of the outbox. -/
inductive EventNew (op : Op) (k : Uuid) : OutboxEvent → Prop
  | settled {i p} (h : op = .persistPaymentResult i) (hk : i.outboxEventId = k) : EventNew op k (i.event p)
  | expired {i} (h : op = .markExpired i) (hk : i.outboxEventId = k) : EventNew op k i.event
  | heard {i payload} (h : op = .persistRefundResult i) (hk : i.outboxEventId = k) :
      EventNew op k (i.event (if i.refundResult = "SUCCESS" then "payment.refund.completed" else "payment.refund.failed") payload)
  | noticed {n id now} (h : op = .insertNotice k n now) (hn : n.aggregateId = some id) : EventNew op k (n.event id now)

section Commits
variable {cfg : Config} {c : Commit cfg} {Inv : Db → Prop} {G : List (LockKey schema) → Db → Db → Prop}

/-- **An event stays as it is**, and every new one is of a transaction that announces it. -/
theorem event_step (hf : c.Faithful Inv G) (k : Uuid) :
    RowStep (EventNew c.op k) (fun e e' => e' = e) (c.before.find Tab.outbox k) (c.after.find Tab.outbox k) := by
  have hsame : Tab.outbox ∉ c.op.tables → RowStep (EventNew c.op k) (fun e e' => e' = e) (c.before.find Tab.outbox k)
      (c.after.find Tab.outbox k) := fun ht => .of_eq (fun _ => rfl) (find_of_notMem hf ht k)
  obtain ⟨call, op, s, o⟩ := c
  show RowStep (EventNew op k) (fun e e' => e' = e) (s.find Tab.outbox k) ((written o.writes s).find Tab.outbox k)
  cases op with
  | persistPaymentResult i =>
    obtain ⟨_, payment, vs, _, _, _, _, htab, hcases⟩ := exec_persistPaymentResult hf
    have hvs : (written vs s).find Tab.outbox k = s.find Tab.outbox k := by
      refine find_written (D := schema) (t := Tab.outbox) s k fun v hv ht => ?_
      rw [htab v hv] at ht
      cases ht
    rcases hcases with ⟨_, hw, _⟩ | ⟨_, _, hnone, hw, _⟩
    · rw [hw, hvs]
      exact .of_eq (fun _ => rfl) rfl
    · refine RowStep.insert (fun _ => rfl) (p := k = i.outboxEventId) (r := i.event payment)
        (fun hk => ⟨hk ▸ hnone, .settled rfl hk.symm⟩) ?_
      rw [hw]
      simp only [written_append, written_cons, written_nil]
      rw [find_insert, find_apply _ _ (by simp [Write.tab?]), hvs]
  | markExpired i =>
    obtain ⟨hnone, hw⟩ := exec_markExpired hf
    refine RowStep.insert (fun _ => rfl) (p := k = i.outboxEventId) (r := i.event) (fun hk => ⟨hk ▸ hnone, .expired rfl hk.symm⟩) ?_
    rw [hw, written_cons, written_cons, written_nil, find_insert, find_apply _ _ (by simp [Write.tab?])]
  | persistRefundResult i =>
    obtain ⟨refund, payment, hr⟩ := exec_persistRefundResult hf
    obtain ⟨hnone, payload, hrows⟩ := hr.event
    refine RowStep.insert (fun _ => rfl) (p := k = i.outboxEventId) (fun hk => ⟨hk ▸ hnone, @EventNew.heard _ _ i payload rfl hk.symm⟩) ?_
    unfold Database.find
    rw [hrows, AList.lookup_insertNew]
  | insertNotice id n now =>
    obtain ⟨aggregateId, ha, hnone, hw⟩ := exec_insertNotice hf
    refine RowStep.insert (fun _ => rfl) (p := k = id) (r := n.event aggregateId now)
      (fun hk => ⟨hk ▸ hnone, .noticed (by rw [hk]) ha⟩) ?_
    rw [hw, written_cons, written_nil, find_insert]
  | _ => exact hsame (by simp [Op.tables, cancellationTables])

theorem event_after (hf : c.Faithful Inv G) {k : Uuid} {e : OutboxEvent} (he : c.before.find Tab.outbox k = some e) :
    c.after.find Tab.outbox k = some e := by
  have hstep := event_step hf k
  rw [he] at hstep
  obtain ⟨e', he', rfl⟩ := hstep.after
  exact he'

theorem event_before (hf : c.Faithful Inv G) {k : Uuid} {e : OutboxEvent} (he : c.after.find Tab.outbox k = some e) :
    c.before.find Tab.outbox k = some e ∨ (c.before.find Tab.outbox k = none ∧ EventNew c.op k e) := by
  have hstep := event_step hf k
  rw [he] at hstep
  rcases hstep.before with ⟨e', he', rfl⟩ | hnew
  · exact .inl he'
  · exact .inr hnew

end Commits

end Balii
