import Balii.Order.Changes
import Balii.Payment.Changes
/-!
# Payment.Settlement — when the money came in

A payment is settled once its money was received, and stays so through refunds.  Three things are asked of settled
payments: that they stay settled, that an order does not get two of them, and that a paid one never belongs to a cancelled
order.  The order's lock gives the last; nothing guards the first against the timeout, nor the second against a customer
who pays at two providers.
-/
namespace Balii

open Rowdb Tx Sql System

variable {cfg : Config}

/-! ## A settled payment stays settled -/

/-- Every settled payment of `a` is settled in `b`. -/
def StaysSettled (a b : Db) : Prop :=
  ∀ k p, a.find Tab.payments k = some p → p.status.settled = true →
    ∃ q, b.find Tab.payments k = some q ∧ q.status.settled = true

theorem staysSettled_trans (a b c : Db) (h : StaysSettled a b) (h' : StaysSettled b c) : StaysSettled a c := by
  intro k p hp hs
  obtain ⟨q, hq, hs'⟩ := h k p hp hs
  exact h' k q hq hs'

/-- The timeout, if that is what commits, finds its payment unsettled. -/
def TimelyExpiry (c : Commit cfg) : Prop :=
  ∀ i, c.op = .markExpired i → ∀ p, c.before.find Tab.payments i.paymentId = some p → p.status.settled = false

section
variable {c : Commit cfg} {Inv : Db → Prop} {G : List (LockKey schema) → Db → Db → Prop}

theorem refund_settled (total amount : ℤ) (p : Payment) : (p.refund total amount).status.settled = true := by
  unfold Payment.refund
  dsimp only
  split <;> rfl

theorem PaymentChange.settled_or {op : Op} {k : Uuid} {p q : Payment} (h : PaymentChange op k p q)
    (hs : p.status.settled = true) : q.status.settled = true ∨ ∃ i, op = .markExpired i ∧ i.paymentId = k := by
  cases h with
  | noted h => exact .inl (by rw [h.status, hs])
  | cancelled _ hp => rw [hp] at hs; cases hs
  | settled _ _ _ hp => rw [hp] at hs; cases hs
  | expired h hk => exact .inr ⟨_, h, hk⟩
  | refunded _ _ _ => exact .inl (refund_settled _ _ _)

theorem staysSettled_commit (hf : c.Faithful Inv G) (hc : TimelyExpiry c) : StaysSettled c.before c.after := by
  intro k p hp hs
  obtain ⟨q, hq, hchange⟩ := payment_after hf hp
  rcases hchange.settled_or hs with hs' | ⟨i, hop, rfl⟩
  · exact ⟨q, hq, hs'⟩
  · rw [hc i hop p hp] at hs
    cases hs

theorem not_staysSettled (hf : c.Faithful Inv G) (hc : ¬ TimelyExpiry c) : ¬ StaysSettled c.before c.after := by
  unfold TimelyExpiry at hc
  push Not at hc
  obtain ⟨i, hop, p, hp, hs⟩ := hc
  rw [ne_eq, Bool.not_eq_false] at hs
  intro hstays
  obtain ⟨q, hq, hs'⟩ := hstays _ p hp hs
  cases Option.some.inj ((expire_after hf hop hp).symm.trans hq)
  cases hs'

end

theorem keeps_trivial (Permitted : Op → Prop) (Cond : Commit cfg → Prop) :
    Keeps (S := platform cfg) (fun _ => True) (fun _ _ _ => True) Permitted Cond :=
  fun _ _ _ _ _ => ⟨trivial, trivial⟩

/-- **Settled payments stay settled exactly as long as no timeout hits one**: over every run, whatever interleaves. -/
theorem settled_stays_iff (cfg : Config) (e : Execution (platform cfg) (fun _ => True) fun _ => True) :
    (∀ c : Commit cfg, .commit c ∈ e.events → TimelyExpiry c) ↔ e.history.Pairwise StaysSettled := by
  rw [e.pairwise_history staysSettled_trans]
  exact e.iff_of_spoils (keeps_trivial _ _) (fun _ _ => trivial) (fun c _ _ hf hc => staysSettled_commit hf hc)
    fun c _ _ hf hc => not_staysSettled hf hc

/-! ### A timeout after the callback -/

def sampleItem : OrderItem where
  id := 1
  variantId := 1
  productName := "Áo thun"
  unitPrice := 10000000
  quantity := 1
  subtotal := 10000000
  campaignId := none
  campaignDiscountType := none

/-- An order of 100,000 dong, just placed. -/
def sampleOrder : Order where
  userId := 1
  orderCode := "BL1"
  checkoutIdempotencyKey := 1
  status := .pending
  inventoryState := .reserved
  voucherId := none
  subtotal := 10000000
  discountAmount := 0
  shippingFee := 0
  totalAmount := 10000000
  items := [sampleItem]
  createdAt := 0
  updatedAt := 0

/-- A database with the order `1` and its variant. -/
def shopWith (order : Order) : Db where
  rows t :=
    match t with
    | .orders => (∅ : Table Uuid Order).insert 1 order
    | .variants => (∅ : Table Uuid Variant).insert 1 { stockQuantity := 5, reservedQuantity := 1, isActive := true }
    | _ => ∅
  log := []

/-- The customer asks for a payment of the order. -/
def askForPayment (paymentId : Uuid) (method : PaymentMethod) (now : Time) : Call :=
  .createPayment {
    paymentId, paymentCode := "PAY" ++ toString paymentId, userId := 1, orderId := 1, method, returnUrl := none
    clientIp := none, createDate := "20260101000000", now }

/-- The workflow hands on what the gateway said of a payment. -/
def gatewaySays (paymentId outboxEventId : Uuid) (paymentResult rawPayload : String) (now : Time) : PaymentResultInput where
  paymentId := paymentId
  orderId := 1
  rawPayload := rawPayload
  providerTxnId := some "TX"
  paymentResult := paymentResult
  outboxEventId := outboxEventId
  now := now

/-- `createPayment` as session `i`, with its two calls to the order service. -/
def paymentAsked (i : ℕ) (paymentId : Uuid) (method : PaymentMethod) (now : Time) : List (Cmd (platform sampleConfig)) :=
  .arrive (askForPayment paymentId method now) :: (steps i 1 ++ steps (i + 1) 2 ++ steps i 4 ++ steps (i + 2) 3 ++ steps i 3)

/-- `persistPaymentResultTransaction` as session `i`, with its call to the order service. -/
def paymentReported (i : ℕ) (input : PaymentResultInput) : List (Cmd (platform sampleConfig)) :=
  .arrive (.persistPaymentResultTransaction input) :: (steps i 2 ++ steps (i + 1) 3 ++ steps i 2)

/-- The customer pays, the callback is recorded, and then the timer of the workflow fires. -/
def lateTimeout : Execution (platform sampleConfig) (fun _ => True) fun _ => True :=
  .ofSchedule (shopWith sampleOrder)
    (paymentAsked 0 10 .vnpay 1 ++ paymentReported 3 (gatewaySays 10 100 "SUCCESS" "paid" 2) ++
      (.arrive (Call.markExpiredTransaction { paymentId := 10, orderId := 1, outboxEventId := 101, now := 3 }) :: steps 5 1))
    trivial fun _ _ => trivial

/-- Whether the commit unsettles a payment. -/
def unsettles (k : Uuid) (c : Commit cfg) : Bool :=
  ((c.before.find Tab.payments k).any fun p => p.status.settled) && (c.after.find Tab.payments k).all fun p => !p.status.settled

theorem lateTimeout_unsettles : ¬ lateTimeout.history.Pairwise StaysSettled := by
  rw [lateTimeout.pairwise_history staysSettled_trans]
  intro h
  obtain ⟨c, hc, hp⟩ := exists_commit (show lateTimeout.events.any (Event.commits (unsettles 10)) = true by decide +kernel)
  unfold unsettles at hp
  rw [Bool.and_eq_true, Option.any_eq_true] at hp
  obtain ⟨⟨p, hb, hs⟩, ha⟩ := hp
  obtain ⟨q, hq, hs'⟩ := h c hc 10 p hb hs
  rw [hq, Option.all_some, hs'] at ha
  cases ha

/-! ## One settled payment for each order -/

/-- No order has two settled payments. -/
def OneSettled (s : Db) : Prop :=
  ∀ k k' p p', s.find Tab.payments k = some p → s.find Tab.payments k' = some p' → p.status.settled = true →
    p'.status.settled = true → p.orderId = p'.orderId → k = k'

/-- A gateway's success, if that is what commits on a pending payment, finds no settled payment of the same order. -/
def FirstToSettle (c : Commit cfg) : Prop :=
  ∀ i, c.op = .persistPaymentResult i → i.finalStatus = .paid →
    ∀ p, c.before.find Tab.payments i.paymentId = some p → p.status = .pending →
      ∀ k p', c.before.find Tab.payments k = some p' → p'.status.settled = true → p'.orderId ≠ p.orderId

/-- A refund's success, if that is what commits, finds its payment settled. -/
def RefundsSettled (c : Commit cfg) : Prop :=
  ∀ i, c.op = .persistRefundResult i → i.refundResult = "SUCCESS" →
    ∀ p, c.before.find Tab.payments i.paymentId = some p → p.status.settled = true

/-- Every transaction but the result of a refund. -/
def NoRefundResult (op : Op) : Prop := ∀ i, op ≠ .persistRefundResult i

section
variable {c : Commit cfg} {Inv : Db → Prop} {G : List (LockKey schema) → Db → Db → Prop}

/-- A settled payment was settled before, or is settled by this very commit. -/
theorem settled_before (hf : c.Faithful Inv G) (hr : RefundsSettled c) {k : Uuid} {q : Payment}
    (hq : c.after.find Tab.payments k = some q) (hs : q.status.settled = true) :
    ∃ p, c.before.find Tab.payments k = some p ∧ p.orderId = q.orderId ∧ (p.status.settled = true ∨
      ∃ i, c.op = .persistPaymentResult i ∧ i.paymentId = k ∧ i.finalStatus = .paid ∧ p.status = .pending) := by
  rcases payment_before hf hq with ⟨p, hp, hchange⟩ | ⟨_, n, _, _, rfl, _⟩
  · refine ⟨p, hp, hchange.orderId.symm, ?_⟩
    cases hchange with
    | noted h => exact .inl (by rwa [← h.status])
    | cancelled _ hp => cases hs
    | @settled i hop hk _ hpend =>
      refine .inr ⟨i, hop, hk, ?_, hpend⟩
      change i.finalStatus.settled = true at hs
      unfold PaymentResultInput.finalStatus at hs ⊢
      split at hs
      · rename_i h
        exact if_pos h
      · cases hs
    | expired _ _ => cases hs
    | refunded hop hk hres => exact .inl (hr _ hop hres p (hk ▸ hp))
  · cases hs

theorem oneSettled_commit (h : OneSettled c.before) (hf : c.Faithful Inv G) (hr : RefundsSettled c) (hc : FirstToSettle c) :
    OneSettled c.after := by
  intro k k' q q' hq hq' hs hs' horder
  obtain ⟨p, hp, hpo, hcase⟩ := settled_before hf hr hq hs
  obtain ⟨p', hp', hpo', hcase'⟩ := settled_before hf hr hq' hs'
  have hsame : p.orderId = p'.orderId := by rw [hpo, hpo', horder]
  rcases hcase with hset | ⟨i, hop, hk, hpaid, hpend⟩
  · rcases hcase' with hset' | ⟨i', hop', rfl, hpaid', hpend'⟩
    · exact h k k' p p' hp hp' hset hset' hsame
    · exact absurd hsame (hc i' hop' hpaid' p' hp' hpend' k p hp hset)
  · subst hk
    rcases hcase' with hset' | ⟨i', hop', rfl, _, _⟩
    · exact absurd hsame.symm (hc i hop hpaid p hp hpend k' p' hp' hset')
    · rw [hop] at hop'
      cases hop'
      rfl

theorem not_oneSettled (hf : c.Faithful Inv G) (hc : ¬ FirstToSettle c) : ¬ OneSettled c.after := by
  unfold FirstToSettle at hc
  push Not at hc
  obtain ⟨i, hop, hpaid, p, hp, hpend, k, p', hp', hset, horder⟩ := hc
  intro hone
  have hne : k ≠ i.paymentId := by
    rintro rfl
    cases Option.some.inj (hp.symm.trans hp')
    rw [hpend] at hset
    cases hset
  obtain ⟨q', hq', hchange⟩ := payment_after hf hp'
  have hset' : q'.status.settled = true := by
    rcases hchange.settled_or hset with hs | ⟨j, hop', _⟩
    · exact hs
    · rw [hop] at hop'
      cases hop'
  refine hne (hone k i.paymentId q' (i.settle p) hq' (settle_after hf hop hp hpend) hset' ?_ ?_)
  · change i.finalStatus.settled = true
    rw [hpaid]
    rfl
  · rw [hchange.orderId, horder]
    rfl

end

/-- **An order gets a second settled payment exactly when a gateway's success finds one settled already**: over every run
without refund results, and with them as long as they are about settled payments. -/
theorem one_settled_payment (cfg : Config) :
    (∀ e : Execution (platform cfg) OneSettled NoRefundResult,
      (∀ c : Commit cfg, .commit c ∈ e.events → FirstToSettle c) ↔ ∀ s ∈ e.history, OneSettled s) ∧
    ∀ e : Execution (platform cfg) OneSettled fun _ => True,
      (∀ c : Commit cfg, .commit c ∈ e.events → FirstToSettle c ∧ RefundsSettled c) → ∀ s ∈ e.history, OneSettled s := by
  constructor
  · intro e
    have hk : Keeps (S := platform cfg) OneSettled (fun _ _ _ => True) NoRefundResult FirstToSettle := fun c hp h hf hc =>
      ⟨oneSettled_commit h hf (fun i hop => absurd hop (hp i)) hc, trivial⟩
    exact e.iff_history hk (fun _ h => h) (fun _ h => h) fun c _ _ hf hc => not_oneSettled hf hc
  · intro e hc s hs
    have hk : Keeps (S := platform cfg) OneSettled (fun _ _ _ => True) (fun _ => True)
        fun c => FirstToSettle c ∧ RefundsSettled c := fun c _ h hf hc => ⟨oneSettled_commit h hf hc.2 hc.1, trivial⟩
    exact e.invariant hk (fun _ h => h) hc hs

/-- Whether the operation is the result of a refund. -/
def Op.isRefundResult : Op → Bool
  | .persistRefundResult _ => true
  | _ => false

theorem noRefundResult_of {op : Op} (h : (!op.isRefundResult) = true) : NoRefundResult op := by
  rintro i rfl
  cases h

/-- The customer asks for a payment by VNPay and for one by bank transfer, and pays the first. -/
def oneOfTwoPaid : List (Cmd (platform sampleConfig)) :=
  paymentAsked 0 10 .vnpay 1 ++ paymentAsked 3 11 .bankTransfer 2 ++
    paymentReported 6 (gatewaySays 10 100 "SUCCESS" "vnpay" 3)

/-- The customer asks for a payment by VNPay and for one by bank transfer, and pays both. -/
def paidTwice : Execution (platform sampleConfig) OneSettled NoRefundResult :=
  .ofSchedule (shopWith sampleOrder)
    (paymentAsked 0 10 .vnpay 1 ++ paymentAsked 3 11 .bankTransfer 2 ++
      paymentReported 6 (gatewaySays 10 100 "SUCCESS" "vnpay" 3) ++ paymentReported 8 (gatewaySays 11 101 "SUCCESS" "sepay" 4))
    (fun _ _ _ _ h => nomatch h)
    fun c hc => noRefundResult_of
      (forall_commit (S := platform sampleConfig) (p := fun c => !Op.isRefundResult c.op) (by decide +kernel) c hc)

/-- Whether two payments of one order are settled. -/
def settledTogether (k k' : Uuid) (s : Db) : Bool :=
  match s.find Tab.payments k, s.find Tab.payments k' with
  | some p, some p' => p.status.settled && p'.status.settled && p.orderId == p'.orderId
  | _, _ => false

theorem not_oneSettled_of {k k' : Uuid} {s : Db} (hk : k ≠ k') (h : settledTogether k k' s = true) : ¬ OneSettled s := by
  unfold settledTogether at h
  split at h
  · rename_i p p' hp hp'
    rw [Bool.and_eq_true, Bool.and_eq_true, beq_iff_eq] at h
    exact fun hone => hk (hone k k' p p' hp hp' h.1.1 h.1.2 h.2)
  · cases h

theorem paidTwice_settles_two : ¬ ∀ s ∈ paidTwice.history, OneSettled s := by
  intro h
  obtain ⟨s, hs, hp⟩ := List.any_eq_true.1
    (show paidTwice.history.any (settledTogether 10 11) = true by decide +kernel)
  exact not_oneSettled_of (by decide) hp (h s hs)

/-! ## A cancelled order has no paid payment -/

/-- No payment of a cancelled order is paid. -/
def CancelledUnpaid (s : Db) : Prop :=
  ∀ id o, s.find Tab.orders id = some o → o.status = .cancelled →
    ∀ k p, s.find Tab.payments k = some p → p.orderId = id → p.status ≠ .paid

/-- A payment becomes paid only under the lock of its order. -/
def PaidUnderLock (L : List (LockKey schema)) (a b : Db) : Prop :=
  ∀ k q, b.find Tab.payments k = some q → q.status = .paid → LockKey.row (D := schema) Tab.orders q.orderId ∉ L →
    ∃ p, a.find Tab.payments k = some p ∧ p.status = .paid ∧ p.orderId = q.orderId

def NoPayments (s : Db) : Prop := s.rows Tab.payments = ∅

theorem NoPayments.cancelledUnpaid {s : Db} (h : NoPayments s) : CancelledUnpaid s := by
  intro id o _ _ k p hp
  unfold Database.find at hp
  rw [h] at hp
  cases hp

section
variable {c : Commit cfg} {Inv : Db → Prop} {G : List (LockKey schema) → Db → Db → Prop}

/-- A paid payment was paid before, or it is paid now, under the lock of its order, which is not cancelled. -/
theorem paid_before (hf : c.Faithful Inv G) {k : Uuid} {q : Payment} (hq : c.after.find Tab.payments k = some q)
    (hs : q.status = .paid) : (∃ p, c.before.find Tab.payments k = some p ∧ p.status = .paid ∧ p.orderId = q.orderId) ∨
      (LockKey.row (D := schema) Tab.orders q.orderId ∈ c.out.locks ∧
        ∀ o, c.after.find Tab.orders q.orderId = some o → o.status ≠ .cancelled) := by
  rcases payment_before hf hq with ⟨p, hp, hchange⟩ | ⟨_, n, _, _, rfl, _⟩
  · cases hchange with
    | noted h => exact .inl ⟨p, hp, by rw [← h.status, hs], h.orderId.symm⟩
    | cancelled _ _ => cases hs
    | @settled i hop hk horder hpend =>
      right
      change i.finalStatus = .paid at hs
      change LockKey.row (D := schema) Tab.orders p.orderId ∈ c.out.locks ∧ _
      have horders := find_of_notMem hf (t := Tab.orders) (by rw [hop]; simp [Op.tables]) p.orderId
      obtain ⟨call, op, s, o⟩ := c
      dsimp only at hop
      subst hop
      obtain ⟨order, payment, _, ho, hpay, _, hkey, _, hcases⟩ := exec_persistPaymentResult hf
      subst hk
      cases Option.some.inj (hp.symm.trans hpay)
      refine ⟨by rw [horder]; exact hkey, fun o' ho' hc => ?_⟩
      change (written o.writes s).find Tab.orders p.orderId = some o' at ho'
      have hbefore := horders.symm.trans ho'
      rw [horder] at hbefore
      cases Option.some.inj (ho.symm.trans hbefore)
      rcases hcases with ⟨hnot, _⟩ | ⟨_, hallowed, _⟩
      · exact hnot hpend
      · exact hallowed ⟨hs, .inl hc⟩
    | expired _ _ => cases hs
    | refunded _ _ _ =>
      unfold Payment.refund at hs
      dsimp only at hs
      split at hs <;> cases hs
  · cases hs

/-- **Every commit keeps cancelled orders unpaid**: a cancellation looked for money with the order locked, and since then
none can have come in. -/
theorem cancelledUnpaid_commit (h : CancelledUnpaid c.before) (hf : c.Faithful CancelledUnpaid PaidUnderLock) :
    CancelledUnpaid c.after ∧ PaidUnderLock c.out.locks c.before c.after := by
  refine ⟨fun id o' ho' hc k q hq hid hs => ?_, fun k q hq hs hunlocked => ?_⟩
  · subst hid
    rcases paid_before hf hq hs with ⟨p, hp, hpaid, horder⟩ | ⟨_, hopen⟩
    · rcases order_change hf ho' with ⟨o, ho, hchange⟩ | ⟨_, _, _, _, _, rfl⟩
      · cases hchange with
        | kept => exact h _ _ ho hc k p hp horder hpaid
        | moved hnext halong =>
          obtain ⟨_, ⟨L, s₀, hL, ⟨_, hs₀⟩, hseen⟩, _⟩ := halong.cancelled hc
          have hlater := inv_of_others (P := fun s : Db => ∀ k p, s.find Tab.payments k = some p → p.orderId = q.orderId →
              p.status ≠ .paid) (fun K a b hK hg ha k p hp hid hpaid => ?_) hs₀ fun k p hp hid hpaid => ?_
          · exact hlater k p hp horder hpaid
          · obtain ⟨p', hp', hpaid', hid'⟩ := hg k p hp hpaid fun hk => hK _ hk (hid ▸ hL)
            exact ha k p' hp' (hid'.trans hid) hpaid'
          · have := hseen k p hp hid
            rw [hpaid] at this
            cases this
        | refunded _ _ => cases hc
      · cases hc
    · exact hopen o' ho' hc
  · rcases paid_before hf hq hs with hpaid | ⟨hlocked, _⟩
    · exact hpaid
    · exact absurd hlocked hunlocked

end

/-- **No cancelled order owns a paid payment**, in any state of any run, whatever interleaves. -/
theorem cancelled_order_unpaid (cfg : Config) (e : Execution (platform cfg) NoPayments fun _ => True) :
    ∀ s ∈ e.history, ∀ id o, s.find Tab.orders id = some o → o.status = .cancelled →
      ∀ k p, s.find Tab.payments k = some p → p.orderId = id → p.status ≠ .paid := by
  have hk : Keeps (S := platform cfg) CancelledUnpaid PaidUnderLock (fun _ => True) fun _ => True :=
    fun c _ h hf _ => cancelledUnpaid_commit h hf
  exact fun s hs => e.invariant hk (fun _ h => h.cancelledUnpaid) (fun _ _ => trivial) hs

/-- The customer asks for a payment, and the order is cancelled. -/
def cancelledInTime : Execution (platform sampleConfig) NoPayments fun _ => True :=
  .ofSchedule (shopWith sampleOrder)
    (paymentAsked 0 10 .vnpay 1 ++ (.arrive (Call.updateOrderStatus 1 .cancelled none 2) :: steps 3 2)) rfl fun _ _ => trivial

theorem cancelledInTime_unpaid : ∃ p, cancelledInTime.final.db.find Tab.payments 10 = some p ∧ p.status ≠ .paid := by
  have horder : (cancelledInTime.final.db.find Tab.orders 1).any (fun o => o.status == .cancelled) = true := by decide +kernel
  have hpayment : (cancelledInTime.final.db.find Tab.payments 10).any (fun p => p.orderId == 1) = true := by decide +kernel
  obtain ⟨o, ho, hst⟩ := (Option.any_eq_true _ _).1 horder
  obtain ⟨p, hp, hid⟩ := (Option.any_eq_true _ _).1 hpayment
  exact ⟨p, hp, cancelled_order_unpaid sampleConfig cancelledInTime _ cancelledInTime.final_mem_history 1 o ho
    (by simpa using hst) 10 p hp (by simpa using hid)⟩

end Balii
