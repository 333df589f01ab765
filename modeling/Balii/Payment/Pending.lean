import Balii.Payment.Settlement
/-!
# Payment.Pending — online payments that wait, and their orders

An online payment should wait only for an order that waits.  A payment comes to wait by being inserted, without a lock on its order; an
order ceases to wait by being cancelled, which closes the payments it finds pending, or by being confirmed, which closes none.
-/
namespace Balii

open Rowdb Tx Sql System

/-- Every online payment that is pending is of an order that is pending. -/
def PendingForPending (s : Db) : Prop :=
  ∀ k p, s.find Tab.payments k = some p → p.method ≠ .cod → p.status = .pending →
    ∃ o, s.find Tab.orders p.orderId = some o ∧ o.status = .pending

/-- The transaction takes the order out of pending without a look at its payments. -/
def Op.PassesOver (op : Op) (s : Db) (id : Uuid) : Prop :=
  match op with
  | .updatePaymentStatus id' .paid _ _ => id' = id
  | .updateOrderStatus id' .confirmed _ _ => id' = id
  | .updateReturnRefundResult k _ _ => ∃ r, s.find Tab.returnRequests k = some r ∧ r.orderId = id
  | .completeManualReturnRefund m => ∃ r, s.find Tab.returnRequests m.returnRequestId = some r ∧ r.orderId = id
  | _ => False

/-- **Payments come and orders go one at a time**: an online payment is inserted while its order is pending and nobody has the order
locked, and an order is not confirmed, or refunded with a return, while an online payment of it is pending. -/
structure OneAtATime {cfg : Config} (w : (platform cfg).World) (c : Commit cfg) : Prop where
  inserted : ∀ n, c.op = .createPaymentRow n → n.method ≠ .cod →
    (∃ o, c.before.find Tab.orders n.orderId = some o ∧ o.status = .pending) ∧ w.Unheld (.row Tab.orders n.orderId)
  passed : ∀ k p, c.before.find Tab.payments k = some p → p.method ≠ .cod → p.status = .pending → ¬ c.op.PassesOver c.before p.orderId

/-! ## What is pending while an order is locked -/

/-- Who opens an online payment of an order does so as if the order were locked for it. -/
def OpensUnderLock (K : List (LockKey schema)) (a b : Db) : Prop :=
  ∀ k q, b.find Tab.payments k = some q → q.method ≠ .cod → q.status = .pending →
    (∃ p, a.find Tab.payments k = some p ∧ p.orderId = q.orderId ∧ p.method ≠ .cod ∧ p.status = .pending) ∨
      LockKey.row (D := schema) Tab.orders q.orderId ∈ K

section Steps
variable {cfg : Config} {c : Commit cfg} {Inv : Db → Prop} {G : List (LockKey schema) → Db → Db → Prop}

/-- **What is pending of a locked order was pending whenever it was peeked at.** -/
theorem pending_when_peeked {L : List (LockKey schema)} {s₀ s : Db} (h : Rely (S := platform cfg) Inv OpensUnderLock L s₀ s) {k : Uuid}
    {q : Payment} (hL : LockKey.row (D := schema) Tab.orders q.orderId ∈ L) (hq : s.find Tab.payments k = some q) (honline : q.method ≠ .cod)
    (hpend : q.status = .pending) : ∃ p, s₀.find Tab.payments k = some p ∧ p.orderId = q.orderId ∧ p.status = .pending := by
  obtain ⟨_, hothers⟩ := h
  induction hothers generalizing q with
  | refl => exact ⟨q, hq, rfl, hpend⟩
  | tail _ hlast ih =>
    obtain ⟨K, hK, hopens, _⟩ := hlast
    rcases hopens k q hq honline hpend with ⟨p, hp, horder, honline', hpend'⟩ | hlocked
    · obtain ⟨p₀, hp₀, horder₀, hpend₀⟩ := ih (horder ▸ hL) hp honline' hpend'
      exact ⟨p₀, hp₀, horder₀.trans horder, hpend₀⟩
    · exact absurd hL (hK _ hlocked)

/-- What a change of status leaves of a pending order: the order as it was, its payments reached, or an order that is confirmed. -/
theorem pending_of_moved {R : List (LockKey schema) → Db → Db → Prop} {To : OrderStatus → Prop} {s b : Db} {id k : Uuid} {order : Order}
    {now : Time} (ho : s.find Tab.orders id = some order) (hm : OrderMoved R To s b id order now) {o : Order}
    (hk : s.find Tab.orders k = some o) (hpend : o.status = .pending) :
    b.find Tab.orders k = some o ∨ PaymentsReached R s b k ∨ (k = id ∧ To .confirmed) := by
  rcases hm with ⟨hrows, _⟩ | ⟨status, hmem, hto, horders, halong⟩
  · exact .inl ((Database.find_of_rows (D := schema) hrows k).trans hk)
  · by_cases hid : k = id
    · subst hid
      obtain rfl := Option.some.inj (hk.symm.trans ho)
      rw [hpend] at hmem
      simp only [OrderStatus.next, List.mem_cons, List.not_mem_nil, or_false] at hmem
      rcases hmem with rfl | rfl
      · exact .inr (.inr ⟨rfl, hto⟩)
      · exact .inr (.inl (halong.reached rfl))
    · rw [Database.find_of_modify (D := schema) horders, if_neg hid]
      exact .inl hk

/-- **A pending order stays as it is, or its payments are reached**, if it is not passed over. -/
theorem stays_or_reached (hf : c.Faithful Inv G) {k : Uuid} {o : Order} (ho : c.before.find Tab.orders k = some o)
    (hpend : o.status = .pending) (hpassed : ¬ c.op.PassesOver c.before k) :
    c.after.find Tab.orders k = some o ∨ PaymentsReached (Rely (S := platform cfg) Inv G) c.before c.after k := by
  have hsame : Tab.orders ∉ c.op.tables → c.after.find Tab.orders k = some o := fun ht => (find_of_notMem hf ht k).trans ho
  have hnil : c.out.writes = [] → c.after.find Tab.orders k = some o := fun hw => by
    rw [after_of_nil hw]
    exact ho
  obtain ⟨call, op, s, out⟩ := c
  cases op with
  | updatePaymentStatus id payment status now =>
    obtain ⟨order, horder, _, hm, _⟩ := exec_updatePaymentStatus hf
    rcases pending_of_moved horder hm ho hpend with hstays | hreached | ⟨rfl, hconfirmed⟩
    · exact .inl hstays
    · exact .inr hreached
    · cases payment with
      | paid => exact absurd rfl hpassed
      | _ => cases hconfirmed
  | updateOrderStatus id status note now =>
    obtain ⟨order, horder, _, hm⟩ := exec_updateOrderStatus hf
    rcases pending_of_moved horder hm ho hpend with hstays | hreached | ⟨rfl, rfl⟩
    · exact .inl hstays
    · exact .inr hreached
    · exact absurd rfl hpassed
  | createOrder co =>
    rcases exec_createOrder hf with hw | ⟨voucher, hp, _⟩
    · exact .inl (hnil hw)
    · refine .inl ((hp.find_orders k).trans ?_)
      rw [if_neg fun hk => ?_]
      · exact ho
      · rw [hk, hp.fresh] at ho
        cases ho
  | updateReturnRefundResult id result now =>
    obtain ⟨request, _, hreq, _, ⟨_, hw⟩ | ⟨_, hp⟩⟩ := exec_updateReturnRefundResult hf
    · exact .inl (hnil hw)
    · exact .inl (find_of_returnPaid hp ho fun hk => hpassed ⟨request, hreq, hk.symm⟩)
  | completeManualReturnRefund m =>
    obtain ⟨request, _, hreq, _, ⟨_, hw⟩ | ⟨_, _, hp⟩⟩ := exec_completeManual hf
    · exact .inl (hnil hw)
    · exact .inl (find_of_returnPaid hp ho fun hk => hpassed ⟨request, hreq, hk.symm⟩)
  | _ => exact .inl (hsame (by simp [Op.tables]))

/-- **The step**: a commit that keeps payments and orders apart keeps them together. -/
theorem pending_commit {w : (platform cfg).World} (h : PendingForPending c.before) (hf : c.Faithful Inv OpensUnderLock)
    (hc : OneAtATime w c) : PendingForPending c.after ∧ w.Promises OpensUnderLock c := by
  have hopens : ∀ {k q}, c.after.find Tab.payments k = some q → q.method ≠ .cod → q.status = .pending →
      (∃ p, c.before.find Tab.payments k = some p ∧ p.orderId = q.orderId ∧ p.method ≠ .cod ∧ p.status = .pending) ∨
        ∃ n, c.op = .createPaymentRow n ∧ n.orderId = q.orderId ∧ n.method ≠ .cod := by
    intro k q hq honline hpend
    rcases payment_edit_before hf hq with ⟨p, hp, hedit⟩ | ⟨_, n, hop, _, rfl, _⟩
    · obtain ⟨hmethod, horder, _⟩ := hedit.origin
      exact .inl ⟨p, hp, horder.symm, hmethod ▸ honline, hedit.pending hpend⟩
    · exact .inr ⟨n, hop, rfl, honline⟩
  constructor
  · intro k q hq honline hpend
    rcases hopens hq honline hpend with ⟨p, hp, horder, honline', hpend'⟩ | ⟨n, hop, horder, honline'⟩
    · obtain ⟨o, ho, hopen⟩ := h k p hp honline' hpend'
      rw [← horder]
      rcases stays_or_reached hf ho hopen (hc.passed k p hp honline' hpend') with hstays | hreached
      · exact ⟨o, hstays, hopen⟩
      · -- whatever the cancellation peeked at has the payment pending, so it is cancelled
        have hcancelled := hreached k p hp rfl hpend' fun L s₀ hL hpeeked => pending_when_peeked hpeeked hL hp honline' hpend'
        rw [hq] at hcancelled
        rw [Option.some.inj hcancelled] at hpend
        cases hpend
    · obtain ⟨⟨o, ho, hopen⟩, _⟩ := hc.inserted n hop honline'
      rw [← horder]
      exact ⟨o, (find_of_notMem hf (t := Tab.orders) (by rw [hop]; simp [Op.tables]) n.orderId).trans ho, hopen⟩
  · by_cases hins : ∃ n, c.op = .createPaymentRow n ∧ n.method ≠ .cod
    · obtain ⟨n, hop, honline⟩ := hins
      refine ⟨[.row Tab.orders n.orderId], fun k hk => ?_, fun k q hq honline' hpend => ?_⟩
      · cases List.mem_singleton.1 hk
        exact .inr (hc.inserted n hop honline).2
      · rcases hopens hq honline' hpend with hbefore | ⟨n', hop', horder, _⟩
        · exact .inl hbefore
        · cases hop.symm.trans hop'
          exact .inr (List.mem_singleton.2 (by rw [horder]))
    · refine ⟨[], List.forall_mem_nil _, fun k q hq honline' hpend => ?_⟩
      rcases hopens hq honline' hpend with hbefore | ⟨n, hop, _, honline⟩
      · exact .inl hbefore
      · exact absurd ⟨n, hop, honline⟩ hins

end Steps

/-- **In every run in which payments come and orders go one at a time, online payments are pending for pending orders only.** -/
theorem pending_for_pending {cfg : Config} {s : Db} {es : List (Event (platform cfg))} {w : (platform cfg).World}
    (run : RunWhere OneAtATime (quiet s) es w) (hs : PendingForPending s) : PendingForPending w.db :=
  (run.sound (fun _ _ h (hf : Commit.Faithful (S := platform cfg) PendingForPending OpensUnderLock _) hc => pending_commit h hf hc) hs).2

/-! ## An order cancelled, and one confirmed through one of two payments -/

/-- The customer asks for a payment by VNPay, and the order is cancelled. -/
def askedThenCancelled : List (Cmd (platform sampleConfig)) :=
  paymentAsked 0 10 .vnpay 1 ++ (.arrive (Call.updateOrderStatus 1 .cancelled none 2) :: steps 3 2)

def ofOrder : LockKey schema → Bool
  | .row Tab.orders _ => true
  | _ => false

/-- Whether the commit, with nobody else about, takes payments and orders one at a time. -/
def isOneAtATime (c : Commit sampleConfig) : Bool :=
  match c.op with
  | .createPaymentRow n =>
    (c.before.find Tab.orders n.orderId).any (fun o => o.status == .pending) &&
      List.all (α := LockKey schema) c.out.locks fun k => !ofOrder k
  | .updateReturnRefundResult .. | .completeManualReturnRefund _ => false
  | .updatePaymentStatus _ status _ _ => status != .paid
  | .updateOrderStatus _ status _ _ => status != .confirmed
  | _ => true

theorem oneAtATime_of {c : Commit sampleConfig} (h : isOneAtATime c = true) {w : (platform sampleConfig).World}
    (hw : ∀ p ∈ w.sessions, ∀ k ∈ p.2.locks, k ∈ c.out.locks) : OneAtATime w c := by
  obtain ⟨call, op, s, out⟩ := c
  refine ⟨fun n hop _ => ?_, fun k p _ _ _ => ?_⟩
  · obtain rfl : op = .createPaymentRow n := hop
    simp only [isOneAtATime, Bool.and_eq_true] at h
    obtain ⟨o, ho, hopen⟩ := (Option.any_eq_true _ _).1 h.1
    exact ⟨⟨o, ho, beq_iff_eq.1 hopen⟩, fun p hp hk => absurd (List.all_eq_true.1 h.2 _ (hw p hp _ hk)) Bool.false_ne_true⟩
  · cases op with
    | updateOrderStatus id status note now =>
      cases status with
      | confirmed => cases h
      | _ => exact fun h => h
    | updatePaymentStatus id status payment now =>
      cases status with
      | paid => cases h
      | _ => exact fun h => h
    | updateReturnRefundResult id result now => cases h
    | completeManualReturnRefund m => cases h
    | _ => exact fun h => h

/-- Its payment is cancelled with it. -/
theorem cancelled_with_order : PendingForPending (schedule (quiet (S := platform sampleConfig) (shopWith sampleOrder)) askedThenCancelled).2.db ∧
    ((schedule (quiet (S := platform sampleConfig) (shopWith sampleOrder)) askedThenCancelled).2.db.find Tab.payments 10).any
      (fun p => p.status == .cancelled) = true := by
  refine ⟨pending_for_pending (schedule_runWhere askedThenCancelled .start (fun i p h => by cases h) fun c hc w hw => ?_)
    (fun _ _ h => by cases h), by decide +kernel⟩
  exact oneAtATime_of (forall_commit (S := platform sampleConfig) (p := isOneAtATime) (by decide +kernel) c hc) hw

def paidOnce : Execution (platform sampleConfig) PendingForPending fun _ => True :=
  .ofSchedule (shopWith sampleOrder) oneOfTwoPaid (fun _ _ h => nomatch h) fun _ _ => trivial

/-- Whether the payment waits online for an order that waits no more. -/
def waitsInVain (k : Uuid) (s : Db) : Bool :=
  (s.find Tab.payments k).any fun p => p.method != .cod && p.status == .pending &&
    (s.find Tab.orders p.orderId).all fun o => o.status != .pending

theorem not_pendingForPending_of {k : Uuid} {s : Db} (h : waitsInVain k s = true) : ¬ PendingForPending s := by
  unfold waitsInVain at h
  obtain ⟨p, hp, h⟩ := (Option.any_eq_true _ _).1 h
  simp only [Bool.and_eq_true, bne_iff_ne, beq_iff_eq] at h
  intro hall
  obtain ⟨o, ho, hopen⟩ := hall k p hp h.1.1 h.1.2
  rw [ho, Option.all_some, bne_iff_ne] at h
  exact h.2 hopen

/-- When nobody is about any more, the order is confirmed and its other payment can still be paid. -/
theorem paidOnce_leaves_pending : ¬ ∀ e : Execution (platform sampleConfig) PendingForPending fun _ => True,
    e.final.Idle → PendingForPending e.final.db := fun h =>
  not_pendingForPending_of (k := 11) (by decide +kernel) (h paidOnce (by decide +kernel))

end Balii
