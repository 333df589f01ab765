import Balii.Payment.Settlement
/-!
# Payment.Latest — the newest payment of an order and the settled one

Some readers of an order take its newest payment for the payment, others look for a settled one.  They agree as long as the
newest is settled when any is; an insertion, a result or a timeout can each end that.
-/
namespace Balii

open Rowdb Tx Sql System

/-! ## Two readings -/

/-- No payment of the order is newer. -/
def Newest (s : Db) (k : Uuid) (p : Payment) : Prop :=
  s.find Tab.payments k = some p ∧
    ∀ k' p', s.find Tab.payments k' = some p' → p'.orderId = p.orderId → p'.createdAt ≤ p.createdAt

/-- With a settled payment of an order, its newest payments are settled. -/
def NewestSettled (s : Db) : Prop :=
  ∀ k p, s.find Tab.payments k = some p → p.status.settled = true →
    ∀ k' p', Newest s k' p' → p'.orderId = p.orderId → p'.status.settled = true

/-- Some payment of the order is settled. -/
def Settled (s : Db) (orderId : Uuid) : Prop :=
  ∃ k p, s.find Tab.payments k = some p ∧ p.orderId = orderId ∧ p.status.settled = true

/-- The status and the method are those of a settled payment of the order. -/
def OfSettled (s : Db) (orderId : Uuid) (status : PaymentStatus) (method : PaymentMethod) : Prop :=
  ∃ k p, s.find Tab.payments k = some p ∧ p.orderId = orderId ∧ p.status.settled = true ∧ status = p.status ∧ method = p.method

/-- **One view of an order's payment**: whoever reads the latest payment of an order with a settled one reads a settled one. -/
structure OneView (s : Db) : Prop where
  mine : ∀ userId orderId view, findMyOrderById userId orderId s = some view → Settled s orderId →
    OfSettled s orderId view.paymentStatus view.paymentMethod
  admin : ∀ view ∈ findAdminOrders s, Settled s view.id → OfSettled s view.id view.paymentStatus view.paymentMethod
  received : ∀ id r, s.find Tab.returnRequests id = some r → Settled s r.orderId →
    ∃ e, latestPaymentOfReturn id s = some e ∧ OfSettled s r.orderId e.2.status e.2.method
  agree : ∀ orderId, ((paymentsOf orderId s).head?.any fun e => e.2.status.settled) = hasSettledPayment orderId s

theorem mem_paymentsOf {orderId k : Uuid} {p : Payment} {s : Db} :
    (k, p) ∈ paymentsOf orderId s ↔ s.find Tab.payments k = some p ∧ p.orderId = orderId := by
  unfold paymentsOf
  rw [mem_newestFirst, AList.mem_select, beq_iff_eq]
  exact Iff.rfl

theorem newest_of_head {orderId : Uuid} {e : Uuid × Payment} {s : Db} (h : (paymentsOf orderId s).head? = some e) :
    Newest s e.1 e.2 ∧ e.2.orderId = orderId := by
  obtain ⟨hfind, horder⟩ := mem_paymentsOf.1 (List.mem_of_mem_head? h)
  refine ⟨⟨hfind, fun k' p' hp' ho => ?_⟩, horder⟩
  have hmem : (k', p') ∈ paymentsOf orderId s := mem_paymentsOf.2 ⟨hp', ho.trans horder⟩
  exact le_of_head_newestFirst h (mem_newestFirst.1 hmem)

theorem NewestSettled.head {s : Db} (h : NewestSettled s) {orderId : Uuid} (hs : Settled s orderId) :
    ∃ e, (paymentsOf orderId s).head? = some e ∧ OfSettled s orderId e.2.status e.2.method := by
  obtain ⟨k, p, hp, horder, hset⟩ := hs
  have hmem : (k, p) ∈ paymentsOf orderId s := mem_paymentsOf.2 ⟨hp, horder⟩
  cases hhead : (paymentsOf orderId s).head? with
  | none =>
    rw [List.head?_eq_none_iff.1 hhead] at hmem
    cases hmem
  | some e =>
    obtain ⟨hnewest, ho⟩ := newest_of_head hhead
    exact ⟨e, rfl, e.1, e.2, hnewest.1, ho, h k p hp hset e.1 e.2 hnewest (ho.trans horder.symm), rfl, rfl⟩

theorem hasSettledPayment_iff {orderId : Uuid} {s : Db} : hasSettledPayment orderId s = true ↔ Settled s orderId := by
  unfold hasSettledPayment
  constructor
  · intro h
    obtain ⟨e, he⟩ := Option.isSome_iff_exists.1 h
    obtain ⟨hrow, hp⟩ := AList.find_some he
    rw [Bool.and_eq_true, beq_iff_eq] at hp
    exact ⟨e.1, e.2, hrow, hp.1, hp.2⟩
  · rintro ⟨k, p, hp, horder, hset⟩
    by_contra hnone
    rw [Bool.not_eq_true, Option.isSome_eq_false_iff, Option.isNone_iff_eq_none] at hnone
    have := AList.find_eq_none.1 hnone k p hp
    rw [horder, hset] at this
    simp at this

/-- **The readings agree where the newest is settled.** -/
theorem NewestSettled.oneView {s : Db} (h : NewestSettled s) : OneView s := by
  have hview : ∀ orderId o, Settled s orderId →
      OfSettled s orderId (mapOrder orderId o s).paymentStatus (mapOrder orderId o s).paymentMethod := by
    intro orderId o hs
    obtain ⟨e, hhead, hof⟩ := h.head hs
    unfold mapOrder
    rw [hhead]
    exact hof
  constructor
  · intro userId orderId view hfound hs
    obtain ⟨o, _, rfl⟩ := Option.map_eq_some_iff.1 hfound
    exact hview orderId o hs
  · intro view hmem hs
    obtain ⟨e, _, rfl⟩ := List.mem_map.1 hmem
    exact hview e.1 e.2 hs
  · intro id r hr hs
    obtain ⟨e, hhead, hof⟩ := h.head hs
    refine ⟨e, ?_, hof⟩
    unfold latestPaymentOfReturn
    rw [hr]
    exact hhead
  · intro orderId
    rw [Bool.eq_iff_iff, hasSettledPayment_iff]
    constructor
    · intro hany
      obtain ⟨e, he, hset⟩ := (Option.any_eq_true _ _).1 hany
      obtain ⟨hnewest, ho⟩ := newest_of_head he
      exact ⟨e.1, e.2, hnewest.1, ho, hset⟩
    · intro hs
      obtain ⟨e, hhead, _, _, _, _, hset, hstatus, _⟩ := h.head hs
      rw [hhead, Option.any_some, hstatus]
      exact hset

/-! ## The steps that keep them together -/

variable {cfg : Config} {c : Commit cfg} {Inv : Db → Prop} {G : List (LockKey schema) → Db → Db → Prop}

/-- No payment comes in as the newest of an order that has a settled one. -/
def InsertsOlder (c : Commit cfg) : Prop :=
  ∀ n, c.op = .createPaymentRow n → Settled c.before n.orderId →
    ∃ k p, c.before.find Tab.payments k = some p ∧ p.orderId = n.orderId ∧ n.now < p.createdAt

/-- A success that settles a payment finds the other newest payments of its order settled. -/
def SettlesNewest (c : Commit cfg) : Prop :=
  ∀ i, c.op = .persistPaymentResult i → i.finalStatus = .paid →
    ∀ p, c.before.find Tab.payments i.paymentId = some p → p.status = .pending →
      ∀ k p', Newest c.before k p' → p'.orderId = p.orderId → k ≠ i.paymentId → p'.status.settled = true

/-- No timeout hits a settled payment that is the newest while another one is settled. -/
def ExpiresLast (c : Commit cfg) : Prop :=
  ∀ i, c.op = .markExpired i → ∀ p, Newest c.before i.paymentId p → p.status.settled = true →
    ∀ k p', c.before.find Tab.payments k = some p' → p'.orderId = p.orderId → p'.status.settled = true → k = i.paymentId

structure KeepsLatest (c : Commit cfg) : Prop where
  inserts : InsertsOlder c
  settles : SettlesNewest c
  expires : ExpiresLast c

theorem newest_before (hf : c.Faithful Inv G) {k : Uuid} {p q : Payment} (h : Newest c.after k q)
    (hp : c.before.find Tab.payments k = some p) : Newest c.before k p := by
  refine ⟨hp, fun k' p' hp' ho => ?_⟩
  obtain ⟨q', hq', hedit'⟩ := payment_edited hf hp'
  obtain ⟨q₀, hq₀, hedit⟩ := payment_edited hf hp
  cases Option.some.inj (h.1.symm.trans hq₀)
  rw [← hedit.origin.2.2, ← hedit'.origin.2.2]
  exact h.2 k' q' hq' (by rw [hedit'.origin.2.1, hedit.origin.2.1, ho])

theorem newest_after (hf : c.Faithful Inv G) (hno : ∀ n, c.op ≠ .createPaymentRow n) {k : Uuid} {p : Payment}
    (h : Newest c.before k p) : ∃ q, Newest c.after k q ∧ PaymentEdit c.op k p q := by
  obtain ⟨q, hq, hedit⟩ := payment_edited hf h.1
  refine ⟨q, ⟨hq, fun k' q' hq' ho => ?_⟩, hedit⟩
  rcases payment_edit_before hf hq' with ⟨p', hp', hedit'⟩ | ⟨_, n, hop, _⟩
  · rw [hedit'.origin.2.2, hedit.origin.2.2]
    refine h.2 k' p' hp' ?_
    rw [← hedit'.origin.2.1, ← hedit.origin.2.1, ho]
  · exact absurd hop (hno n)

/-- Only a timeout unsettles a payment. -/
theorem settled_after (hf : c.Faithful Inv G) (hno : ∀ i, c.op ≠ .markExpired i) {k : Uuid} {p : Payment}
    (hp : c.before.find Tab.payments k = some p) (hs : p.status.settled = true) :
    ∃ q, c.after.find Tab.payments k = some q ∧ q.orderId = p.orderId ∧ q.status.settled = true := by
  obtain ⟨q, hq, hedit⟩ := payment_edited hf hp
  rcases hedit.change.settled_or hs with hset | ⟨i, hop, _⟩
  · exact ⟨q, hq, hedit.origin.2.1, hset⟩
  · exact absurd hop (hno i)

theorem newestSettled_commit (h : NewestSettled c.before) (hf : c.Faithful Inv G) (hr : RefundsSettled c)
    (hc : KeepsLatest c) : NewestSettled c.after := by
  intro k q hq hset k' q' hnewest horder
  obtain ⟨p, hp, hpo, hcase⟩ := settled_before hf hr hq hset
  rcases payment_edit_before hf hnewest.1 with ⟨p', hp', hedit'⟩ | ⟨_, n, hop, _, rfl, _⟩
  · have hnewest' := newest_before hf hnewest hp'
    have hsame : p'.orderId = p.orderId := by rw [hpo, ← horder, hedit'.origin.2.1]
    rcases hcase with hs | ⟨i, hop, rfl, hpaid, hpend⟩
    · have hs' := h k p hp hs k' p' hnewest' hsame
      rcases hedit'.change.settled_or hs' with hdone | ⟨i, hop, rfl⟩
      · exact hdone
      · -- the newest times out, and it was the only one
        have hk := hc.expires i hop p' hnewest' hs' k p hp hsame.symm hs
        subst hk
        cases Option.some.inj (hq.symm.trans (expire_after hf hop hp))
        cases hset
    · by_cases hk : k' = i.paymentId
      · subst hk
        cases Option.some.inj (hq.symm.trans hnewest.1)
        exact hset
      · have hs' := hc.settles i hop hpaid p hp hpend k' p' hnewest' hsame hk
        rcases hedit'.change.settled_or hs' with hdone | ⟨j, hop', _⟩
        · exact hdone
        · rw [hop] at hop'
          cases hop'
  · -- a new payment is not the newest
    have hs : p.status.settled = true := by
      rcases hcase with hs | ⟨i, hop', _⟩
      · exact hs
      · rw [hop] at hop'
        cases hop'
    obtain ⟨k₁, p₁, hp₁, ho₁, hlater⟩ := hc.inserts n hop ⟨k, p, hp, hpo.trans horder.symm, hs⟩
    obtain ⟨q₁, hq₁, hedit₁⟩ := payment_edited hf hp₁
    have hle := hnewest.2 k₁ q₁ hq₁ (hedit₁.origin.2.1.trans ho₁)
    rw [hedit₁.origin.2.2] at hle
    exact absurd hle (not_le.2 hlater)

theorem not_newestSettled (hf : c.Faithful Inv G) (hbad : ¬ KeepsLatest c) : ¬ NewestSettled c.after := by
  intro hafter
  refine hbad ⟨fun n hop hs => ?_, fun i hop hpaid p hp hpend k p' hnewest ho hk => ?_,
    fun i hop p hnewest hset k p' hp' ho hset' => ?_⟩
  · by_contra hno
    push Not at hno
    obtain ⟨k, p, hp, ho, hset⟩ := hs
    obtain ⟨q, hq, hqo, hqs⟩ := settled_after hf (fun i h => by rw [hop] at h; cases h) hp hset
    have hnew : c.after.find Tab.payments n.id = some n.row := by
      obtain ⟨call, op, s, out⟩ := c
      dsimp only at hop
      subst hop
      obtain ⟨hnone, _, hw⟩ := exec_createPayment hf
      change (written out.writes s).find Tab.payments n.id = _
      rw [hw, written_cons, written_nil, find_insert, if_pos rfl, hnone]
      rfl
    have hnewest : Newest c.after n.id n.row := by
      refine ⟨hnew, fun k' q' hq' ho' => ?_⟩
      rcases payment_edit_before hf hq' with ⟨p', hp', hedit'⟩ | ⟨_, n', hop', _, rfl, _⟩
      · rw [hedit'.origin.2.2]
        exact hno k' p' hp' (hedit'.origin.2.1.symm.trans ho')
      · rw [hop] at hop'
        cases hop'
        exact le_refl _
    cases hafter k q hq hqs n.id n.row hnewest (ho.symm.trans hqo.symm)
  · obtain ⟨q', hnewest', hedit'⟩ := newest_after hf (fun n h => by rw [hop] at h; cases h) hnewest
    have hsettled : (i.settle p).status.settled = true := by
      change i.finalStatus.settled = true
      rw [hpaid]
      rfl
    have := hafter i.paymentId (i.settle p) (settle_after hf hop hp hpend) hsettled k q' hnewest'
      (hedit'.origin.2.1.trans ho)
    rw [hop] at hedit'
    cases hedit' with
    | kept => exact this
    | settled h hk' => cases h; exact absurd hk'.symm hk
    | cancelled h _ => rcases h with ⟨_, _, _, h⟩ | ⟨_, _, _, h⟩ <;> cases h
    | expired h _ => cases h
    | refunded h _ _ => cases h
    | linked h => cases h
    | renewed h _ => cases h
    | reviewed h => cases h
    | attempted h => cases h
  · by_contra hk
    obtain ⟨q, hnewest', hedit⟩ := newest_after hf (fun n h => by rw [hop] at h; cases h) hnewest
    cases Option.some.inj (hnewest'.1.symm.trans (expire_after hf hop hnewest.1))
    obtain ⟨q', hq', hedit'⟩ := payment_edited hf hp'
    rcases hedit'.change.settled_or hset' with hs | ⟨j, hop', hk'⟩
    · have := hafter k q' hq' hs i.paymentId p.expire hnewest' ?_
      · cases this
      · rw [hedit'.origin.2.1, ho]
        rfl
    · rw [hop] at hop'
      cases hop'
      exact hk hk'.symm

/-- **Everybody reads a settled payment of an order that has one, exactly as long as each commit keeps the newest settled**:
over every run without refund results, and with them as long as they are about settled payments. -/
theorem latest_is_settled (cfg : Config) :
    (∀ e : Execution (platform cfg) NewestSettled NoRefundResult,
      (∀ c : Commit cfg, .commit c ∈ e.events → KeepsLatest c) ↔ ∀ s ∈ e.history, NewestSettled s) ∧
    (∀ e : Execution (platform cfg) NewestSettled fun _ => True,
      (∀ c : Commit cfg, .commit c ∈ e.events → KeepsLatest c ∧ RefundsSettled c) → ∀ s ∈ e.history, NewestSettled s) ∧
    ∀ s, NewestSettled s → OneView s := by
  refine ⟨fun e => ?_, fun e hc s hs => ?_, fun s h => h.oneView⟩
  · have hk : Keeps (S := platform cfg) NewestSettled (fun _ _ _ => True) NoRefundResult KeepsLatest := fun c hp h hf hc =>
      ⟨newestSettled_commit h hf (fun i hop => absurd hop (hp i)) hc, trivial⟩
    exact e.iff_history hk (fun _ h => h) (fun _ h => h) fun c _ _ hf hc => not_newestSettled hf hc
  · have hk : Keeps (S := platform cfg) NewestSettled (fun _ _ _ => True) (fun _ => True)
        fun c => KeepsLatest c ∧ RefundsSettled c := fun c _ h hf hc => ⟨newestSettled_commit h hf hc.2 hc.1, trivial⟩
    exact e.invariant hk (fun _ h => h) hc hs

/-! ## An order paid through the older of two payments -/

def paidThroughOlder : Execution (platform sampleConfig) NewestSettled fun _ => True :=
  .ofSchedule (shopWith sampleOrder) oneOfTwoPaid (fun _ _ h => nomatch h) fun _ _ => trivial

/-- Whether the customer is shown an unsettled payment of a paid order. -/
def showsUnsettled (userId orderId : Uuid) (s : Db) : Bool :=
  hasSettledPayment orderId s && (findMyOrderById userId orderId s).any fun view => !view.paymentStatus.settled

theorem not_oneView_of {userId orderId : Uuid} {s : Db} (h : showsUnsettled userId orderId s = true) : ¬ OneView s := by
  unfold showsUnsettled at h
  rw [Bool.and_eq_true] at h
  obtain ⟨view, hview, hno⟩ := (Option.any_eq_true _ _).1 h.2
  intro hone
  obtain ⟨_, _, _, _, hset, hstatus, _⟩ := hone.mine userId orderId view hview (hasSettledPayment_iff.1 h.1)
  rw [hstatus, hset] at hno
  cases hno

/-- The order is confirmed and paid by VNPay, and its owner reads that a bank transfer is pending. -/
theorem paidThroughOlder_reads_pending : ¬ ∀ e : Execution (platform sampleConfig) NewestSettled fun _ => True,
    ∀ s ∈ e.history, OneView s := fun h =>
  not_oneView_of (show showsUnsettled 1 1 paidThroughOlder.final.db = true by decide +kernel)
    (h paidThroughOlder _ paidThroughOlder.final_mem_history)

end Balii
