import Balii.Lib.Perform
import Balii.Payment.Settlement
/-!
# Payment.Convergence — a paid payment and an order that has not heard of it

The payment service commits a payment as paid and then tells the order service.  Between the two it may die, or the call may
fail, and the callback comes again.  What comes again finds a payment that is finished and answers at once.
-/
namespace Balii

open Rowdb Tx Sql System

variable {cfg : Config}

/-- The order has left `pending`. -/
def OrderPast (id : Uuid) (s : Db) : Prop := ∃ o, s.find Tab.orders id = some o ∧ o.status ≠ .pending

/-- The payment of this order has its answer. -/
def NotWaiting (k orderId : Uuid) (s : Db) : Prop :=
  ∃ p, s.find Tab.payments k = some p ∧ p.orderId = orderId ∧ p.status ≠ .pending

/-- The payment has its answer, and that was not that it is paid. -/
def Unpaid (k : Uuid) (s : Db) : Prop := ∃ p, s.find Tab.payments k = some p ∧ p.status ≠ .pending ∧ p.status ≠ .paid

/-- If the payment is paid, its order is not pending. -/
def Converged (k : Uuid) (s : Db) : Prop :=
  ∀ p o, s.find Tab.payments k = some p → p.status = .paid → s.find Tab.orders p.orderId = some o → o.status ≠ .pending

/-- The payment will not be paid any more, or its order has moved. -/
def CaughtUp (k : Uuid) (s : Db) : Prop := Unpaid k s ∨ ∃ id, NotWaiting k id s ∧ OrderPast id s

theorem CaughtUp.converged {k : Uuid} {s : Db} (h : CaughtUp k s) : Converged k s := by
  intro p o hp hpaid ho
  rcases h with ⟨q, hq, _, hunpaid⟩ | ⟨id, ⟨q, hq, rfl, _⟩, o', ho', hpast⟩
  · cases Option.some.inj (hp.symm.trans hq)
    exact absurd hpaid hunpaid
  · cases Option.some.inj (hp.symm.trans hq)
    cases Option.some.inj (ho.symm.trans ho')
    exact hpast

/-! ## What lasts -/

/-- Answers to payments last. -/
def AnswersLast (_ : List (LockKey schema)) (a b : Db) : Prop :=
  ∀ k, (Unpaid k a → Unpaid k b) ∧ ∀ id, NotWaiting k id a → NotWaiting k id b

section
variable {c : Commit cfg} {Inv : Db → Prop} {G : List (LockKey schema) → Db → Db → Prop}

theorem orderPast_stays (hf : c.Faithful Inv G) {id : Uuid} (h : OrderPast id c.before) : OrderPast id c.after := by
  obtain ⟨o, ho, hpast⟩ := h
  obtain ⟨o', ho', hchange⟩ := order_after hf ho
  refine ⟨o', ho', ?_⟩
  cases hchange with
  | kept => exact hpast
  | refunded _ _ => exact fun h => nomatch h
  | @moved status now hmem _ =>
    change status ≠ .pending
    rintro rfl
    cases hs : o.status <;> rw [hs] at hmem <;> simp [OrderStatus.next] at hmem

theorem notWaiting_stays (hf : c.Faithful Inv G) {k id : Uuid} (h : NotWaiting k id c.before) : NotWaiting k id c.after := by
  obtain ⟨p, hp, rfl, hs⟩ := h
  obtain ⟨q, hq, hchange⟩ := payment_after hf hp
  refine ⟨q, hq, hchange.orderId, ?_⟩
  cases hchange with
  | noted h => rw [h.status]; exact hs
  | cancelled _ hpend => exact absurd hpend hs
  | settled _ _ _ hpend => exact absurd hpend hs
  | expired _ _ => exact fun h => nomatch h
  | refunded _ _ _ =>
    unfold Payment.refund
    dsimp only
    split <;> exact fun h => nomatch h

theorem unpaid_stays (hf : c.Faithful Inv G) {k : Uuid} (h : Unpaid k c.before) : Unpaid k c.after := by
  obtain ⟨p, hp, hs, hunpaid⟩ := h
  obtain ⟨q, hq, hchange⟩ := payment_after hf hp
  refine ⟨q, hq, ?_⟩
  cases hchange with
  | noted h => rw [h.status]; exact ⟨hs, hunpaid⟩
  | cancelled _ hpend => exact absurd hpend hs
  | settled _ _ _ hpend => exact absurd hpend hs
  | expired _ _ => exact ⟨(nomatch ·), (nomatch ·)⟩
  | refunded _ _ _ =>
    unfold Payment.refund
    dsimp only
    split <;> exact ⟨(nomatch ·), (nomatch ·)⟩

theorem caughtUp_stays (hf : c.Faithful Inv G) {k : Uuid} (h : CaughtUp k c.before) : CaughtUp k c.after :=
  h.imp (unpaid_stays hf) fun ⟨id, h1, h2⟩ => ⟨id, notWaiting_stays hf h1, orderPast_stays hf h2⟩

theorem answersLast (hf : c.Faithful Inv G) : AnswersLast c.out.locks c.before c.after :=
  fun _ => ⟨unpaid_stays hf, fun _ => notWaiting_stays hf⟩

end

/-! ## What the order service is told -/

section
variable {R : List (LockKey schema) → Db → Db → Prop} {s : Db}

/-- Confirmed, or later. -/
def OrderStatus.Confirmed (status : OrderStatus) : Prop :=
  status = .confirmed ∨ status = .processing ∨ status = .shipping ∨ status = .delivered

instance (status : OrderStatus) : Decidable status.Confirmed := by
  unfold OrderStatus.Confirmed
  infer_instance

theorem OrderStatus.confirmed_of {status : OrderStatus} (h1 : status ≠ .pending) (h2 : status ≠ .cancelled ∧ status ≠ .refunded) :
    status.Confirmed := by
  unfold OrderStatus.Confirmed
  cases status <;> simp_all

/-- **An order whose payment is reported as paid is confirmed, or was already.** -/
theorem exec_updatePaid_confirmed {id : Uuid} {status : Option OrderStatus} {now : Time}
    {o : Outcome (LockKey schema) (Write schema) (Uuid × Bool)}
    (h : Exec R (updatePaymentStatusTransaction id .paid status now) s [] [] o) :
    ∃ order, (written o.writes s).find Tab.orders id = some order ∧ order.status.Confirmed := by
  unfold updatePaymentStatusTransaction at h
  rw [exec_bind] at h
  obtain ⟨_, h1, h⟩ := h
  obtain ⟨order, ho, rfl⟩ := exec_fetchJoin h1
  have ho : s.find Tab.orders id = some order := ho
  by_cases hpend : order.status = .pending
  · -- the order was confirmed
    simp only [nextStatusOf, paidOrder, if_pos hpend, exec_bind, exec_ensure, exec_pure] at h
    obtain ⟨_, ⟨m, ⟨_, rfl⟩, m', hm', rfl⟩, _, ⟨_, rfl⟩, m'', hm'', h⟩ := h
    simp only [applyNextStatus, hpend, reduceCtorEq, if_false, exec_bind, exec_pure] at hm''
    obtain ⟨m₃, hm₃, rfl⟩ := hm''
    unfold setOrderStatus at hm₃
    simp only [exec_bind, exec_update, exec_append] at hm₃
    obtain ⟨_, rfl, rfl⟩ := hm₃
    cases h
    have horders : ∃ o', (written m'.writes s).find Tab.orders id = some o' := by
      obtain ⟨_, hrows⟩ := movesAlong_confirmed ho hm'
      rw [Database.find_of_modify (D := schema) hrows, if_pos rfl, ho]
      exact ⟨_, rfl⟩
    obtain ⟨o', ho'⟩ := horders
    refine ⟨{ o' with status := .confirmed, updatedAt := now }, ?_, .inl rfl⟩
    simp only [written_append, written_cons, written_nil]
    rw [find_apply _ _ (by simp [Write.tab?]), find_update, if_pos rfl, ho']
    rfl
  · simp only [nextStatusOf, paidOrder, if_neg hpend, exec_bind, exec_ensure, exec_pure] at h
    obtain ⟨_, ⟨m, ⟨hopen, rfl⟩, m', ⟨_, rfl⟩, rfl⟩, _, ⟨_, rfl⟩, m'', hm'', h⟩ := h
    simp only [applyNextStatus, exec_pure] at hm''
    cases hm''
    cases h
    exact ⟨order, ho, OrderStatus.confirmed_of hpend hopen⟩

theorem exec_updatePaid {id : Uuid} {status : Option OrderStatus} {now : Time}
    {o : Outcome (LockKey schema) (Write schema) (Uuid × Bool)}
    (h : Exec R (updatePaymentStatusTransaction id .paid status now) s [] [] o) : OrderPast id (written o.writes s) := by
  obtain ⟨order, ho, hconfirmed⟩ := exec_updatePaid_confirmed h
  refine ⟨order, ho, fun hpend => ?_⟩
  rw [hpend] at hconfirmed
  exact absurd hconfirmed (by decide)

end

/-! ## Calls that come back -/

/-- Every provider reference is of the payment it is said to be. -/
def RefsOf (owner : String → Uuid) (s : Db) : Prop :=
  ∀ k p ref, s.find Tab.payments k = some p → p.providerRef = some ref → owner ref = k

/-- A result, or a callback, that finds its payment paid finds the order past `pending`; references stay with their payment. -/
structure OrderFollows (owner : String → Uuid) (c : Commit cfg) : Prop where
  refs : RefsOf owner c.after
  result : ∀ i p, c.op = .persistPaymentResult i → c.before.find Tab.payments i.paymentId = some p → p.status = .paid →
    OrderPast p.orderId c.before
  callback : ∀ ref p, c.op = .read (.paymentByRef ref) → c.before.find Tab.payments (owner ref) = some p → p.status = .paid →
    OrderPast p.orderId c.before

/-- What a commit of the runs in question is. -/
def Follows (owner : String → Uuid) (c : Commit cfg) : Prop :=
  c.Faithful (RefsOf owner) AnswersLast ∧ OrderFollows owner c

section
variable {owner : String → Uuid} {s s' : Db}

theorem caughtUp_follows {k : Uuid} : ∀ c : Commit cfg, Follows owner c → CaughtUp k c.before → CaughtUp k c.after :=
  fun _ hc => caughtUp_stays hc.1

/-- The order service answered: the order is past `pending`. -/
theorem updateOrderPayment_past {id : Uuid} {status : Option OrderStatus} {now : Time}
    (h : Performs (S := platform cfg) (Regime.open (Follows owner)) (OrderClient.updateOrderPayment id .paid status now) s (.ok ()) s') :
    OrderPast id s' := by
  unfold OrderClient.updateOrderPayment at h
  obtain ⟨s₁, _, ⟨q, s₂, _, hcallee, hnext⟩ | ⟨_, s₂, _, hnext⟩ | ⟨he, _⟩⟩ := Performs.of_call h
  · cases q with
    | error e =>
      obtain ⟨_, he | he⟩ := Performs.of_fail hnext
      · cases he
      · cases he
    | ok reply =>
      obtain ⟨_, s₃, htrans, hreply⟩ := Performs.of_bind_ok hcallee
      obtain ⟨s₄, call, out, _, ⟨hf, _⟩, _, hlater⟩ := Performs.of_trans_ok htrans
      have hpast : OrderPast id (Tx.applyAll (LockKey.Content (D := schema)) out.writes s₄) := exec_updatePaid hf
      have hstays : ∀ c : Commit cfg, Follows owner c → OrderPast id c.before → OrderPast id c.after := fun _ hc => orderPast_stays hc.1
      exact hnext.keeps (P := OrderPast id) hstays hstays (hreply.keeps (P := OrderPast id) hstays hstays
        (hlater.keeps (P := OrderPast id) hstays hpast))
  · obtain ⟨_, he | he⟩ := Performs.of_fail hnext
    · cases he
    · cases he
  · cases he

/-- **A result that is answered leaves its payment caught up with.** -/
theorem persisted_caughtUp {i : PaymentResultInput} {res : PersistedPayment}
    (h : Performs (S := platform cfg) (Regime.open (Follows owner)) (persistPaymentResultTransaction i) s (.ok res) s') :
    CaughtUp i.paymentId s' := by
  unfold persistPaymentResultTransaction at h
  obtain ⟨a, s₁, htrans, hrest⟩ := Performs.of_bind_ok h
  obtain ⟨s₀, call, out, _, ⟨hf, hfollows⟩, rfl, hlater⟩ := Performs.of_trans_ok htrans
  obtain ⟨_, s₂, hreport, hpure⟩ := Performs.of_bind_ok hrest
  obtain ⟨_, payment, vs, _, hpay, hid, _, htab, ⟨hdone, _, _⟩ | ⟨_, _, _, hw, hval⟩⟩ := exec_persistPaymentResult hf
  · -- it had its answer
    have hbefore : CaughtUp i.paymentId s₀ := by
      by_cases hpaid : payment.status = .paid
      · exact .inr ⟨payment.orderId, ⟨payment, hpay, rfl, hdone⟩, hfollows.result i payment rfl hpay hpaid⟩
      · exact .inl ⟨payment, hpay, hdone, hpaid⟩
    exact hpure.keeps caughtUp_follows caughtUp_follows (hreport.keeps caughtUp_follows caughtUp_follows
      (hlater.keeps caughtUp_follows (caughtUp_stays hf hbefore)))
  · have hsettled : (Tx.applyAll (LockKey.Content (D := schema)) out.writes s₀).find Tab.payments i.paymentId =
        some (i.settle payment) := by
      have hvs : (written vs s₀).find Tab.payments i.paymentId = s₀.find Tab.payments i.paymentId := by
        refine find_written (D := schema) (t := Tab.payments) s₀ i.paymentId fun v hv ht => ?_
        rw [htab v hv] at ht
        cases ht
      change (written out.writes s₀).find Tab.payments i.paymentId = _
      rw [hw]
      simp only [written_append, written_cons, written_nil]
      rw [find_apply _ _ (by simp [Write.tab?]), find_update, if_pos rfl, hvs, hpay]
      rfl
    rw [hval] at hreport
    by_cases hpaid : i.finalStatus = .paid
    · simp only [reportPayment, hpaid, Bool.false_eq_true, if_false, if_true] at hreport
      have hstays : ∀ c : Commit cfg, Follows owner c → NotWaiting i.paymentId payment.orderId c.before →
          NotWaiting i.paymentId payment.orderId c.after := fun _ hc => notWaiting_stays hc.1
      refine hpure.keeps caughtUp_follows caughtUp_follows (.inr ⟨payment.orderId, ?_, updateOrderPayment_past hreport⟩)
      refine hreport.keeps (P := NotWaiting i.paymentId payment.orderId) hstays hstays
        (hlater.keeps (P := NotWaiting i.paymentId payment.orderId) hstays ⟨_, hsettled, rfl, ?_⟩)
      change i.finalStatus ≠ .pending
      simp [hpaid]
    · refine hpure.keeps caughtUp_follows caughtUp_follows (hreport.keeps caughtUp_follows caughtUp_follows
        (hlater.keeps caughtUp_follows (.inl ⟨_, hsettled, ?_, hpaid⟩)))
      change i.finalStatus ≠ .pending
      unfold PaymentResultInput.finalStatus
      split <;> exact fun h => by cases h

/-- A callback that is not turned away found the payment its reference is of, and if that had its answer, it is caught up
with. -/
theorem validated_caughtUp {query : VnpayCallbackPayload} {handled : (Uuid × Payment) × String}
    (h : Performs (S := platform cfg) (Regime.open (Follows owner)) (validateVnpayCallback cfg query) s (.ok handled) s') :
    ∃ ref, query.get "vnp_TxnRef" = some ref ∧ owner ref = handled.1.1 ∧ RefsOf owner s' ∧
      (handled.1.2.status ≠ .pending → CaughtUp handled.1.1 s') := by
  unfold validateVnpayCallback at h
  obtain ⟨_, _, _, h⟩ := Performs.of_bind_ok h
  obtain ⟨ref, _, href, h⟩ := Performs.of_bind_ok h
  obtain ⟨_, _, _, h⟩ := Performs.of_bind_ok h
  obtain ⟨_, _, _, h⟩ := Performs.of_bind_ok h
  obtain ⟨_, _, _, h⟩ := Performs.of_bind_ok h
  obtain ⟨found, s₁, hread, hrest⟩ := Performs.of_bind_ok h
  obtain ⟨payment, s₂, hneed, hrest'⟩ := Performs.of_bind_ok hrest
  obtain ⟨_, s₃, hamount, hpure⟩ := Performs.of_bind_ok hrest'
  obtain ⟨_, ⟨_, href', heq⟩ | ⟨_, he⟩⟩ := Performs.of_need href
  swap
  · cases he
  cases heq
  obtain ⟨s₀, call, out, _, ⟨hf, hfollows⟩, rfl, hlater⟩ := Performs.of_trans_ok hread
  obtain ⟨_, ⟨_, hfound, heq⟩ | ⟨_, he⟩⟩ := Performs.of_need hneed
  swap
  · cases he
  cases heq
  obtain ⟨_, hr | hr⟩ := Performs.of_done hpure
  swap
  · cases hr
  cases hr
  obtain ⟨sr, ⟨hrefs, hothers⟩, hout⟩ := exec_select.1 hf
  have hfind : getPaymentByProviderRef ref sr = some payment := (congrArg Outcome.val hout).symm.trans hfound
  obtain ⟨hlookup, hp⟩ := AList.find_some (k := payment.1) (r := payment.2) hfind
  have howner : owner ref = payment.1 := hrefs payment.1 payment.2 ref hlookup (beq_iff_eq.1 hp)
  have hrefsKept : ∀ c : Commit cfg, Follows owner c → RefsOf owner c.before → RefsOf owner c.after := fun _ hc _ => hc.2.refs
  refine ⟨ref, (Option.filter_eq_some_iff.1 href').1, howner, ?_, fun hs => ?_⟩
  · exact hpure.keeps hrefsKept hrefsKept (hamount.keeps hrefsKept hrefsKept (hneed.keeps hrefsKept hrefsKept
      (hlater.keeps hrefsKept hfollows.refs)))
  · refine hpure.keeps caughtUp_follows caughtUp_follows (hamount.keeps caughtUp_follows caughtUp_follows
      (hneed.keeps caughtUp_follows caughtUp_follows (hlater.keeps caughtUp_follows (caughtUp_stays hf ?_))))
    by_cases hpaid : payment.2.status = .paid
    · obtain ⟨p, hp, hid, hs'⟩ := inv_of_others (S := platform cfg) (P := NotWaiting payment.1 payment.2.orderId)
        (fun _ _ _ _ hg => (hg payment.1).2 _) hothers ⟨payment.2, hlookup, rfl, hs⟩
      by_cases hpaid' : p.status = .paid
      · refine .inr ⟨p.orderId, ⟨p, hp, rfl, hs'⟩, hfollows.callback ref p rfl ?_ hpaid'⟩
        rw [howner]
        exact hp
      · exact .inl ⟨p, hp, hs', hpaid'⟩
    · exact .inl (inv_of_others (S := platform cfg) (P := Unpaid payment.1) (fun _ _ _ _ hg => (hg payment.1).1) hothers
        ⟨payment.2, hlookup, hs, hpaid⟩)

/-- **A callback that is confirmed leaves its payment caught up with.** -/
theorem confirmed_caughtUp {query : VnpayCallbackPayload} {outboxEventId : Uuid} {now : Time} {code message : String}
    (h : Performs (S := platform cfg) (Regime.open (Follows owner)) (handleVnpayIpn cfg query outboxEventId now) s
      (.ok (.ipn code message)) s') (hcode : code = "00" ∨ code = "02") :
    ∃ ref, query.get "vnp_TxnRef" = some ref ∧ RefsOf owner s' ∧ CaughtUp (owner ref) s' := by
  have hrefsKept : ∀ c : Commit cfg, Follows owner c → RefsOf owner c.before → RefsOf owner c.after := fun _ hc _ => hc.2.refs
  rcases Performs.of_catching h with ⟨_, heq, hconfirm⟩ | ⟨e, s₁, _, hcatch⟩ | he
  · cases heq
    obtain ⟨handled, s₁, hvalid, hrest⟩ := Performs.of_bind_ok hconfirm
    obtain ⟨ref, href, howner, hrefs, hcaught⟩ := validated_caughtUp hvalid
    refine ⟨ref, href, hrest.keeps hrefsKept hrefsKept hrefs, ?_⟩
    rw [howner]
    split at hrest
    · obtain ⟨res, s₂, hpersist, hreply⟩ := Performs.of_bind_ok hrest
      exact hreply.keeps caughtUp_follows caughtUp_follows (persisted_caughtUp hpersist)
    · rename_i hs
      exact hrest.keeps caughtUp_follows caughtUp_follows (hcaught hs)
  · -- an error has another code
    obtain ⟨_, hr | hr⟩ := Performs.of_done hcatch
    · exfalso
      have hreply := (Except.ok.inj hr).symm
      unfold ipnError at hreply
      split at hreply
      · cases hreply
        revert hcode
        decide
      · have hcode' := (Reply.ipn.inj hreply).1
        rcases hcode with rfl | rfl <;> split at hcode' <;> (try split at hcode') <;> exact absurd hcode' (by decide)
      · cases hreply
        revert hcode
        decide
    · cases hr
  · cases he

end

/-! ## Every run -/

/-- Whoever is answered that a payment's result is recorded finds, if the payment is paid, its order past `pending`. -/
def ConvergesOnReturn {Init : Db → Prop} {Permitted : Op → Prop} (e : Execution (platform cfg) Init Permitted) : Prop :=
  ∀ call reply db, .returned call (.ok reply) db ∈ e.events →
    (∀ i, call = .persistPaymentResultTransaction i → Converged i.paymentId db) ∧
    ∀ query outboxEventId now code message ref, call = .handleVnpayIpn query outboxEventId now → reply = .ipn code message →
      code = "00" ∨ code = "02" → query.get "vnp_TxnRef" = some ref →
      ∀ k p, db.find Tab.payments k = some p → p.providerRef = some ref → Converged k db

/-- **Redelivered results converge in the runs where each that finds its payment paid finds the order past `pending`.** -/
theorem converges_on_return (cfg : Config) (owner : String → Uuid) (e : Execution (platform cfg) (RefsOf owner) fun _ => True)
    (h : ∀ c : Commit cfg, .commit c ∈ e.events → OrderFollows owner c) : ConvergesOnReturn e := by
  have hk : Keeps (S := platform cfg) (RefsOf owner) AnswersLast (fun _ => True) (OrderFollows owner) := fun c _ _ hf hc =>
    ⟨hc.refs, answersLast hf⟩
  have hcommits := e.commits hk (fun _ h => h) h
  have hfollows : ∀ c : Commit cfg, .commit c ∈ e.events → Follows owner c := fun c hc => ⟨(hcommits c hc).2.1, h c hc⟩
  obtain ⟨_, hperformed⟩ := e.run.performed hfollows
  intro call reply db hreturned
  obtain ⟨s₀, hp⟩ := hperformed call (.ok reply) db hreturned
  refine ⟨?_, ?_⟩
  · rintro i rfl
    obtain ⟨res, s₁, hpersist, hpure⟩ := Performs.of_bind_ok hp
    exact (hpure.keeps caughtUp_follows caughtUp_follows (persisted_caughtUp hpersist)).converged
  · rintro query outboxEventId now code message ref rfl rfl hcode href k p hpay hpref
    obtain ⟨ref', href', hrefs, hcaught⟩ := confirmed_caughtUp hp hcode
    cases Option.some.inj (href.symm.trans href')
    rw [hrefs k p ref hpay hpref] at hcaught
    exact hcaught.converged

/-! ### Deliveries that come again -/

/-- Whether a row with this key is the only one of its table that can be there. -/
def onlyKey (k : Uuid) (s : Db) : Bool := (s.rows Tab.payments).entries.all fun e => e.1 == k

theorem refsOf_of_onlyKey {k : Uuid} {s : Db} (h : onlyKey k s = true) : RefsOf (fun _ => k) s := by
  intro k' p ref hp _
  have hmem : (⟨k', p⟩ : Sigma fun _ : Uuid => Payment) ∈ (s.rows Tab.payments).entries := AList.mem_lookup_iff.1 hp
  exact (beq_iff_eq.1 (List.all_eq_true.1 h _ hmem)).symm

/-- Whether the payment, if it is there and paid, has an order that is past `pending`. -/
def followed (k : Uuid) (s : Db) : Bool :=
  (s.find Tab.payments k).all fun p => p.status != .paid || (s.find Tab.orders p.orderId).any fun o => o.status != .pending

theorem orderPast_of_followed {k : Uuid} {s : Db} (h : followed k s = true) {p : Payment} (hp : s.find Tab.payments k = some p)
    (hs : p.status = .paid) : OrderPast p.orderId s := by
  unfold followed at h
  rw [hp, Option.all_some, Bool.or_eq_true, hs] at h
  obtain ⟨o, ho, hpast⟩ := (Option.any_eq_true _ _).1 (h.resolve_left (by decide))
  exact ⟨o, ho, by simpa using hpast⟩

/-- The condition on a commit where all payments are one. -/
def followsFor (k : Uuid) (c : Commit cfg) : Bool :=
  onlyKey k c.after && match c.op with
    | .persistPaymentResult i => i.paymentId == k && followed k c.before
    | .read (.paymentByRef _) => followed k c.before
    | _ => true

theorem orderFollows_of {k : Uuid} {c : Commit cfg} (h : followsFor k c = true) : OrderFollows (fun _ => k) c := by
  unfold followsFor at h
  rw [Bool.and_eq_true] at h
  obtain ⟨hkey, hfollowed⟩ := h
  refine ⟨refsOf_of_onlyKey hkey, fun i p hop hp hs => ?_, fun _ p hop hp hs => ?_⟩
  · rw [hop, Bool.and_eq_true, beq_iff_eq] at hfollowed
    rw [hfollowed.1] at hp
    exact orderPast_of_followed hfollowed.2 hp hs
  · rw [hop] at hfollowed
    exact orderPast_of_followed hfollowed hp hs

/-- The order service hears of the payment, and the result comes again. -/
def deliveredAgain : Execution (platform sampleConfig) (RefsOf fun _ => 10) fun _ => True :=
  .ofSchedule (shopWith sampleOrder)
    (paymentAsked 0 10 .vnpay 1 ++ paymentReported 3 (gatewaySays 10 100 "SUCCESS" "paid" 2) ++
      .arrive (Call.persistPaymentResultTransaction (gatewaySays 10 101 "SUCCESS" "paid" 3)) :: steps 5 2)
    (fun _ _ _ h => nomatch h) fun _ _ => trivial

theorem deliveredAgain_converges : ConvergesOnReturn deliveredAgain :=
  converges_on_return sampleConfig (fun _ => 10) deliveredAgain fun c hc =>
    orderFollows_of (forall_commit (S := platform sampleConfig) (p := followsFor 10) (by decide +kernel) c hc)

/-- The payment service dies after its commit, and the result comes again. -/
def diedBetween : Execution (platform sampleConfig) (RefsOf fun _ => 10) fun _ => True :=
  .ofSchedule (shopWith sampleOrder)
    (paymentAsked 0 10 .vnpay 1 ++
      .arrive (Call.persistPaymentResultTransaction (gatewaySays 10 100 "SUCCESS" "paid" 2)) :: steps 3 1 ++ [.crash 3] ++
      .arrive (Call.persistPaymentResultTransaction (gatewaySays 10 101 "SUCCESS" "paid" 3)) :: steps 4 2)
    (fun _ _ _ h => nomatch h) fun _ _ => trivial

/-- Whether the event is the answer to a result of a paid payment whose order is pending. -/
def answersTooSoon : Event (platform sampleConfig) → Bool
  | .returned (.persistPaymentResultTransaction i) (.ok _) db =>
    (db.find Tab.payments i.paymentId).any fun p => p.status == .paid && (db.find Tab.orders p.orderId).any fun o => o.status == .pending
  | _ => false

theorem diedBetween_diverges : ¬ ConvergesOnReturn diedBetween := by
  intro h
  obtain ⟨ev, hev, hp⟩ := List.any_eq_true.1 (show diedBetween.events.any answersTooSoon = true by decide +kernel)
  unfold answersTooSoon at hp
  split at hp
  · rename_i i reply db
    obtain ⟨p, hpay, hp⟩ := (Option.any_eq_true _ _).1 hp
    rw [Bool.and_eq_true, beq_iff_eq] at hp
    obtain ⟨hpaid, ho⟩ := hp
    obtain ⟨o, ho, hpending⟩ := (Option.any_eq_true _ _).1 ho
    exact (h _ _ _ hev).1 i rfl p o hpay hpaid ho (beq_iff_eq.1 hpending)
  · cases hp

end Balii
