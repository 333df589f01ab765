import Balii.Workflow.RefundIds
/-!
# Workflow.Redelivery — a task that is performed twice

Camunda delivers a task again when its completion is lost, and the handler runs a second time with the same variables.  What it
leaves of the refunds and the events is then what it left the first time, or not, topic by topic.
-/
namespace Balii

open Rowdb Rowdb.System Bpmn Tx Procedure

/-! ## What must not be there twice -/

/-- An event's type, and what it is about. -/
def OutboxEvent.said (e : OutboxEvent) : String × String × String := (e.type, e.aggregateType, e.aggregateId)

/-- How many events say this. -/
def timesSaid (said : String × String × String) (s : Db) : ℤ := (s.rows Tab.outbox).count fun _ e => e.said == said

/-- **The same refunds, and of each kind of event as many.** -/
structure SameRecords (s s' : Db) : Prop where
  refunds : ∀ k, s'.find Tab.refunds k = s.find Tab.refunds k
  events : ∀ said, timesSaid said s' = timesSaid said s

/-- **The tasks that may be performed twice**: what needs a key or an amount in whole hundredths to find its refund again is told apart by
the variables. -/
def Repeatable (topic : Topic) (v : Vars Value) : Prop :=
  match topic with
  | .markExpiredTransaction => False
  | .persistReconciledFailed => (textOf v "gatewayResult").getD "" ≠ "EXPIRED"
  | .createRefundRecord => refundKeyOf v ≠ none ∨ ∃ n : ℤ, (recordedAmount v).hundredths = some (n : ℚ)
  | .persistRefundResultTransaction => False
  | .increaseRetryCount => False
  | .updateRejected => nonEmpty (textOf v "refundId") ≠ none ∨ refundKeyOf v ≠ none
  | .createExchangeRequest => False
  | .updateOrderInventoryExchange => False
  | .refundCompleted => False
  | .refundRejected => False
  | .exchangeCreated => False
  | _ => True

/-! ## Events are never taken back -/

/-- An event that was not there is. -/
def EventAdded (s s' : Db) : Prop := ∃ k e, s.find Tab.outbox k = none ∧ s'.find Tab.outbox k = some e

section
variable {cfg : Config} {s s₁ s' : Db} {α β : Type}

theorem SameRecords.refl (s : Db) : SameRecords s s := ⟨fun _ => rfl, fun _ => rfl⟩

theorem SameRecords.trans (h : SameRecords s s₁) (h' : SameRecords s₁ s') : SameRecords s s' :=
  ⟨fun k => (h'.refunds k).trans (h.refunds k), fun said => (h'.events said).trans (h.events said)⟩

theorem sameRecords_of_rows (hr : s'.rows Tab.refunds = s.rows Tab.refunds) (he : s'.rows Tab.outbox = s.rows Tab.outbox) :
    SameRecords s s' :=
  ⟨fun k => Database.find_of_rows (D := schema) hr k, fun said => by unfold timesSaid; rw [he]⟩

/-- A commit that writes neither of the two tables leaves their records. -/
theorem sameRecords_commit {c : Commit cfg} (hc : c.Alone) (hr : Tab.refunds ∉ c.op.tables) (he : Tab.outbox ∉ c.op.tables) :
    SameRecords c.before c.after :=
  sameRecords_of_rows (rows_of_notMem hc hr) (rows_of_notMem hc he)

theorem plain_tables {op : Op} (h : op.isPlain = true) : Tab.refunds ∉ op.tables ∧ Tab.outbox ∉ op.tables := by
  cases op <;> first | (simp [Op.tables, cancellationTables]; done) | cases h

theorem event_kept {p : Procedure α} {r : Except Err α} (h : Performs (S := platform cfg) (Regime.alone (platform cfg)) p s r s') {k : Uuid}
    {e : OutboxEvent} (he : s.find Tab.outbox k = some e) : s'.find Tab.outbox k = some e :=
  h.keeps (P := fun s : Db => s.find Tab.outbox k = some e) (fun (c : Commit cfg) (hc : c.Alone) he => event_after hc he)
    (fun (_ : Commit cfg) (hc : False) _ => hc.elim) he

theorem not_sameRecords (hkept : ∀ k e, s.find Tab.outbox k = some e → s'.find Tab.outbox k = some e) (h : EventAdded s s') :
    ¬ SameRecords s s' := by
  intro hsame
  obtain ⟨k, e, hnone, hsome⟩ := h
  have hcount := hsame.events e.said
  unfold timesSaid at hcount
  have hothers : (s.rows Tab.outbox).count (fun _ x => x.said == e.said) ≤
      ((s'.rows Tab.outbox).erase k).count fun _ x => x.said == e.said := by
    refine AList.count_mono fun k' x hx _ => ?_
    by_cases hk : k' = k
    · subst hk
      exact absurd (hx.symm.trans hnone) (by simp)
    · rw [AList.lookup_erase_ne hk]
      exact hkept k' x hx
  rw [AList.count_erase hsome, if_pos (beq_self_eq_true _)] at hcount
  omega

/-! ## Programs that announce -/

/-- Where it ends well, the program has announced something. -/
def Speaks (cfg : Config) (p : Procedure α) : Prop :=
  ∀ s b s', Performs (S := platform cfg) (Regime.alone (platform cfg)) p s (.ok b) s' → EventAdded s s'

theorem EventAdded.kept (h : EventAdded s s₁) (hkept : ∀ k e, s₁.find Tab.outbox k = some e → s'.find Tab.outbox k = some e) :
    EventAdded s s' := by
  obtain ⟨k, e, hnone, hsome⟩ := h
  exact ⟨k, e, hnone, hkept k e hsome⟩

theorem speaks_bind {p : Procedure α} {f : α → Procedure β} (h : Speaks cfg p) : Speaks cfg (p >>= f) := by
  intro s b s' hp
  obtain ⟨a, s₁, hfirst, hrest⟩ := Performs.of_bind_ok hp
  exact (h s a s₁ hfirst).kept fun _ _ he => event_kept hrest he

theorem speaks_then {p : Procedure α} {f : α → Procedure β} (h : ∀ a, Speaks cfg (f a)) : Speaks cfg (p >>= f) := by
  intro s b s' hp
  obtain ⟨a, s₁, hfirst, hrest⟩ := Performs.of_bind_ok hp
  obtain ⟨k, e, hnone, hsome⟩ := h a s₁ b s' hrest
  refine ⟨k, e, ?_, hsome⟩
  cases hk : s.find Tab.outbox k with
  | none => rfl
  | some e' => exact absurd ((event_kept hfirst hk).symm.trans hnone) (by simp)

/-- The transactions that announce something whenever they commit. -/
def Op.announces : Op → Bool
  | .markExpired _ => true
  | .persistRefundResult _ => true
  | .insertNotice .. => true
  | _ => false

theorem eventAdded_commit {c : Commit cfg} (hc : c.Alone) (h : c.op.announces = true) : EventAdded c.before c.after := by
  obtain ⟨call, op, s, o⟩ := c
  change EventAdded s (written o.writes s)
  cases op with
  | markExpired i =>
    obtain ⟨hnone, hw⟩ := exec_markExpired hc
    refine ⟨i.outboxEventId, i.event, hnone, ?_⟩
    rw [hw, written_cons, written_cons, written_nil, find_insert, if_pos rfl, find_apply _ _ (by simp [Write.tab?]), hnone]
    rfl
  | persistRefundResult i =>
    obtain ⟨_, _, hr⟩ := exec_persistRefundResult hc
    obtain ⟨hnone, payload, hrows⟩ := hr.event
    refine ⟨i.outboxEventId, i.event (if i.refundResult = "SUCCESS" then "payment.refund.completed" else "payment.refund.failed") payload,
      hnone, ?_⟩
    have hlookup : (s.rows Tab.outbox).lookup i.outboxEventId = none := hnone
    unfold Database.find
    rw [show (written o.writes s).rows Tab.outbox = _ from hrows, AList.lookup_insertNew, if_pos rfl, hlookup]
    rfl
  | insertNotice id n now =>
    obtain ⟨aggregateId, _, hnone, hw⟩ := exec_insertNotice hc
    refine ⟨id, n.event aggregateId now, hnone, ?_⟩
    rw [hw, written_cons, written_nil, find_insert, if_pos rfl, hnone]
    rfl
  | _ => cases h

theorem speaks_trans {op : Op} (h : op.announces = true) : Speaks cfg (trans op) := by
  intro s b s' hp
  obtain ⟨call, o, hc, _, rfl⟩ := Performs.alone_trans_ok hp
  exact eventAdded_commit hc h

end

/-! ## A payment's result -/

section
variable {cfg : Config} {s s₁ s₂ : Db} {v : Vars Value} {env env' : TaskEnv}

/-- The payment is there, and has its answer. -/
def Answered (id : Uuid) (s : Db) : Prop := ∃ p, s.find Tab.payments id = some p ∧ p.status ≠ .pending

theorem answered_commit {c : Commit cfg} (hc : c.Alone) {id : Uuid} (h : Answered id c.before) : Answered id c.after := by
  obtain ⟨p, hp, hnot⟩ := h
  obtain ⟨q, hq, hedit⟩ := payment_edited hc hp
  exact ⟨q, hq, fun hpend => hnot (hedit.pending hpend)⟩

theorem told_sameRecords {orderId : Uuid} {payment : ReportedPayment} {status : Option OrderStatus} {now : Time}
    (h : Told cfg orderId payment status now s s₁) : SameRecords s s₁ := by
  obtain ⟨c, hop, hc, rfl, rfl⟩ := h
  have hplain : c.op.isPlain = true := by
    rw [show c.op = _ from hop]
    rfl
  obtain ⟨hr, he⟩ := plain_tables hplain
  exact sameRecords_commit hc hr he

theorem told_answered {orderId id : Uuid} {payment : ReportedPayment} {status : Option OrderStatus} {now : Time}
    (h : Told cfg orderId payment status now s s₁) (hs : Answered id s) : Answered id s₁ := by
  obtain ⟨c, _, hc, rfl, rfl⟩ := h
  exact answered_commit hc hs

theorem told_of_result {result : PersistedPayment} {now : Time} (h : result.told cfg now s s₁) :
    ∃ payment status, Told cfg result.orderId payment status now s s₁ := by
  unfold PersistedPayment.told at h
  split at h
  · exact ⟨_, _, h⟩
  · exact ⟨_, _, h⟩

theorem finalStatus_ne_pending (i : PaymentResultInput) : i.finalStatus ≠ .pending := by
  unfold PaymentResultInput.finalStatus
  split <;> exact fun h => by cases h

theorem result_commit {call : Call} {i : PaymentResultInput} {o : Outcome (LockKey schema) (Write schema) PersistedPayment}
    (hc : Commit.Alone (S := platform cfg) ⟨call, .persistPaymentResult i, s, o⟩) :
    Answered i.paymentId (written o.writes s) ∧ (Answered i.paymentId s → SameRecords s (written o.writes s)) := by
  obtain ⟨_, payment, vs, _, hpay, _, _, htab, hcases⟩ := exec_persistPaymentResult hc
  have hpay : s.find Tab.payments i.paymentId = some payment := hpay
  have hrest : ∀ t : Tab, t ≠ Tab.webhooks → (written vs s).rows t = s.rows t := fun t ht =>
    rows_written (D := schema) _ fun w hw htw => ht (Option.some.inj (htw.symm.trans (htab w hw)))
  rcases hcases with ⟨hnot, hw, _⟩ | ⟨hpend, _, _, hw, _⟩
  · have hw : o.writes = vs := hw
    rw [hw]
    refine ⟨⟨payment, ?_, hnot⟩, fun _ => sameRecords_of_rows (hrest _ (by decide)) (hrest _ (by decide))⟩
    rw [Database.find_of_rows (D := schema) (hrest Tab.payments (by decide)), hpay]
  · refine ⟨⟨i.settle payment, settle_after hc rfl hpay hpend, finalStatus_ne_pending i⟩, fun ⟨p, hp, hnot⟩ => ?_⟩
    cases Option.some.inj (hp.symm.trans hpay)
    exact absurd hpend hnot

theorem result_performed {i : PaymentResultInput} {a : PersistedPayment}
    (h : Performs (S := platform cfg) (Regime.alone (platform cfg)) (persistPaymentResultTransaction i) s (.ok a) s₁) :
    Answered i.paymentId s₁ ∧ (Answered i.paymentId s → SameRecords s s₁) := by
  rcases alone_persistPaymentResult h with ⟨_, e, he⟩ | ⟨call, o, hc, hor, _⟩
  · cases he
  · obtain ⟨hanswered, hsame⟩ := result_commit hc
    rcases hor with ⟨_, htold⟩ | ⟨rfl, _⟩
    · obtain ⟨_, _, htold⟩ := told_of_result htold
      exact ⟨told_answered htold hanswered, fun hs => (hsame hs).trans (told_sameRecords htold)⟩
    · exact ⟨hanswered, hsame⟩

/-- A task that records a payment's result, for the payment among its variables. -/
def RecordsResult (v : Vars Value) (p : Procedure (List (String × Value))) : Prop :=
  ∃ (i : Uuid → Uuid → PaymentResultInput), (∀ k o, (i k o).paymentId = k) ∧ p = (do
    let paymentId ← uuidOf (textOf v "paymentId")
    let orderId ← canonicalOrderId v
    let result ← persistPaymentResultTransaction (i paymentId orderId)
    pure (persistedOut result))

theorem recordsResult_performed {p : Procedure (List (String × Value))} {out : List (String × Value)} (hp : RecordsResult v p)
    (h : Performs (S := platform cfg) (Regime.alone (platform cfg)) p s (.ok out) s₁) :
    ∃ id, paymentIdOf v = some id ∧ Answered id s₁ ∧ (Answered id s → SameRecords s s₁) := by
  obtain ⟨i, hi, rfl⟩ := hp
  obtain ⟨id, s₀, hneed, htail⟩ := Performs.of_bind_ok h
  obtain ⟨hs₀, hid⟩ := Performs.alone_need_ok hneed
  rw [hs₀] at htail
  obtain ⟨orderId, s₃, horder, htail₁⟩ := Performs.of_bind_ok htail
  have hs₃ : s₃ = s := by
    obtain ⟨_, _, hneed₁, htail₂⟩ := Performs.of_bind_ok horder
    obtain ⟨rfl, _⟩ := Performs.alone_need_ok hneed₁
    obtain ⟨_, _, hensure, hdone⟩ := Performs.of_bind_ok htail₂
    obtain ⟨rfl, _⟩ := Performs.alone_ensure hensure
    exact (Performs.alone_done_ok hdone).1
  subst hs₃
  obtain ⟨result, _, hresult, hdone⟩ := Performs.of_bind_ok htail₁
  obtain ⟨rfl, _⟩ := Performs.alone_done_ok hdone
  have hperformed := result_performed hresult
  rw [hi] at hperformed
  exact ⟨id, hid, hperformed⟩

/-- **A result that is recorded again changes nothing more.** -/
theorem recordsResult_twice {p p' : Procedure (List (String × Value))} {out out' : List (String × Value)} (hp : RecordsResult v p)
    (hp' : RecordsResult v p') (h : Performs (S := platform cfg) (Regime.alone (platform cfg)) p s (.ok out) s₁)
    (h' : Performs (S := platform cfg) (Regime.alone (platform cfg)) p' s₁ (.ok out') s₂) : SameRecords s₁ s₂ := by
  obtain ⟨id, hid, hanswered, _⟩ := recordsResult_performed hp h
  obtain ⟨id', hid', _, hsame⟩ := recordsResult_performed hp' h'
  obtain rfl : id = id' := Option.some.inj (hid.symm.trans hid')
  exact hsame hanswered

end

/-! ## Refunds that are found again -/

section
variable {cfg : Config} {s s₁ s₂ : Db} {v : Vars Value} {out out' : List (String × Value)} {paymentId : Uuid} {amount : ℚ}
  {key : Option RefundKey}

theorem checkRefundIdempotency_none : checkRefundIdempotency paymentId amount key s = none ↔
    ∀ k r, s.find Tab.refunds k = some r → r.answers paymentId amount key = false := by
  unfold checkRefundIdempotency
  rw [List.head?_eq_none_iff, List.eq_nil_iff_forall_not_mem]
  constructor
  · intro h k r hr
    by_contra hanswers
    exact h (k, r) (mem_newestFirst.2 (AList.mem_select.2 ⟨hr, eq_true_of_ne_false hanswers⟩))
  · intro h e he
    obtain ⟨hr, hanswers⟩ := AList.mem_select.1 (mem_newestFirst.1 he)
    rw [h e.1 e.2 hr] at hanswers
    cases hanswers

theorem checkRefundIdempotency_some {e : Uuid × Refund} (h : checkRefundIdempotency paymentId amount key s = some e) :
    s.find Tab.refunds e.1 = some e.2 ∧ e.2.answers paymentId amount key = true :=
  AList.mem_select.1 (mem_newestFirst.1 (List.mem_of_mem_head? h))

/-- Commits to the refunds leave the events. -/
theorem sameRecords_of_refunds {ws : List (Write schema)} (hr : ∀ k, (written ws s).find Tab.refunds k = s.find Tab.refunds k)
    (hws : ∀ w ∈ ws, w.tab? = some Tab.refunds) : SameRecords s (written ws s) := by
  refine ⟨hr, fun said => ?_⟩
  unfold timesSaid
  rw [rows_written (D := schema) (t := Tab.outbox) s fun w hw ht => by cases (hws w hw).symm.trans ht]

/-! ### The record -/

theorem createRefundRecord_writes {call : Call} {n : NewRefund} {o : Outcome (LockKey schema) (Write schema) RefundRecord}
    (hc : Commit.Alone (S := platform cfg) ⟨call, .createRefundRecord n, s, o⟩) :
    (checkRefundIdempotency n.paymentId n.amount n.idempotencyKey s ≠ none ∧ o.writes = []) ∨
      (checkRefundIdempotency n.paymentId n.amount n.idempotencyKey s = none ∧ s.find Tab.refunds n.id = none ∧
        o.writes = [.insert Tab.refunds n.id n.row]) := by
  have h : Exec _ (createRefundRecord n) s [] [] o := hc
  unfold createRefundRecord at h
  simp only [exec_bind, exec_ensure] at h
  obtain ⟨_, ⟨_, rfl⟩, _, ⟨_, rfl⟩, _, h1, h⟩ := h
  obtain ⟨payment, _, rfl⟩ := Sql.exec_fetchJoin h1
  obtain ⟨_, ⟨s₁, hs₁, rfl⟩, h⟩ := h
  obtain rfl : s₁ = s := rely_alone (S := platform cfg) hs₁
  split at h
  · rename_i e hfound
    cases h
    exact .inl ⟨fun hnone => (by cases hfound.symm.trans hnone), rfl⟩
  · rename_i hfound
    simp only [openRefund, exec_bind, exec_ensure, Sql.exec_select, exec_pure] at h
    obtain ⟨_, ⟨_, rfl⟩, _, ⟨_, _, rfl⟩, _, ⟨_, rfl⟩, m, hm, rfl⟩ := h
    obtain ⟨_, hnone, _, hw⟩ := exec_insertRefund hm
    exact .inr ⟨hfound, hnone, by rw [hw]; rfl⟩

theorem NewRefund.row_answers (n : NewRefund) :
    n.row.answers n.paymentId n.amount n.idempotencyKey = true ↔ n.idempotencyKey ≠ none ∨ ((numeric n.amount : ℤ) : ℚ) = n.amount := by
  unfold Refund.answers NewRefund.row
  cases n.idempotencyKey <;> simp

theorem performs_createRefundRecord {env : TaskEnv}
    (h : Performs (S := platform cfg) (Regime.alone (platform cfg)) (createRefundRecordTask v env) s (.ok out) s₁) :
    ∃ call n o, paymentIdOf v = some n.paymentId ∧ (recordedAmount v).hundredths = some n.amount ∧ n.idempotencyKey = refundKeyOf v ∧
      Commit.Alone (S := platform cfg) ⟨call, .createRefundRecord n, s, o⟩ ∧ s₁ = written o.writes s := by
  obtain ⟨paymentId, _, hneed, htail⟩ := Performs.of_bind_ok h
  obtain ⟨rfl, hpayment⟩ := Performs.alone_need_ok hneed
  obtain ⟨amount, _, hneed₁, htail₁⟩ := Performs.of_bind_ok htail
  obtain ⟨rfl, hamount⟩ := Performs.alone_need_ok hneed₁
  obtain ⟨record, _, htrans, hdone⟩ := Performs.of_bind_ok htail₁
  obtain ⟨call, o, hc, _, rfl⟩ := Performs.alone_trans_ok htrans
  obtain ⟨rfl, _⟩ := Performs.alone_done_ok hdone
  exact ⟨call, _, o, hpayment, hamount, rfl, hc, rfl⟩

/-- **A refund is recorded once for a request with a key, or with an amount in whole hundredths**, and else every time anew. -/
theorem recorded_twice {env env' : TaskEnv}
    (h : Performs (S := platform cfg) (Regime.alone (platform cfg)) (createRefundRecordTask v env) s (.ok out) s₁)
    (h' : Performs (S := platform cfg) (Regime.alone (platform cfg)) (createRefundRecordTask v env') s₁ (.ok out') s₂) :
    SameRecords s₁ s₂ ↔ Repeatable .createRefundRecord v := by
  obtain ⟨_, n, o, hpayment, hamount, hkey, hc, rfl⟩ := performs_createRefundRecord h
  obtain ⟨_, n', o', hpayment', hamount', hkey', hc', rfl⟩ := performs_createRefundRecord h'
  have hid : n'.paymentId = n.paymentId := Option.some.inj (hpayment'.symm.trans hpayment)
  have hsum : n'.amount = n.amount := Option.some.inj (hamount'.symm.trans hamount)
  have hsame : n'.idempotencyKey = n.idempotencyKey := hkey'.trans hkey.symm
  have hrepeat : Repeatable .createRefundRecord v ↔ n.row.answers n.paymentId n.amount n.idempotencyKey = true := by
    rw [NewRefund.row_answers, hkey]
    refine or_congr_right ⟨fun ⟨m, hm⟩ => ?_, fun hm => ⟨numeric n.amount, by rw [hm, hamount]⟩⟩
    rw [Option.some.inj (hamount.symm.trans hm), numeric_intCast]
  rw [hrepeat]
  have hcases := createRefundRecord_writes hc'
  rw [hid, hsum, hsame] at hcases
  constructor
  · intro hrecords
    by_contra hnot
    have hnone : checkRefundIdempotency n.paymentId n.amount n.idempotencyKey (written o.writes s) = none := by
      rw [NewRefund.row_answers, not_or, not_not] at hnot
      rw [checkRefundIdempotency_none]
      intro k r _
      unfold Refund.answers
      rw [hnot.1]
      have hne : (r.amount : ℚ) ≠ n.amount := by
        intro heq
        rw [← heq, numeric_intCast] at hnot
        exact hnot.2 rfl
      simp [hne]
    rcases hcases with ⟨hsome, _⟩ | ⟨_, hfree, hw⟩
    · exact hsome hnone
    · have hafter := hrecords.refunds n'.id
      rw [hw, written_cons, written_nil, find_insert, if_pos rfl, hfree] at hafter
      cases hafter
  · intro hanswers
    have hsome : checkRefundIdempotency n.paymentId n.amount n.idempotencyKey (written o.writes s) ≠ none := by
      rcases createRefundRecord_writes hc with ⟨hfound, hw⟩ | ⟨_, hfree, hw⟩
      · rw [hw]
        exact hfound
      · intro hnone
        have hrow : (written o.writes s).find Tab.refunds n.id = some n.row := by
          rw [hw, written_cons, written_nil, find_insert, if_pos rfl, hfree]
          rfl
        rw [checkRefundIdempotency_none.1 hnone n.id n.row hrow] at hanswers
        cases hanswers
    rcases hcases with ⟨_, hw⟩ | ⟨hnone, _⟩
    · rw [hw]
      exact .refl _
    · exact absurd hnone hsome

/-! ### The call of the gateway, and the retries -/

theorem requestGatewayRefund_writes {call : Call} {id : Uuid} {ref : String} {o : Outcome (LockKey schema) (Write schema) Unit}
    (hc : Commit.Alone (S := platform cfg) ⟨call, .requestGatewayRefund id ref, s, o⟩) :
    (s.find Tab.refunds id = none ∧ o.writes = []) ∨ o.writes = [.update Tab.refunds id fun r =>
      { r with providerRefundId := r.providerRefundId.or (some ref), gatewayStatus := some "REQUESTED" }] := by
  have h : Exec _ (requestGatewayRefund id ref) s [] [] o := hc
  unfold requestGatewayRefund at h
  rw [exec_bind] at h
  obtain ⟨m, hm, h⟩ := h
  have hw : o.writes = m.writes := by
    split at h
    · cases h
      rfl
    · exact exec_uniqueIn h
  rw [hw]
  rcases Sql.exec_updateWhere hm with ⟨_, hm, _, hnone⟩ | ⟨r, _, _, rfl⟩
  · refine .inl ⟨?_, hm⟩
    have hany : (s.find Tab.refunds id).any (fun _ => true) = false := by
      rcases hnone with hnone | ⟨s₀, hs₀, hnone⟩
      · exact hnone
      · obtain rfl : s₀ = s := rely_alone (S := platform cfg) hs₀
        exact hnone
    cases hr : s.find Tab.refunds id with
    | none => rfl
    | some r =>
      rw [hr] at hany
      cases hany
  · exact .inr rfl

theorem performs_callGatewayApi {env : TaskEnv}
    (h : Performs (S := platform cfg) (Regime.alone (platform cfg)) (callGatewayApiTask cfg v env) s (.ok out) s₁) :
    ∃ call id ref o, refundIdOf v = some id ∧ Commit.Alone (S := platform cfg) ⟨call, .requestGatewayRefund id ref, s, o⟩ ∧
      s₁ = written o.writes s := by
  obtain ⟨id, _, hneed, htail⟩ := Performs.of_bind_ok h
  obtain ⟨rfl, hid⟩ := Performs.alone_need_ok hneed
  obtain ⟨_, _, hcall, hdone⟩ := Performs.of_bind_ok htail
  obtain ⟨rfl, _⟩ := Performs.alone_done_ok hdone
  obtain ⟨_, _, hensure, htail₁⟩ := Performs.of_bind_ok hcall
  obtain ⟨rfl, _⟩ := Performs.alone_ensure hensure
  obtain ⟨_, _, htrans, hdone₁⟩ := Performs.of_bind_ok htail₁
  obtain ⟨call, o, hc, _, rfl⟩ := Performs.alone_trans_ok htrans
  obtain ⟨rfl, _⟩ := Performs.alone_done_ok hdone₁
  exact ⟨call, id, _, o, hid, hc, rfl⟩

theorem called_twice {env env' : TaskEnv}
    (h : Performs (S := platform cfg) (Regime.alone (platform cfg)) (callGatewayApiTask cfg v env) s (.ok out) s₁)
    (h' : Performs (S := platform cfg) (Regime.alone (platform cfg)) (callGatewayApiTask cfg v env') s₁ (.ok out') s₂) :
    SameRecords s₁ s₂ := by
  obtain ⟨_, id, ref, o, hid, hc, rfl⟩ := performs_callGatewayApi h
  obtain ⟨_, id', ref', o', hid', hc', rfl⟩ := performs_callGatewayApi h'
  obtain rfl : id = id' := Option.some.inj (hid.symm.trans hid')
  rcases requestGatewayRefund_writes hc' with ⟨_, hw⟩ | hw'
  · rw [hw]
    exact .refl _
  · rw [hw']
    refine sameRecords_of_refunds (fun k => ?_) fun w hw => by rw [List.mem_singleton.1 hw]; rfl
    rw [written_cons, written_nil, find_update]
    split
    · rename_i hk
      subst hk
      rcases requestGatewayRefund_writes hc with ⟨hnone, hw⟩ | hw
      · rw [hw, written_nil, hnone]
        rfl
      · rw [hw, written_cons, written_nil, find_update, if_pos rfl]
        cases s.find Tab.refunds k with
        | none => rfl
        | some r => cases hp : r.providerRefundId <;> simp [hp]
    · rfl

theorem performs_increaseRetryCount {env : TaskEnv}
    (h : Performs (S := platform cfg) (Regime.alone (platform cfg)) (increaseRetryCountTask cfg v env) s (.ok out) s₁) :
    ¬ SameRecords s s₁ := by
  obtain ⟨id, _, hneed, htail⟩ := Performs.of_bind_ok h
  obtain ⟨rfl, _⟩ := Performs.alone_need_ok hneed
  obtain ⟨count, _, htrans, hdone⟩ := Performs.of_bind_ok htail
  obtain ⟨call, o, hc, rfl, rfl⟩ := Performs.alone_trans_ok htrans
  obtain ⟨rfl, _⟩ := Performs.alone_done_ok hdone
  obtain ⟨r, hr, _⟩ := exec_increaseRetry_val hc
  intro hsame
  have hafter := hsame.refunds id
  change (written o.writes _).find Tab.refunds id = _ at hafter
  rw [exec_increaseRetry hc, written_cons, written_nil, find_update, if_pos rfl, hr] at hafter
  have hcount := congrArg Refund.retryCount (Option.some.inj hafter)
  change r.retryCount + 1 = r.retryCount at hcount
  omega

/-! ### The rejection -/

/-- The refund that a process names. -/
def namedRefundId (v : Vars Value) : Option Uuid := (nonEmpty (textOf v "refundId")).bind Uuid.ofText

theorem performs_namedRefund {named : Option Uuid}
    (h : Performs (S := platform cfg) (Regime.alone (platform cfg)) (namedRefund v) s (.ok named) s₁) :
    s₁ = s ∧ named = namedRefundId v ∧ (named = none ↔ nonEmpty (textOf v "refundId") = none) := by
  unfold namedRefund at h
  unfold namedRefundId
  split at h
  · rename_i hnone
    obtain ⟨rfl, rfl⟩ := Performs.alone_done_ok h
    rw [hnone]
    exact ⟨rfl, rfl, by simp⟩
  · rename_i text htext
    obtain ⟨id, _, hneed, hdone⟩ := Performs.of_bind_ok h
    obtain ⟨rfl, hid⟩ := Performs.alone_need_ok hneed
    obtain ⟨rfl, rfl⟩ := Performs.alone_done_ok hdone
    rw [htext]
    exact ⟨rfl, hid.symm, by simp⟩

/-- The refund that a rejection is about, when there is one. -/
def RefundRejection.target (i : RefundRejection) (s : Db) : Option Uuid :=
  i.refundId.or ((checkRefundIdempotency i.paymentId i.amount i.idempotencyKey s).map Prod.fst)

/-- What a rejection leaves: the refund that stands for the request, rejected, or a new one. -/
def RefundRejection.Leaves (i : RefundRejection) (s s' : Db) : Prop :=
  match i.target s with
  | some id => s' = written [.update Tab.refunds id (Refund.reject i)] s
  | none => s.find Tab.refunds i.newId = none ∧ s' = written [.insert Tab.refunds i.newId i.row] s

theorem performs_rejectedRefund {i : RefundRejection} {target : Option Uuid}
    (h : Performs (S := platform cfg) (Regime.alone (platform cfg)) (rejectedRefund i) s (.ok target) s₁) :
    s₁ = s ∧ target = i.target s := by
  unfold rejectedRefund at h
  unfold RefundRejection.target
  split at h
  · rename_i id hid
    obtain ⟨rfl, rfl⟩ := Performs.alone_done_ok h
    rw [hid]
    exact ⟨rfl, rfl⟩
  · rename_i hnone
    obtain ⟨existing, _, hread, hdone⟩ := Performs.of_bind_ok h
    obtain ⟨rfl, rfl⟩ := alone_read_ok hread
    obtain ⟨rfl, rfl⟩ := Performs.alone_done_ok hdone
    rw [hnone, Option.none_or]
    exact ⟨rfl, rfl⟩

theorem performs_rejectRefundRequest {i : RefundRejection} {rejected : Uuid}
    (h : Performs (S := platform cfg) (Regime.alone (platform cfg)) (rejectRefundRequest i) s (.ok rejected) s₁) : i.Leaves s s₁ := by
  obtain ⟨target, s₀, htarget, hwrite⟩ := Performs.of_bind_ok h
  obtain ⟨hs₀, ht⟩ := performs_rejectedRefund htarget
  subst hs₀
  unfold RefundRejection.Leaves
  rw [← ht]
  cases target with
  | some id =>
    obtain ⟨_, _, htrans, hdone⟩ := Performs.of_bind_ok hwrite
    obtain ⟨call, o, hc, _, rfl⟩ := Performs.alone_trans_ok htrans
    obtain ⟨rfl, _⟩ := Performs.alone_done_ok hdone
    have hw : o.writes = [.update Tab.refunds id (Refund.reject i)] := congrArg Outcome.writes hc
    rw [hw]
    rfl
  | none =>
    obtain ⟨_, _, htrans, hdone⟩ := Performs.of_bind_ok hwrite
    obtain ⟨call, o, hc, _, rfl⟩ := Performs.alone_trans_ok htrans
    obtain ⟨rfl, _⟩ := Performs.alone_done_ok hdone
    obtain ⟨_, hfree, _, hw⟩ := exec_insertRefund hc
    have hw : o.writes = [.insert Tab.refunds i.newId i.row] := hw
    rw [hw]
    exact ⟨hfree, rfl⟩

theorem performs_updateRejected {env : TaskEnv}
    (h : Performs (S := platform cfg) (Regime.alone (platform cfg)) (updateRejectedTask v env) s (.ok out) s₁) :
    ∃ paymentId amount, paymentIdOf v = some paymentId ∧ (rejectedAmount v).hundredths = some amount ∧
      (namedRefundId v = none ↔ nonEmpty (textOf v "refundId") = none) ∧
        (rejectionOf v env paymentId amount (namedRefundId v)).Leaves s s₁ := by
  obtain ⟨named, _, hnamed, htail⟩ := Performs.of_bind_ok h
  obtain ⟨rfl, rfl, hiff⟩ := performs_namedRefund hnamed
  obtain ⟨paymentId, _, hneed, htail₁⟩ := Performs.of_bind_ok htail
  obtain ⟨rfl, hpayment⟩ := Performs.alone_need_ok hneed
  obtain ⟨amount, _, hneed₁, htail₂⟩ := Performs.of_bind_ok htail₁
  obtain ⟨rfl, hamount⟩ := Performs.alone_need_ok hneed₁
  obtain ⟨rejected, _, hreject, hdone⟩ := Performs.of_bind_ok htail₂
  obtain ⟨rfl, _⟩ := Performs.alone_done_ok hdone
  exact ⟨paymentId, amount, hpayment, hamount, hiff, performs_rejectRefundRequest hreject⟩

/-- A rejection of the same request: only the time and the id of a new row are others. -/
structure RefundRejection.Again (i i' : RefundRejection) : Prop where
  refundId : i'.refundId = i.refundId
  paymentId : i'.paymentId = i.paymentId
  amount : i'.amount = i.amount
  idempotencyKey : i'.idempotencyKey = i.idempotencyKey
  rejectionReason : i'.rejectionReason = i.rejectionReason
  adminNote : i'.adminNote = i.adminNote

section
variable {i i' : RefundRejection}

theorem RefundRejection.Again.failureReason (h : i.Again i') : i'.failureReason = i.failureReason := by
  unfold RefundRejection.failureReason
  rw [h.rejectionReason, h.adminNote]

theorem RefundRejection.Again.reject (h : i.Again i') (r : Refund) : (r.reject i).reject i' = r.reject i := by
  unfold Refund.reject
  rw [h.failureReason, h.adminNote]

theorem RefundRejection.Again.reject_row (h : i.Again i') : i.row.reject i' = i.row := by
  unfold Refund.reject RefundRejection.row
  rw [h.failureReason, h.adminNote]

theorem RefundRejection.Again.target (h : i.Again i') (s : Db) : i'.target s = i.target s := by
  unfold RefundRejection.target
  rw [h.refundId, h.paymentId, h.amount, h.idempotencyKey]

/-- The refund of a key is found again after it is rejected. -/
theorem checkRefundIdempotency_reject {k : RefundKey} (id : Uuid) : checkRefundIdempotency paymentId amount (some k)
    (written [.update Tab.refunds id (Refund.reject i)] s) = (checkRefundIdempotency paymentId amount (some k) s).map
      fun e => if e.1 = id then (e.1, e.2.reject i) else e := by
  have hselect := AList.select_modify (t := s.rows Tab.refunds) (p := fun _ r => r.answers paymentId amount (some k)) (k := id)
    (f := Refund.reject i) fun _ _ => rfl
  unfold checkRefundIdempotency
  rw [written_cons, written_nil, rows_update, hselect, newestFirst_map fun e => by split <;> rfl, List.head?_map]

theorem target_reject (id : Uuid) (h : i.refundId ≠ none ∨ i.idempotencyKey ≠ none) :
    i.target (written [.update Tab.refunds id (Refund.reject i)] s) = i.target s := by
  unfold RefundRejection.target
  cases hid : i.refundId with
  | some _ => rfl
  | none =>
    cases hkey : i.idempotencyKey with
    | none => simp [hid, hkey] at h
    | some k =>
      rw [checkRefundIdempotency_reject, Option.map_map]
      congr 2
      funext e
      simp only [Function.comp_apply]
      split <;> rfl

theorem target_insert (h : i.idempotencyKey ≠ none) (hnone : i.target s = none) (hfree : s.find Tab.refunds i.newId = none) :
    i.target (written [.insert Tab.refunds i.newId i.row] s) = some i.newId := by
  unfold RefundRejection.target at hnone ⊢
  obtain ⟨hid, hcheck⟩ := Option.or_eq_none_iff.1 hnone
  rw [Option.map_eq_none_iff, checkRefundIdempotency_none] at hcheck
  rw [hid, Option.none_or]
  have hrow : ∀ k, (written [.insert Tab.refunds i.newId i.row] s).find Tab.refunds k =
      if k = i.newId then some i.row else s.find Tab.refunds k := by
    intro k
    rw [written_cons, written_nil, find_insert]
    split
    · rename_i hk
      rw [hk, hfree]
      rfl
    · rfl
  cases hfound : checkRefundIdempotency i.paymentId i.amount i.idempotencyKey (written [.insert Tab.refunds i.newId i.row] s) with
  | none =>
    have hanswers := checkRefundIdempotency_none.1 hfound i.newId i.row (by rw [hrow, if_pos rfl])
    obtain ⟨k, hk⟩ := Option.ne_none_iff_exists'.1 h
    simp [Refund.answers, RefundRejection.row, hk] at hanswers
  | some e =>
    obtain ⟨hfind, hanswers⟩ := checkRefundIdempotency_some hfound
    rw [hrow] at hfind
    split at hfind
    · rename_i he
      rw [Option.map_some, he]
    · rw [hcheck e.1 e.2 hfind] at hanswers
      cases hanswers

/-- **A request that names its refund, or has a key, is rejected once.** -/
theorem leaves_twice (hagain : i.Again i') (h : i.refundId ≠ none ∨ i.idempotencyKey ≠ none) (h₁ : i.Leaves s s₁)
    (h₂ : i'.Leaves s₁ s₂) : SameRecords s₁ s₂ := by
  have hupdate : ∀ id : Uuid, i'.target s₁ = some id → (s₁.find Tab.refunds id).map (Refund.reject i') = s₁.find Tab.refunds id →
      SameRecords s₁ s₂ := by
    intro id htarget hkept
    unfold RefundRejection.Leaves at h₂
    rw [htarget] at h₂
    dsimp only at h₂
    rw [h₂]
    refine sameRecords_of_refunds (fun k => ?_) fun w hw => by rw [List.mem_singleton.1 hw]; rfl
    rw [written_cons, written_nil, find_update]
    split
    · rename_i hk
      rw [hk, hkept]
    · rfl
  unfold RefundRejection.Leaves at h₁
  cases ht : i.target s with
  | some id =>
    rw [ht] at h₁
    dsimp only at h₁
    refine hupdate id ?_ ?_
    · rw [hagain.target, h₁, target_reject id h, ht]
    · rw [h₁, written_cons, written_nil, find_update, if_pos rfl, Option.map_map]
      congr 1
      funext r
      exact hagain.reject r
  | none =>
    rw [ht] at h₁
    obtain ⟨hfree, h₁⟩ := h₁
    have hkey : i.idempotencyKey ≠ none := by
      rcases h with hid | hkey
      · exact absurd (Option.or_eq_none_iff.1 ht).1 hid
      · exact hkey
    refine hupdate i.newId ?_ ?_
    · rw [hagain.target, h₁, target_insert hkey ht hfree]
    · rw [h₁, written_cons, written_nil, find_insert, if_pos rfl, hfree]
      exact congrArg some hagain.reject_row

/-- A request without either rejects another refund each time. -/
theorem leaves_changes (hid : i.refundId = none) (hkey : i.idempotencyKey = none) (h : i.Leaves s s₁) : ¬ SameRecords s s₁ := by
  intro hsame
  unfold RefundRejection.Leaves at h
  cases ht : i.target s with
  | some id =>
    rw [ht] at h
    dsimp only at h
    unfold RefundRejection.target at ht
    rw [hid, Option.none_or, hkey] at ht
    obtain ⟨e, he, rfl⟩ := Option.map_eq_some_iff.1 ht
    obtain ⟨hfind, hanswers⟩ := checkRefundIdempotency_some he
    have hafter := hsame.refunds e.1
    rw [h, written_cons, written_nil, find_update, if_pos rfl, hfind] at hafter
    have hstatus : e.2.status = .failed := (congrArg Refund.status (Option.some.inj hafter)).symm
    simp [Refund.answers, hstatus] at hanswers
  | none =>
    rw [ht] at h
    obtain ⟨hfree, h⟩ := h
    have hafter := hsame.refunds i.newId
    rw [h, written_cons, written_nil, find_insert, if_pos rfl, hfree] at hafter
    cases hafter

end

theorem rejected_twice {env env' : TaskEnv}
    (h : Performs (S := platform cfg) (Regime.alone (platform cfg)) (updateRejectedTask v env) s (.ok out) s₁)
    (h' : Performs (S := platform cfg) (Regime.alone (platform cfg)) (updateRejectedTask v env') s₁ (.ok out') s₂) :
    SameRecords s₁ s₂ ↔ Repeatable .updateRejected v := by
  obtain ⟨paymentId, amount, hpayment, hamount, hiff, hleaves⟩ := performs_updateRejected h
  obtain ⟨paymentId', amount', hpayment', hamount', _, hleaves'⟩ := performs_updateRejected h'
  obtain rfl : paymentId = paymentId' := Option.some.inj (hpayment.symm.trans hpayment')
  obtain rfl : amount = amount' := Option.some.inj (hamount.symm.trans hamount')
  have hrepeat : Repeatable .updateRejected v ↔ namedRefundId v ≠ none ∨ refundKeyOf v ≠ none := or_congr_left (not_congr hiff.symm)
  rw [hrepeat]
  constructor
  · intro hsame
    by_contra hnot
    rw [not_or, not_not, not_not] at hnot
    exact leaves_changes hnot.1 hnot.2 hleaves' hsame
  · have hagain : (rejectionOf v env paymentId amount (namedRefundId v)).Again (rejectionOf v env' paymentId amount (namedRefundId v)) :=
      ⟨rfl, rfl, rfl, rfl, rfl, rfl⟩
    exact fun hor => leaves_twice hagain hor hleaves hleaves'

end

/-! ## Every topic -/

section
variable {cfg : Config} {v : Vars Value} {s s₁ s₂ : Db} {out out' : List (String × Value)}

theorem plain_sameRecords {topic : Topic} (ht : topic ∈ plainTopics) (h : serveTask cfg topic v s out s₁) : SameRecords s s₁ := by
  obtain ⟨_, env, hp⟩ := h
  refine hp.uses_keeps (A := fun op : Op => op.isPlain = true) (B := Call.toOrderService) (P := SameRecords s)
    (uses_orderService (fun _ h => h) cfg) (fun c hop hc hs => hs.trans ?_) (plain_uses (fun _ h => h) cfg ht v env) (.refl s)
  obtain ⟨hr, he⟩ := plain_tables hop
  exact sameRecords_commit hc hr he

/-- Who announces something does not leave the same records. -/
theorem Speaks.changes {topic : Topic} (h : ∀ env, Speaks cfg (handler cfg topic v env)) (hs : serveTask cfg topic v s out s₁) :
    ¬ SameRecords s s₁ := by
  obtain ⟨_, env, hp⟩ := hs
  exact not_sameRecords (fun _ _ he => event_kept hp he) (h env s out s₁ hp)

theorem speaks_markExpired (env : TaskEnv) : Speaks cfg (markExpiredTransactionTask v env) :=
  speaks_then fun _ => speaks_then fun _ => speaks_bind (speaks_bind (speaks_trans rfl))

theorem recordsResult_reconciled (paymentResult gatewayResult : String) (env : TaskEnv) :
    RecordsResult v (persistReconciledTask paymentResult gatewayResult v env) := ⟨_, fun _ _ => rfl, rfl⟩

end

/-- **A task that is performed again leaves the refunds and the events as they were exactly where it may be repeated.** -/
theorem redelivered_iff (cfg : Config) (topic : Topic) (v : Vars Value) {s s₁ s₂ : Db} {out out' : List (String × Value)}
    (h : serveTask cfg topic v s out s₁) (h' : serveTask cfg topic v s₁ out' s₂) : SameRecords s₁ s₂ ↔ Repeatable topic v := by
  have hspeaks : (∀ env, Speaks cfg (handler cfg topic v env)) → (SameRecords s₁ s₂ ↔ False) :=
    fun hall => iff_false_intro (Speaks.changes hall h')
  cases topic with
  | markExpiredTransaction => exact hspeaks speaks_markExpired
  | createExchangeRequest => exact hspeaks fun _ => speaks_bind (speaks_bind (speaks_trans rfl))
  | updateOrderInventoryExchange => exact hspeaks fun _ => speaks_bind (speaks_bind (speaks_trans rfl))
  | refundRejected => exact hspeaks fun _ => speaks_bind (speaks_bind (speaks_trans rfl))
  | exchangeCreated => exact hspeaks fun _ => speaks_bind (speaks_bind (speaks_trans rfl))
  | refundCompleted =>
    exact hspeaks fun _ => speaks_then fun _ => speaks_bind (speaks_then fun _ => speaks_then fun _ => speaks_bind (speaks_trans rfl))
  | persistRefundResultTransaction =>
    exact hspeaks fun _ => speaks_then fun _ => speaks_then fun _ => speaks_bind (speaks_trans rfl)
  | increaseRetryCount =>
    obtain ⟨_, env, hp⟩ := h'
    have hcounts : Performs (S := platform cfg) (Regime.alone (platform cfg)) (increaseRetryCountTask cfg v env) s₁ (.ok out') s₂ := hp
    exact iff_false_intro (performs_increaseRetryCount hcounts)
  | createRefundRecord =>
    obtain ⟨_, env, hp⟩ := h
    obtain ⟨_, env', hp'⟩ := h'
    exact recorded_twice hp hp'
  | updateRejected =>
    obtain ⟨_, env, hp⟩ := h
    obtain ⟨_, env', hp'⟩ := h'
    exact rejected_twice hp hp'
  | callGatewayApi =>
    obtain ⟨_, env, hp⟩ := h
    obtain ⟨_, env', hp'⟩ := h'
    exact iff_true_intro (called_twice hp hp')
  | persistResultTransaction =>
    obtain ⟨_, env, hp⟩ := h
    obtain ⟨_, env', hp'⟩ := h'
    exact iff_true_intro (recordsResult_twice ⟨_, fun _ _ => rfl, rfl⟩ ⟨_, fun _ _ => rfl, rfl⟩ hp hp')
  | persistReconciledSuccess =>
    obtain ⟨_, env, hp⟩ := h
    obtain ⟨_, env', hp'⟩ := h'
    exact iff_true_intro (recordsResult_twice (recordsResult_reconciled _ _ env) (recordsResult_reconciled _ _ env') hp hp')
  | persistReconciledFailed =>
    by_cases hexpired : (textOf v "gatewayResult").getD "" = "EXPIRED"
    · have hnot : ¬ Repeatable .persistReconciledFailed v := fun hrepeat => hrepeat hexpired
      refine (hspeaks fun env => ?_).trans (iff_false_intro hnot).symm
      change Speaks cfg (persistReconciledFailedTask v env)
      unfold persistReconciledFailedTask
      dsimp only
      rw [if_pos hexpired]
      exact speaks_bind (speaks_markExpired env)
    · obtain ⟨_, env, hp⟩ := h
      obtain ⟨_, env', hp'⟩ := h'
      have hresult : ∀ env, RecordsResult v (persistReconciledFailedTask v env) := by
        intro env
        unfold persistReconciledFailedTask
        dsimp only
        rw [if_neg hexpired]
        exact recordsResult_reconciled _ _ env
      exact iff_of_true (recordsResult_twice (hresult env) (hresult env') hp hp') hexpired
  | _ => exact iff_true_intro (plain_sameRecords (by decide) h')

/-! ### A record that is made again -/

/-- The record of the sample refund, made at this time. -/
def recordAt (now : Time) (newId : Uuid) (s : Db) : Option (List (String × Value) × Db) :=
  execTask sampleConfig .createRefundRecord besideOther.vars (sampleEnv now newId 100) s

/-- The sample refund has a key, so making its record again changes nothing. -/
theorem recordedAgain_same : ∃ s₁ s₂, (recordAt 2 20 besideOther.world).map Prod.snd = some s₁ ∧
    (recordAt 3 22 s₁).map Prod.snd = some s₂ ∧ SameRecords s₁ s₂ := by
  have hplay : ((recordAt 2 20 besideOther.world).bind fun r => recordAt 3 22 r.2).isSome = true := by decide +kernel
  obtain ⟨⟨out', s₂⟩, htwice⟩ := Option.isSome_iff_exists.1 hplay
  obtain ⟨⟨out, s₁⟩, hfirst, hsecond⟩ := Option.bind_eq_some_iff.1 htwice
  refine ⟨s₁, s₂, by rw [hfirst]; rfl, by rw [hsecond]; rfl, ?_⟩
  refine (redelivered_iff sampleConfig .createRefundRecord besideOther.vars (execTask_serves _ _ _ _ _ _ _ hfirst).1
    (execTask_serves _ _ _ _ _ _ _ hsecond).1).2 (.inl ?_)
  decide +kernel

end Balii
