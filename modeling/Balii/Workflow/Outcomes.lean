import Balii.Payment.Convergence
import Balii.Workflow.Gateways
/-!
# Workflow.Outcomes — what the ends of the payment process mean

The callback's result routes the process, while the transaction before the gateway may have found the payment in any state;
the tasks that correlate a success write nothing, and neither does the approval of a review.
-/
namespace Balii

open Rowdb Rowdb.System Bpmn Tx

variable {cfg : Config}

/-! ## What the process means -/

/-- What the callback reports. -/
def reportedResult (v : Vars Value) : String := gatewayResult ((Json.parse ((textOf v "rawPayload").getD "")).getD (.obj []))

/-- The payment of these variables is paid, and its order is confirmed or later. -/
def Completed (v : Vars Value) (s : Db) : Prop :=
  ∃ paymentId orderId p o, paymentIdOf v = some paymentId ∧ orderIdOf v = some orderId ∧
    s.find Tab.payments paymentId = some p ∧ p.orderId = orderId ∧ p.status = .paid ∧
    s.find Tab.orders orderId = some o ∧ o.status.Confirmed

/-- The status of the process's payment and of its order are as they were. -/
def StatusesKept (v : Vars Value) (s s' : Db) : Prop :=
  (∀ k p, paymentIdOf v = some k → s.find Tab.payments k = some p → ∃ q, s'.find Tab.payments k = some q ∧ q.status = p.status) ∧
    ∀ id o, orderIdOf v = some id → s.find Tab.orders id = some o → ∃ o', s'.find Tab.orders id = some o' ∧ o'.status = o.status

theorem StatusesKept.refl (v : Vars Value) (s : Db) : StatusesKept v s s :=
  ⟨fun _ p _ h => ⟨p, h, rfl⟩, fun _ o _ h => ⟨o, h, rfl⟩⟩

/-- The tasks between the callback and the decision of a review. -/
def PaymentNode.beforeReview : PaymentNode → Bool
  | taskVerifyHmacSignature => true
  | taskSaveInvalidWebhook => true
  | taskMarkReviewRequiredInvalid => true
  | taskCheckDuplicateCallback => true
  | taskPersistPaymentResultTransaction => true
  | taskSignalOutboxPublisherSuccess => true
  | taskCorrelateOrderWorkflowSuccess => true
  | taskCancelReleaseOrderFailed => true
  | taskSignalOutboxPublisherFailed => true
  | userTaskManualPaymentReview => true
  | gatewayIsSignatureValid => true
  | gatewayPaymentResult => true
  | _ => false

/-- A step of the process itself that follows an unknown result changes no status before the review. -/
def LeavesUnknown (m : Move PaymentNode Topic Value Db) : Prop :=
  m.label ≠ .meanwhile → m.before.node.beforeReview = true → reportedResult m.before.vars = "UNKNOWN" →
    StatusesKept m.before.vars m.before.world m.after.world

/-- A success is recorded for a payment that waits or is completed, an unknown result for one that does not wait, what is
approved is completed, and others leave alone what is. -/
structure MeetsOutcome (m : Move PaymentNode Topic Value Db) : Prop where
  success : m.Tries .persistResultTransaction → reportedResult m.before.vars = "SUCCESS" → ∀ k p,
    paymentIdOf m.before.vars = some k → m.before.world.find Tab.payments k = some p →
      p.status = .pending ∨ Completed m.before.vars m.before.world
  unknown : m.Tries .persistResultTransaction → reportedResult m.before.vars = "UNKNOWN" → ∀ k p,
    paymentIdOf m.before.vars = some k → m.before.world.find Tab.payments k = some p → p.status ≠ .pending
  approve : m.label = .decides [("reviewDecision", .text ReviewDecisionCode.approve.code)] →
    Completed m.before.vars m.before.world
  others : m.label = .meanwhile → Completed m.before.vars m.before.world → Completed m.before.vars m.after.world

/-! ## Variables that stay -/

theorem textOf_merge {v : Vars Value} {changes : List (String × Value)} {name : String} (h : name ∉ changes.map Prod.fst) :
    textOf (v.merge changes) name = textOf v name := by
  unfold textOf
  rw [Vars.merge_of_notMem v h]

theorem reportedResult_merge {v : Vars Value} {changes : List (String × Value)} (h : "rawPayload" ∉ changes.map Prod.fst) :
    reportedResult (v.merge changes) = reportedResult v := by
  unfold reportedResult
  rw [textOf_merge h]

theorem Completed.merge {v : Vars Value} {s : Db} (h : Completed v s) {changes : List (String × Value)}
    (hp : "paymentId" ∉ changes.map Prod.fst) (ho : "orderId" ∉ changes.map Prod.fst) : Completed (v.merge changes) s := by
  unfold Completed paymentIdOf orderIdOf
  rw [textOf_merge hp, textOf_merge ho]
  exact h

/-! ## The tasks -/

section
variable (v : Vars Value) (env : TaskEnv) {s s' : Db} {r : Except Err (List (String × Value))}

theorem alone_verifySignature
    (h : Performs (S := platform cfg) (Regime.alone (platform cfg)) (verifySignatureTask cfg v env) s r s') : s' = s := by
  obtain ⟨_, hverdict, _⟩ := Performs.alone_bind_done h
  exact (Performs.alone_ofExcept hverdict).1

theorem alone_checkDuplicateCallback
    (h : Performs (S := platform cfg) (Regime.alone (platform cfg)) (checkDuplicateCallbackTask cfg v env) s r s') : s' = s := by
  obtain ⟨_, hread, _⟩ := Performs.alone_bind_done h
  exact (alone_read hread).1

theorem statusesKept_commit {c : Commit cfg} (hc : c.Alone) (horders : Tab.orders ∉ c.op.tables)
    (h : ∀ k p q, PaymentChange c.op k p q → q.status = p.status) : StatusesKept v c.before c.after := by
  refine ⟨fun k p _ hp => ?_, fun id o _ ho => ⟨o, ?_, rfl⟩⟩
  · obtain ⟨q, hq, hchange⟩ := payment_after hc hp
    exact ⟨q, hq, h k p q hchange⟩
  · rw [find_of_notMem hc horders]
    exact ho

/-- A transaction that notes something about a payment, or nothing about any. -/
theorem statusesKept_trans {op : Op} (hop : (∃ rawPayload, op = .saveInvalidWebhook rawPayload) ∨ ∃ id reason, op = .markReviewRequired id reason)
    {q : Except Err op.Res} {s₀ s₁ : Db}
    (h : Performs (S := platform cfg) (Regime.alone (platform cfg)) (Procedure.trans op) s₀ q s₁) : StatusesKept v s₀ s₁ := by
  rcases Performs.alone_trans h with ⟨call, o, hc, rfl, _⟩ | ⟨rfl, _⟩
  · refine statusesKept_commit v (c := ⟨call, op, s₀, o⟩) hc ?_ fun k p q hchange => ?_
    · rcases hop with ⟨_, rfl⟩ | ⟨_, _, rfl⟩ <;> simp [Op.tables]
    · cases hchange with
      | noted h => exact h.status
      | cancelled h _ => rcases hop with ⟨_, rfl⟩ | ⟨_, _, rfl⟩ <;> rcases h with ⟨_, _, _, h⟩ | ⟨_, _, _, h⟩ <;> cases h
      | settled h => rcases hop with ⟨_, rfl⟩ | ⟨_, _, rfl⟩ <;> cases h
      | expired h => rcases hop with ⟨_, rfl⟩ | ⟨_, _, rfl⟩ <;> cases h
      | refunded h => rcases hop with ⟨_, rfl⟩ | ⟨_, _, rfl⟩ <;> cases h
  · exact .refl v s₁

theorem alone_saveInvalidWebhook
    (h : Performs (S := platform cfg) (Regime.alone (platform cfg)) (saveInvalidWebhookTask v env) s r s') : StatusesKept v s s' := by
  obtain ⟨_, htrans, _⟩ := Performs.alone_bind_done h
  exact statusesKept_trans v (.inl ⟨_, rfl⟩) htrans

theorem alone_markReviewRequired
    (h : Performs (S := platform cfg) (Regime.alone (platform cfg)) (markReviewRequiredTask v env) s r s') : StatusesKept v s s' := by
  unfold markReviewRequiredTask at h
  dsimp only at h
  split at h
  · rw [(Performs.alone_done h).1]
    exact .refl v s
  · rcases Performs.alone_need_bind h with ⟨rfl, _⟩ | ⟨id, _, htail⟩
    · exact .refl v s'
    · obtain ⟨_, hmark, _⟩ := Performs.alone_bind_done htail
      obtain ⟨_, htrans, _⟩ := Performs.alone_bind_done hmark
      exact statusesKept_trans v (.inr ⟨_, _, rfl⟩) htrans

/-- A result for these variables' payment and order. -/
def PaymentResultInput.Fits (i : PaymentResultInput) (v : Vars Value) : Prop :=
  paymentIdOf v = some i.paymentId ∧ orderIdOf v = some i.orderId ∧ (textOf v "paymentResult").getD "" = i.paymentResult

/-- **The task that records the callback's result**, to whatever end. -/
theorem alone_persistResult
    (h : Performs (S := platform cfg) (Regime.alone (platform cfg)) (persistResultTransactionTask v env) s r s') :
    (s' = s ∧ ∃ e, r = .error e) ∨ ∃ i : PaymentResultInput, i.Fits v ∧ ∃ q, Performs (S := platform cfg)
      (Regime.alone (platform cfg)) (persistPaymentResultTransaction i) s q s' ∧ ∀ out, r = .ok out → ∃ a, q = .ok a ∧ out = persistedOut a := by
  rcases Performs.alone_need_bind h with hs | ⟨paymentId, hk, htail⟩
  · exact .inl hs
  · rcases Performs.of_bind htail with ⟨orderId, _, hid, hrest⟩ | ⟨e, hr, hid⟩
    · rcases Performs.alone_need_bind hid with ⟨_, _, he⟩ | ⟨_, ho, hid⟩
      · cases he
      · rcases Performs.alone_ensure_bind hid with ⟨_, _, he⟩ | ⟨_, hid⟩
        · cases he
        · obtain ⟨rfl, rfl⟩ := Performs.alone_done_ok hid
          obtain ⟨q, hq, hout⟩ := Performs.alone_bind_done hrest
          refine .inr ⟨?i, ?fits, q, ?performed, hout⟩
          case performed => exact hq
          case fits => exact ⟨hk, ho, rfl⟩
    · refine .inl ⟨?_, e, hr⟩
      rcases Performs.alone_need_bind hid with ⟨hs, _⟩ | ⟨_, _, hid⟩
      · exact hs
      · rcases Performs.alone_ensure_bind hid with ⟨hs, _⟩ | ⟨_, hid⟩
        · exact hs
        · exact (Performs.alone_done hid).1

theorem persisted_finished {i : PaymentResultInput} {q : Except Err PersistedPayment}
    (h : Performs (S := platform cfg) (Regime.alone (platform cfg)) (persistPaymentResultTransaction i) s q s')
    (hs : ∀ p, s.find Tab.payments i.paymentId = some p → p.status ≠ .pending) :
    (∀ k, s'.find Tab.payments k = s.find Tab.payments k) ∧ ∀ id, s'.find Tab.orders id = s.find Tab.orders id := by
  rcases alone_persistPaymentResult h with ⟨rfl, _⟩ | ⟨call, o, hc, hnext, _⟩
  · exact ⟨fun _ => rfl, fun _ => rfl⟩
  · obtain ⟨order, payment, vs, _, hpay, _, _, htab, ⟨_, hw, hval⟩ | ⟨hpend, _⟩⟩ := exec_persistPaymentResult hc
    · rcases hnext with ⟨hnews, _⟩ | ⟨rfl, _⟩
      · rw [hval] at hnews
        cases hnews
      · have hother : ∀ t : Tab, t ≠ Tab.webhooks → ∀ k, (written o.writes s).find t k = s.find t k := by
          intro t ht k
          rw [hw]
          refine find_written (D := schema) (t := t) s k fun w hw' heq => ?_
          rw [htab w hw'] at heq
          exact absurd (Option.some.inj heq).symm ht
        exact ⟨hother _ (by decide), hother _ (by decide)⟩
    · exact absurd hpend (hs payment hpay)

/-- **A success that is recorded for a payment that waits, or is completed, leaves it completed.** -/
theorem persisted_completed {v : Vars Value} {out : List (String × Value)} (hresult : textOf v "paymentResult" = some "SUCCESS")
    (hs : ∀ k p, paymentIdOf v = some k → s.find Tab.payments k = some p → p.status = .pending ∨ Completed v s)
    (h : serveTask cfg .persistResultTransaction v s out s') : Completed v s' := by
  obtain ⟨_, env, hp⟩ := h
  rcases alone_persistResult v env hp with ⟨_, _, he⟩ | ⟨i, ⟨hk, ho, hr⟩, q, hq, hout⟩
  · cases he
  · obtain ⟨a, rfl, _⟩ := hout out rfl
    have hpaid : i.finalStatus = .paid := by
      rw [hresult] at hr
      exact if_pos hr.symm
    by_cases hpend : ∀ p, s.find Tab.payments i.paymentId = some p → p.status ≠ .pending
    · -- it had its answer
      obtain ⟨hpayments, horders⟩ := persisted_finished hq hpend
      have hdone : Completed v s := by
        rcases alone_persistPaymentResult hq with ⟨_, _, he⟩ | ⟨call, o, hc, _, _⟩
        · cases he
        · obtain ⟨_, payment, _, _, hpay, _⟩ := exec_persistPaymentResult hc
          exact (hs _ payment hk hpay).resolve_left (hpend payment hpay)
      obtain ⟨k, id, p, o, h1, h2, h3, h4, h5, h6, h7⟩ := hdone
      exact ⟨k, id, p, o, h1, h2, (hpayments k).trans h3, h4, h5, (horders id).trans h6, h7⟩
    · rcases alone_persistPaymentResult hq with ⟨_, _, he⟩ | ⟨call, o, hc, hnext, _⟩
      · cases he
      · obtain ⟨order, payment, vs, _, hpay, hid, _, htab, ⟨hnot, _, _⟩ | ⟨_, _, _, hw, hval⟩⟩ := exec_persistPaymentResult hc
        · refine absurd (fun p hp => ?_) hpend
          cases Option.some.inj (hp.symm.trans hpay)
          exact hnot
        · rcases hnext with ⟨_, htold⟩ | ⟨_, hdone | ⟨_, he⟩⟩
          · rw [hval] at htold
            unfold PersistedPayment.told at htold
            rw [if_pos hpaid] at htold
            obtain ⟨c, hop, hcommit, hbefore, rfl⟩ := htold
            have hsettled : c.before.find Tab.payments i.paymentId = some (i.settle payment) := by
              have hvs : (written vs s).find Tab.payments i.paymentId = s.find Tab.payments i.paymentId := by
                refine find_written (D := schema) (t := Tab.payments) s i.paymentId fun v hv ht => ?_
                rw [htab v hv] at ht
                cases ht
              rw [hbefore, hw]
              simp only [written_append, written_cons, written_nil]
              rw [find_apply _ _ (by simp [Write.tab?]), find_update, if_pos rfl, hvs, hpay]
              rfl
            obtain ⟨p, hp, hchange⟩ := payment_after hcommit hsettled
            obtain ⟨call', op, b, o'⟩ := c
            cases hop
            obtain ⟨order', horder', hconfirmed⟩ := exec_updatePaid_confirmed hcommit
            refine ⟨i.paymentId, i.orderId, p, order', hk, ho, hp, hchange.orderId.trans hid, ?_, ?_, hconfirmed⟩
            · cases hchange with
              | noted h => exact h.status.trans hpaid
              | cancelled _ hpending =>
                change i.finalStatus = .pending at hpending
                rw [hpaid] at hpending
                cases hpending
              | settled h => cases h
              | expired h => cases h
              | refunded h => cases h
            · rw [← hid]
              exact horder'
          · rw [hval] at hdone
            cases hdone
          · cases he

end

/-! ## Every step -/

/-- What the process carries of the callback's result, node by node. -/
def Meant (i : Instance PaymentNode Value Db) : Prop :=
  match i.node with
  | .gatewayIsSignatureValid => i.vars "paymentResult" = some (.text (reportedResult i.vars))
  | .taskCheckDuplicateCallback => i.vars "paymentResult" = some (.text (reportedResult i.vars))
  | .taskPersistPaymentResultTransaction => i.vars "paymentResult" = some (.text (reportedResult i.vars))
  | .gatewayPaymentResult => i.vars "paymentResult" = some (.text (reportedResult i.vars)) ∧
      (reportedResult i.vars = "SUCCESS" → Completed i.vars i.world)
  | .taskSignalOutboxPublisherSuccess => reportedResult i.vars = "SUCCESS" ∧ Completed i.vars i.world
  | .taskCorrelateOrderWorkflowSuccess => reportedResult i.vars = "SUCCESS" ∧ Completed i.vars i.world
  | .taskCancelReleaseOrderFailed => reportedResult i.vars ≠ "UNKNOWN"
  | .taskSignalOutboxPublisherFailed => reportedResult i.vars ≠ "UNKNOWN"
  | .gatewayManualReviewDecision =>
    i.vars "reviewDecision" = some (.text ReviewDecisionCode.approve.code) → Completed i.vars i.world
  | .taskCorrelateOrderWorkflowReviewSuccess => Completed i.vars i.world
  | .endEventPaymentCompleted => Completed i.vars i.world
  | _ => True

section
variable {others : Db → Db → Prop} {i i' : Instance PaymentNode Value Db} {l : Label Topic Value}

/-- A completed task of the process. -/
theorem meant_serves {n next : PaymentNode} {topic : Topic} {v : Vars Value} {s s' : Db} {out : List (String × Value)}
    (hn : n.element = .service topic next) (hs : serveTask cfg topic v s out s')
    (hok : MeetsOutcome ⟨⟨n, v, s⟩, .serves topic out, ⟨next, v.merge out, s'⟩⟩) (h : Meant ⟨n, v, s⟩) :
    Meant ⟨next, v.merge out, s'⟩ := by
  have hidle : Performs (S := platform cfg) (Regime.alone (platform cfg)) (pure [] : Procedure (List (String × Value))) s (.ok out) s' →
      out = [] ∧ s' = s := fun hp => ⟨(Performs.alone_done_ok hp).2, (Performs.alone_done_ok hp).1⟩
  cases n with
  | taskVerifyHmacSignature =>
    cases hn
    obtain ⟨b, txn, amount, rfl⟩ := serveTask_yields hs (yields_verifySignature cfg v)
    change v.merge _ "paymentResult" = some (.text (reportedResult (v.merge _)))
    rw [reportedResult_merge (by simp)]
    simp [Vars.merge_cons, Vars.set_apply, reportedResult]
  | taskCheckDuplicateCallback =>
    cases hn
    obtain ⟨b, rfl⟩ := serveTask_yields hs (yields_checkDuplicateCallback cfg v)
    change v.merge _ "paymentResult" = some (.text (reportedResult (v.merge _)))
    rw [reportedResult_merge (by simp), Vars.merge_of_notMem v (by simp)]
    exact h
  | taskPersistPaymentResultTransaction =>
    cases hn
    obtain ⟨persisted, rfl⟩ := serveTask_yields hs (yields_persistResultTransaction v)
    have hresult : v "paymentResult" = some (.text (reportedResult v)) := h
    refine ⟨?_, fun hsuccess => ?_⟩
    · change v.merge _ "paymentResult" = some (.text (reportedResult (v.merge _)))
      rw [reportedResult_merge (by simp [persistedOut]), Vars.merge_of_notMem v (by simp [persistedOut])]
      exact h
    · change reportedResult (v.merge _) = _ at hsuccess
      rw [reportedResult_merge (by simp [persistedOut])] at hsuccess
      have htext : textOf v "paymentResult" = some "SUCCESS" := by rw [textOf, hresult, hsuccess]
      exact Completed.merge (persisted_completed htext (hok.success (.inl ⟨_, rfl⟩) hsuccess) hs) (by simp [persistedOut])
        (by simp [persistedOut])
  | taskSignalOutboxPublisherSuccess =>
    cases hn
    obtain ⟨_, env, hp⟩ := hs
    obtain ⟨rfl, rfl⟩ := hidle hp
    exact h
  | taskCorrelateOrderWorkflowSuccess =>
    cases hn
    obtain ⟨_, env, hp⟩ := hs
    obtain ⟨rfl, rfl⟩ := hidle hp
    exact h.2
  | taskCorrelateOrderWorkflowReviewSuccess =>
    cases hn
    obtain ⟨_, env, hp⟩ := hs
    obtain ⟨rfl, rfl⟩ := hidle hp
    exact h
  | taskCancelReleaseOrderFailed =>
    cases hn
    obtain ⟨_, env, hp⟩ := hs
    obtain ⟨_, _, _, hp⟩ := Performs.of_bind_ok hp
    obtain ⟨_, _, _, hp⟩ := Performs.of_bind_ok hp
    obtain rfl := (Performs.alone_done_ok hp).2
    exact h
  | _ => cases hn <;> trivial

theorem meant_attempts {n next : PaymentNode} {topic : Topic} {v : Vars Value} {s s' : Db}
    (hn : n.element = .service topic next) (hs : attemptTask cfg topic v s s') (h : Meant ⟨n, v, s⟩) : Meant ⟨n, v, s'⟩ := by
  obtain ⟨_, env, r, hp⟩ := hs
  cases n with
  | taskSignalOutboxPublisherSuccess =>
    cases hn
    rw [show s' = s from (Performs.alone_done hp).1]
    exact h
  | taskCorrelateOrderWorkflowSuccess =>
    cases hn
    rw [show s' = s from (Performs.alone_done hp).1]
    exact h
  | taskCorrelateOrderWorkflowReviewSuccess =>
    cases hn
    rw [show s' = s from (Performs.alone_done hp).1]
    exact h
  | gatewayPaymentResult => cases hn
  | gatewayManualReviewDecision => cases hn
  | endEventPaymentCompleted => cases hn
  | _ => exact h

theorem meant_step (step : Step processPaymentProcessing (paymentSurroundings cfg others) i l i') (hok : MeetsOutcome ⟨i, l, i'⟩)
    (h : Meant i) : Meant i' := by
  cases step with
  | @begins n _ _ _ hn =>
    cases n <;> cases hn
    trivial
  | serves hn hs => exact meant_serves hn hs hok h
  | attempts hn hs => exact meant_attempts hn hs h
  | @hears n _ _ _ _ _ _ hn _ =>
    cases n <;> cases hn
    trivial
  | @timesOut n _ _ _ _ _ hn =>
    cases n <;> cases hn
    trivial
  | @decides n _ v s out hn hd =>
    cases n <;> cases hn
    obtain ⟨d, rfl⟩ := hd
    intro happrove
    have hd : v.merge [("reviewDecision", .text d.code)] "reviewDecision" = some (.text d.code) := by
      simp [Vars.merge_cons, Vars.set_apply]
    have hcode : d.code = ReviewDecisionCode.approve.code := by
      have := hd.symm.trans happrove
      simpa using this
    refine (hok.approve ?_).merge (by simp) (by simp)
    rw [hcode]
  | @chooses n next flows v s hn hc =>
    obtain ⟨c, hmem, htrue⟩ := choose_mem hc
    cases n with
    | gatewayIsSignatureValid =>
      cases hn
      simp only [List.mem_cons, Prod.mk.injEq, List.not_mem_nil, or_false] at hmem
      rcases hmem with ⟨_, rfl⟩ | ⟨_, rfl⟩
      · exact h
      · trivial
    | gatewayPaymentResult =>
      cases hn
      have hresult : v "paymentResult" = some (.text (reportedResult v)) := h.1
      have heval := fun value => Cond.eval_eq hresult (.text value)
      simp only [List.mem_cons, Prod.mk.injEq, List.not_mem_nil, or_false] at hmem
      rcases hmem with ⟨rfl, rfl⟩ | ⟨rfl, rfl⟩ | ⟨_, rfl⟩
      · have hsuccess : reportedResult v = "SUCCESS" := by simpa [is, heval] using htrue
        exact ⟨hsuccess, h.2 hsuccess⟩
      · intro hunknown
        change reportedResult v = "UNKNOWN" at hunknown
        simp [is, Cond.eval_or (heval _) (heval _), hunknown] at htrue
      · trivial
    | gatewayManualReviewDecision =>
      cases hn
      simp only [List.mem_cons, Prod.mk.injEq, List.not_mem_nil, or_false] at hmem
      rcases hmem with ⟨rfl, rfl⟩ | ⟨_, rfl⟩ | ⟨_, rfl⟩
      · refine h ?_
        change v "reviewDecision" = _
        cases hd : v "reviewDecision" with
        | none => simp [is, Cond.eval, hd] at htrue
        | some x =>
          have hx : x = .text "APPROVE" := by simpa [is, Cond.eval_eq hd] using htrue
          rw [hx]
          rfl
      · trivial
      · trivial
    | _ => cases hn
  | @meanwhile n v s s' _ =>
    have hkeep : Completed v s → Completed v s' := hok.others rfl
    cases n with
    | gatewayPaymentResult => exact ⟨h.1, fun hsuccess => hkeep (h.2 hsuccess)⟩
    | taskSignalOutboxPublisherSuccess => exact ⟨h.1, hkeep h.2⟩
    | taskCorrelateOrderWorkflowSuccess => exact ⟨h.1, hkeep h.2⟩
    | gatewayManualReviewDecision => exact fun happrove => hkeep (h happrove)
    | taskCorrelateOrderWorkflowReviewSuccess => exact hkeep h
    | endEventPaymentCompleted => exact hkeep h
    | _ => exact h

/-- A task of the process, to whatever end, after an unknown result. -/
theorem task_leavesUnknown {n next : PaymentNode} {topic : Topic} {v : Vars Value} {env : TaskEnv} {s s' : Db}
    {r : Except Err (List (String × Value))} (hn : n.element = .service topic next) (hreview : n.beforeReview = true)
    (hunknown : reportedResult v = "UNKNOWN") (h : Meant ⟨n, v, s⟩)
    (hs : topic = .persistResultTransaction → ∀ k p, paymentIdOf v = some k → s.find Tab.payments k = some p → p.status ≠ .pending)
    (hp : Performs (S := platform cfg) (Regime.alone (platform cfg)) (handler cfg topic v env) s r s') : StatusesKept v s s' := by
  cases n with
  | taskVerifyHmacSignature =>
    cases hn
    rw [alone_verifySignature v env hp]
    exact .refl v s
  | taskSaveInvalidWebhook =>
    cases hn
    exact alone_saveInvalidWebhook v env hp
  | taskMarkReviewRequiredInvalid =>
    cases hn
    exact alone_markReviewRequired v env hp
  | taskCheckDuplicateCallback =>
    cases hn
    rw [alone_checkDuplicateCallback v env hp]
    exact .refl v s
  | taskPersistPaymentResultTransaction =>
    cases hn
    rcases alone_persistResult v env hp with ⟨rfl, _⟩ | ⟨i, ⟨hk, _, _⟩, q, hq, _⟩
    · exact .refl v s'
    · obtain ⟨hpayments, horders⟩ := persisted_finished hq fun p hp => hs rfl i.paymentId p hk hp
      exact ⟨fun k p _ hp => ⟨p, (hpayments k).trans hp, rfl⟩, fun id o _ ho => ⟨o, (horders id).trans ho, rfl⟩⟩
  | taskSignalOutboxPublisherSuccess => exact absurd (hunknown.symm.trans h.1) (by decide)
  | taskCorrelateOrderWorkflowSuccess => exact absurd (hunknown.symm.trans h.1) (by decide)
  | taskCancelReleaseOrderFailed => exact absurd hunknown h
  | taskSignalOutboxPublisherFailed => exact absurd hunknown h
  | _ => cases hn <;> cases hreview

theorem step_leavesUnknown (step : Step processPaymentProcessing (paymentSurroundings cfg others) i l i')
    (hok : MeetsOutcome ⟨i, l, i'⟩) (h : Meant i) : LeavesUnknown ⟨i, l, i'⟩ := by
  intro hlabel hreview hunknown
  cases step with
  | serves hn hs =>
    obtain ⟨_, env, hp⟩ := hs
    exact task_leavesUnknown hn hreview hunknown h (fun ht => hok.unknown (.inl ⟨_, by rw [ht]⟩) hunknown) hp
  | attempts hn hs =>
    obtain ⟨_, env, r, hp⟩ := hs
    exact task_leavesUnknown hn hreview hunknown h (fun ht => hok.unknown (.inr (by rw [ht])) hunknown) hp
  | meanwhile _ => exact absurd rfl hlabel
  | begins _ => exact .refl _ _
  | hears _ _ => exact .refl _ _
  | timesOut _ => exact .refl _ _
  | decides _ _ => exact .refl _ _
  | chooses _ _ => exact .refl _ _

end

/-! ## Every run -/

/-- **The outcomes of the payment process mean what they say**: its completed end is reached with a paid payment and an order
that is confirmed or later, and an unknown result changes no status before the review, in the runs whose steps all meet the
condition. -/
theorem outcomes_meant (cfg : Config) (others : Db → Db → Prop) :
    (∀ v s moves i, Run processPaymentProcessing (paymentSurroundings cfg others) ⟨.startEventPaymentRequested, v, s⟩ moves i →
        (∀ m ∈ moves, MeetsOutcome m) → i.node = .endEventPaymentCompleted → Completed i.vars i.world) ∧
      ∀ v s moves i, Run processPaymentProcessing (paymentSurroundings cfg others) ⟨.startEventPaymentRequested, v, s⟩ moves i →
        (∀ m ∈ moves, MeetsOutcome m) → ∀ m ∈ moves, LeavesUnknown m := by
  have hmeant : ∀ {v : Vars Value} {s : Db} {pre : List (Move PaymentNode Topic Value Db)} {j : Instance PaymentNode Value Db},
      Run processPaymentProcessing (paymentSurroundings cfg others) ⟨.startEventPaymentRequested, v, s⟩ pre j →
        (∀ m ∈ pre, MeetsOutcome m) → Meant j := fun {v s _ _} hpre hokpre =>
    hpre.invariant MeetsOutcome (fun _ j => Meant j) (show Meant ⟨.startEventPaymentRequested, v, s⟩ from trivial)
      (fun _ _ _ _ _ step hm h => meant_step step hm h) hokpre
  refine ⟨fun v s moves i run hok hend => ?_, fun v s moves i run hok m hm => ?_⟩
  · have h := hmeant run hok
    unfold Meant at h
    rw [hend] at h
    exact h
  · obtain ⟨pre, post, rfl, hpre, step⟩ := run.mem hm
    have h := hmeant hpre fun m' hm' => hok m' (List.mem_append_left _ hm')
    exact step_leavesUnknown step (hok m hm) h

/-! ### An unknown result that is approved -/

/-- The shop with one payment of its order. -/
def shopHolding (order : Order) (payment : Payment) : Db where
  rows t :=
    match t with
    | .payments => (∅ : Table Uuid Payment).insert 10 payment
    | t => (shopWith order).rows t
  log := []

/-- The process of the sample order's payment. -/
def sampleProcess (order : Order) (payment : Payment) : Instance PaymentNode Value Db where
  node := .startEventPaymentRequested
  vars := noVars.merge (startPaymentProcessing (Uuid.text 1) (Uuid.text 1) (.num 100000) "momo" none none)
  world := shopHolding order payment

/-- A provider's callback for the sample order, signed. -/
def signedCallbackBody (fields : List (String × Json)) : Json := .obj (("orderId", .str (Uuid.text 1)) :: fields)

def callbackSignature (fields : List (String × Json)) : Option String :=
  some (sampleConfig.hmacSha256 "shared" (signedCallbackBody fields).stringify)

/-- The variables of a message, when there is one. -/
def callbackVariables (fields : List (String × Json)) : List (String × Value) :=
  match handlePaymentWebhook sampleConfig "momo" (signedCallbackBody fields) (callbackSignature fields) with
  | .ok m => m.variables
  | .error _ => []

theorem callbackVariables_heard {fields : List (String × Json)}
    (h : (handlePaymentWebhook sampleConfig "momo" (signedCallbackBody fields) (callbackSignature fields)).toBool = true) :
    paymentCallback sampleConfig (callbackVariables fields) := by
  unfold callbackVariables
  cases hm : handlePaymentWebhook sampleConfig "momo" (signedCallbackBody fields) (callbackSignature fields) with
  | error e =>
    rw [hm] at h
    cases h
  | ok m => exact ⟨_, _, _, m, hm, rfl⟩

/-- From the start of the process to the record of a callback's result. -/
def toRecord (fields : List (String × Json)) : List (Act TaskEnv Value Db) :=
  let env := sampleEnv 2 20 100
  [.go, .serve env, .serve env, .serve env, .serve env, .hear (callbackVariables fields), .serve env, .go, .serve env, .serve env]

/-- A payment that waits hears of an unknown result, the review approves it, and the process is completed: the payment failed. -/
theorem approvedUnknown_unpaid : ¬ ∀ v s moves i,
    Run processPaymentProcessing (paymentSurroundings sampleConfig fun _ _ => False) ⟨.startEventPaymentRequested, v, s⟩ moves i →
      (i.node = .endEventPaymentCompleted → Completed i.vars i.world) ∧ ∀ m ∈ moves, LeavesUnknown m := by
  intro h
  have hplay : (play processPaymentProcessing (execTask sampleConfig)
      (toRecord [("status", .str "PROCESSING")] ++ [.go, .decide [("reviewDecision", .text "APPROVE")], .go, .serve (sampleEnv 3 21 101)]) []
      (sampleProcess sampleOrder { samplePayment with status := .pending, paidAt := none })).map
        (fun r => (r.2.node, paymentIdOf r.2.vars, (r.2.world.find Tab.payments 10).map fun p => p.status)) =
          some (.endEventPaymentCompleted, some 10, some .failed) := by
    decide +kernel
  obtain ⟨⟨moves, i⟩, hi, hlast⟩ := Option.map_eq_some_iff.1 hplay
  have hheard : paymentCallback sampleConfig (callbackVariables [("status", .str "PROCESSING")]) :=
    callbackVariables_heard (by decide +kernel)
  have run := play_run (E := paymentSurroundings sampleConfig fun _ _ => False) (execTask_serves sampleConfig) (fun act hact => by
    simp only [toRecord, List.mem_append, List.mem_cons, List.not_mem_nil, or_false] at hact
    rcases hact with (rfl | rfl | rfl | rfl | rfl | rfl | rfl | rfl | rfl | rfl) | rfl | rfl | rfl | rfl
    case inl.inr.inr.inr.inr.inr.inl => exact fun _ _ _ => hheard
    case inr.inr.inl => exact fun _ => ⟨.approve, rfl⟩
    all_goals trivial) .nil hi
  simp only [Prod.mk.injEq] at hlast
  obtain ⟨hnode, hid, hstatus⟩ := hlast
  obtain ⟨k, _, p, _, hk, _, hp, _, hpaid, _⟩ := (h _ _ moves i run).1 hnode
  cases Option.some.inj (hk.symm.trans hid)
  rw [hp] at hstatus
  exact absurd (hpaid.symm.trans (Option.some.inj hstatus)) (by decide)

end Balii
