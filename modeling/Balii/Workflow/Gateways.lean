import Balii.Payment.Commits
import Balii.Payment.Ledger
import Balii.Workflow.Tasks
/-!
# Workflow.Gateways — what stands in the variables at the exclusive gateways

Each gateway asks for variables that the task or the person before it has set, to one of the values it lists; the two
exceptions are the retry of a refund, whose variable nothing has set yet, and a reconciliation whose result was written
into the payment's metadata.
-/
namespace Balii

open Rowdb Rowdb.System Bpmn Tx

/-! ## What the tasks complete with -/

theorem serveTask_yields {cfg : Config} {topic : Topic} {v : Vars Value} {s s' : Db} {out : List (String × Value)}
    {Q : List (String × Value) → Prop} (h : serveTask cfg topic v s out s') (hq : ∀ env, (handler cfg topic v env).Yields Q) : Q out := by
  obtain ⟨_, env, hp⟩ := h
  exact hp.yields (hq env) rfl

/-- The results a callback is read as. -/
def callbackResults : List String := ["SUCCESS", "FAILED", "UNKNOWN"]

theorem gatewayResult_mem (payload : Json) : gatewayResult payload ∈ callbackResults := by
  unfold gatewayResult
  split
  · simp [callbackResults]
  · split
    · simp [callbackResults]
    · simp [callbackResults]

theorem verifyGatewaySignature_result {cfg : Config} {provider rawPayload : String} {signature : Option String} {now : Time}
    {verdict : GatewayVerdict} (h : verifyGatewaySignature cfg provider rawPayload signature now = .ok verdict) :
    verdict.paymentResult = gatewayResult ((Json.parse rawPayload).getD (.obj [])) ∧
      verdict.gatewayAmount = gatewayAmount ((Json.parse rawPayload).getD (.obj [])) := by
  unfold verifyGatewaySignature at h
  split at h
  · cases h
  · split at h
    · cases hx : verifyVnpayPayload cfg ((Json.parse rawPayload).getD (.obj [])) with
      | error e =>
        rw [hx] at h
        cases h
      | ok b =>
        rw [hx] at h
        cases h
        exact ⟨rfl, rfl⟩
    · cases h
      exact ⟨rfl, rfl⟩

/-- The signature's task says whether it fits, and which of three results the callback reports. -/
theorem yields_verifySignature (cfg : Config) (v : Vars Value) (env : TaskEnv) : (verifySignatureTask cfg v env).Yields fun out =>
    ∃ b txn amount, out = [("signatureValid", .bool b), ("providerTxnId", txn),
      ("paymentResult", .text (gatewayResult ((Json.parse ((textOf v "rawPayload").getD "")).getD (.obj [])))),
      ("gatewayAmount", amount)] := by
  refine Proc.yields_bind (Proc.yields_ofExcept fun verdict hv => ?_)
  rw [Proc.yields_pure, (verifyGatewaySignature_result hv).1]
  exact ⟨_, _, _, rfl⟩

theorem yields_checkDuplicateCallback (cfg : Config) (v : Vars Value) (env : TaskEnv) :
    (checkDuplicateCallbackTask cfg v env).Yields fun out => ∃ b, out = [("duplicateCallback", .bool b)] :=
  Proc.yields_then fun _ => ⟨_, rfl⟩

theorem yields_persistResultTransaction (v : Vars Value) (env : TaskEnv) :
    (persistResultTransactionTask v env).Yields fun out => ∃ result, out = persistedOut result :=
  Proc.yields_then fun _ => Proc.yields_then fun _ => Proc.yields_then fun _ => ⟨_, rfl⟩

/-- The order's task chooses one of the three routes. -/
theorem yields_checkOrderFulfillmentStatus (v : Vars Value) (env : TaskEnv) :
    (checkOrderFulfillmentStatusTask v env).Yields fun out => ∃ (route : RefundRoute) (status reason : Value),
      out = [("refundRoute", .text route.code), ("orderStatus", status), ("refundRouteReason", reason)] :=
  Proc.yields_then fun _ => ⟨_, _, _, rfl⟩

theorem yields_findPendingForReconciliation (v : Vars Value) (env : TaskEnv) :
    (findPendingForReconciliationTask v env).Yields fun out => ∃ found, out = pendingOut found := by
  refine Proc.yields_then fun found => ?_
  cases found with
  | none => exact ⟨_, rfl⟩
  | some payment => exact Proc.yields_then fun _ => ⟨_, rfl⟩

theorem yields_increaseReconciliationAttempt (cfg : Config) (v : Vars Value) (env : TaskEnv) :
    (increaseReconciliationAttemptTask cfg v env).Yields fun out => ∃ (n : Value) (b : Bool),
      out = [("reconciliationAttempt", n), ("tooManyAttempts", .bool b)] :=
  Proc.yields_then fun _ => Proc.yields_then fun _ => ⟨_, _, rfl⟩

/-- The status of a recorded result is the result. -/
theorem exec_persistRefundResult_status {cfg : Config} {i : RefundResultInput} {R : List (LockKey schema) → Db → Db → Prop} {s : Db}
    {o : Outcome (LockKey schema) (Write schema) PersistedRefund} (h : Exec R (persistRefundResult cfg i) s [] [] o) :
    o.val.refundStatus = i.refundResult := by
  unfold persistRefundResult at h
  simp only [exec_bind] at h
  obtain ⟨_, _, _, _, h⟩ := h
  split at h
  · rename_i hsuccess
    unfold refundSucceeded at h
    simp only [exec_bind, exec_pure] at h
    obtain ⟨_, _, _, _, _, _, _, _, _, _, rfl⟩ := h
    exact hsuccess.symm
  · unfold refundFailed at h
    simp only [exec_bind, exec_pure] at h
    obtain ⟨_, _, _, _, _, _, rfl⟩ := h
    rfl

/-- The refund's result is the status the process goes on with. -/
theorem serveTask_persistRefundResult {cfg : Config} {v : Vars Value} {s s' : Db} {out : List (String × Value)}
    (h : serveTask cfg .persistRefundResultTransaction v s out s') :
    ∃ event full, out = [("refundStatus", .text (refundResultOf v)), ("outboxEventId", event), ("fullyRefunded", full)] := by
  obtain ⟨_, env, hp⟩ := h
  obtain ⟨refundId, s₁, _, hp⟩ := Performs.of_bind_ok hp
  obtain ⟨paymentId, s₂, _, hp⟩ := Performs.of_bind_ok hp
  obtain ⟨result, s₃, htrans, hp⟩ := Performs.of_bind_ok hp
  obtain ⟨call, o, hc, rfl, _⟩ := Performs.alone_trans_ok htrans
  obtain ⟨_, _, _, hp⟩ := Performs.of_bind_ok hp
  obtain ⟨_, _, _, hp⟩ := Performs.of_bind_ok hp
  obtain ⟨_, hout⟩ := Performs.alone_done hp
  rcases hout with hout | hout
  · cases hout
    have hstatus := exec_persistRefundResult_status hc
    exact ⟨_, _, by rw [refundOut, hstatus]; rfl⟩
  · cases hout

/-- What a reconciliation takes a gateway's result for. -/
def knownResults : List String := ["SUCCESS", "FAILED", "EXPIRED", "CANCELLED", "UNKNOWN"]

/-- The result somebody wrote into the metadata of the process's payment, if any, is a known one. -/
def KnownMetadata (v : Vars Value) (s : Db) : Prop :=
  ∀ id p result, (textOf v "paymentId").bind Uuid.ofText = some id → s.find Tab.payments id = some p →
    readMetadataString p.metadata "reconciliationGatewayResult" = some result → result.toUpper ∈ knownResults

theorem inferredResult_mem (payment : Payment) (providerTxnId : String) (now : Time) :
    inferredResult payment providerTxnId now ∈ knownResults := by
  unfold inferredResult
  split
  · simp [knownResults]
  · split
    · simp [knownResults]
    · split <;> simp [knownResults]

/-- The gateway's status is a known one unless the metadata say otherwise. -/
theorem serveTask_queryGatewayStatus {cfg : Config} {v : Vars Value} {s s' : Db} {out : List (String × Value)}
    (h : serveTask cfg .queryGatewayStatus v s out s') (hknown : KnownMetadata v s) :
    ∃ result ∈ knownResults, ∃ (txn : String) (b : Bool),
      out = [("gatewayResult", .text result), ("providerTxnId", .text txn), ("tooManyAttempts", .bool b)] := by
  obtain ⟨_, env, hp⟩ := h
  obtain ⟨paymentId, _, hid, htail⟩ := Performs.of_bind_ok hp
  obtain ⟨rfl, hpaymentId⟩ := Performs.alone_need_ok hid
  obtain ⟨found, _, hread, htail₁⟩ := Performs.of_bind_ok htail
  obtain ⟨rfl, rfl⟩ := alone_read_ok hread
  obtain ⟨payment, _, hneed, htail₂⟩ := Performs.of_bind_ok htail₁
  obtain ⟨rfl, hfound⟩ := Performs.alone_need_ok hneed
  obtain ⟨attempts, _, _, hdone⟩ := Performs.of_bind_ok htail₂
  obtain ⟨_, rfl⟩ := Performs.alone_done_ok hdone
  obtain ⟨p, hfind, rfl⟩ := Option.map_eq_some_iff.1 (show (getPaymentDetail paymentId _) = some payment from hfound)
  refine ⟨gatewayStatus p _ env.now, ?_, _, _, rfl⟩
  unfold gatewayStatus
  split
  · rename_i result hresult
    exact hknown _ _ _ hpaymentId hfind hresult
  · exact inferredResult_mem _ _ _

/-! ## The payment process -/

/-- What the variables hold where the next gateway needs it. -/
def PaymentReady (i : Instance PaymentNode Value Db) : Prop :=
  match i.node with
  | .gatewayIsSignatureValid => (∃ b, i.vars "signatureValid" = some (.bool b)) ∧
      ∃ result ∈ callbackResults, i.vars "paymentResult" = some (.text result)
  | .taskCheckDuplicateCallback => ∃ result ∈ callbackResults, i.vars "paymentResult" = some (.text result)
  | .taskPersistPaymentResultTransaction => ∃ result ∈ callbackResults, i.vars "paymentResult" = some (.text result)
  | .gatewayPaymentResult => ∃ result ∈ callbackResults, i.vars "paymentResult" = some (.text result)
  | .gatewayManualReviewDecision => ∃ d : ReviewDecisionCode, i.vars "reviewDecision" = some (.text d.code)
  | _ => True

theorem paymentReady_step {cfg : Config} {others : Db → Db → Prop} {i i' : Instance PaymentNode Value Db} {l : Label Topic Value}
    (step : Step processPaymentProcessing (paymentSurroundings cfg others) i l i') (h : PaymentReady i) : PaymentReady i' := by
  cases step with
  | @begins n _ _ _ hn =>
    cases n <;> cases hn
    trivial
  | @serves n _ _ v _ _ out hn hs =>
    cases n with
    | taskVerifyHmacSignature =>
      cases hn
      obtain ⟨b, txn, amount, rfl⟩ := serveTask_yields hs (yields_verifySignature cfg v)
      exact ⟨⟨b, by simp [Vars.merge_cons, Vars.set_apply]⟩, _,
        gatewayResult_mem ((Json.parse ((textOf v "rawPayload").getD "")).getD (.obj [])),
        by simp [Vars.merge_cons, Vars.set_apply]⟩
    | taskCheckDuplicateCallback =>
      cases hn
      obtain ⟨result, hmem, hresult⟩ := h
      obtain ⟨b, rfl⟩ := serveTask_yields hs (yields_checkDuplicateCallback cfg v)
      exact ⟨result, hmem, (Vars.merge_of_notMem v (by simp)).trans hresult⟩
    | taskPersistPaymentResultTransaction =>
      cases hn
      obtain ⟨result, hmem, hresult⟩ := h
      obtain ⟨persisted, rfl⟩ := serveTask_yields hs (yields_persistResultTransaction v)
      exact ⟨result, hmem, (Vars.merge_of_notMem v (by simp [persistedOut])).trans hresult⟩
    | _ => cases hn <;> trivial
  | attempts hn hs => exact h
  | @hears n _ _ _ _ _ _ hn _ =>
    cases n <;> cases hn
    trivial
  | @timesOut n _ _ _ _ _ hn =>
    cases n <;> cases hn
    trivial
  | @decides n _ _ _ _ hn hd =>
    cases n <;> cases hn
    obtain ⟨d, rfl⟩ := hd
    exact ⟨d, by simp [Vars.merge_cons, Vars.set_apply]⟩
  | @chooses n _ flows _ _ hn hc =>
    obtain ⟨c, hmem, _⟩ := choose_mem hc
    cases n <;> cases hn
    · -- the signature's gateway leads to the tasks that need the result
      simp only [List.mem_cons, Prod.mk.injEq, List.not_mem_nil, or_false] at hmem
      rcases hmem with ⟨_, rfl⟩ | ⟨_, rfl⟩
      · exact h.2
      · trivial
    all_goals
      simp only [List.mem_cons, Prod.mk.injEq, List.not_mem_nil, or_false] at hmem
      rcases hmem with ⟨_, rfl⟩ | ⟨_, rfl⟩ | ⟨_, rfl⟩ <;> trivial
  | meanwhile _ => exact h

theorem paymentReady_sound {i : Instance PaymentNode Value Db} (h : PaymentReady i) :
    Sound processPaymentProcessing i.node i.vars := by
  obtain ⟨n, v, s⟩ := i
  intro flows hn
  cases n with
  | gatewayIsSignatureValid =>
    cases hn
    obtain ⟨⟨b, hb⟩, _⟩ := h
    have hb : v "signatureValid" = some (.bool b) := hb
    cases b <;> simp [Decided, isBool, Cond.names, Cond.eval_eq hb, hb]
  | gatewayPaymentResult =>
    cases hn
    obtain ⟨result, hmem, hresult⟩ := h
    have hresult : v "paymentResult" = some (.text result) := hresult
    have heval := fun value => Cond.eval_eq hresult (.text value)
    simp only [callbackResults, List.mem_cons, List.not_mem_nil, or_false] at hmem
    rcases hmem with rfl | rfl | rfl <;>
      simp [Decided, is, Cond.names, heval, Cond.eval_or (heval _) (heval _), Cond.eval_or (Cond.eval_or (heval _) (heval _)) (heval _), hresult]
  | gatewayManualReviewDecision =>
    cases hn
    obtain ⟨d, hd⟩ := h
    have hd : v "reviewDecision" = some (.text d.code) := hd
    cases d <;> simp [Decided, is, Cond.names, Cond.eval_eq hd, hd, ReviewDecisionCode.code]
  | _ => cases hn

/-! ## The refund process -/

/-- No timer fires, and every result that is heard is a success. -/
def HearsSuccess (m : Move RefundNode Topic Value Db) : Prop :=
  m.label ≠ .timesOut ∧ ∀ name carried, m.label = .hears name carried → ("refundResult", .text "SUCCESS") ∈ carried

/-- What the variables hold where the next gateway needs it; the gateway of the retry is not reached. -/
def RefundReady (i : Instance RefundNode Value Db) : Prop :=
  match i.node with
  | .gatewayRefundRoute => ∃ route : RefundRoute, i.vars "refundRoute" = some (.text route.code)
  | .gatewayAdminDecision => ∃ d : AdminDecision, i.vars "adminDecision" = some (.text d.code)
  | .taskPersistRefundResultTransaction => i.vars "refundResult" = some (.text "SUCCESS")
  | .gatewayIsRefundSuccessful => i.vars "refundStatus" = some (.text "SUCCESS")
  | .gatewayRetryRefund => False
  | _ => True

/-- The result among a message's variables. -/
theorem RefundResultMessage.merge_refundResult {m : RefundResultMessage} {refundId providerRefundId result success : String}
    (v : Vars Value) (h : ("refundResult", Value.text success) ∈ m.variables refundId providerRefundId result) :
    v.merge (m.variables refundId providerRefundId result) "refundResult" = some (.text success) := by
  obtain rfl : success = result := by simpa [RefundResultMessage.variables] using h
  simp [RefundResultMessage.variables, Vars.merge_cons, Vars.set_apply]

theorem refundReady_step {cfg : Config} {others : Db → Db → Prop} {i i' : Instance RefundNode Value Db} {l : Label Topic Value}
    (step : Step processRefundWorkflow (refundSurroundings cfg others) i l i') (hok : HearsSuccess ⟨i, l, i'⟩)
    (h : RefundReady i) : RefundReady i' := by
  cases step with
  | @begins n _ _ _ hn =>
    cases n <;> cases hn
    trivial
  | @serves n _ _ v _ _ out hn hs =>
    cases n with
    | taskCheckOrderFulfillmentStatus =>
      cases hn
      obtain ⟨route, status, reason, rfl⟩ := serveTask_yields hs (yields_checkOrderFulfillmentStatus v)
      exact ⟨route, by simp [Vars.merge_cons, Vars.set_apply]⟩
    | taskPersistRefundResultTransaction =>
      cases hn
      obtain ⟨event, full, rfl⟩ := serveTask_persistRefundResult hs
      have hresult : v "refundResult" = some (.text "SUCCESS") := h
      have hout : refundResultOf v = "SUCCESS" := by
        rw [refundResultOf, textOf, hresult]
        rfl
      change v.merge _ "refundStatus" = _
      simp [Vars.merge_cons, Vars.set_apply, hout]
    | _ => cases hn <;> trivial
  | attempts hn hs => exact h
  | @hears n _ _ _ v _ carried hn hm =>
    cases n <;> cases hn
    obtain ⟨w, m, refundId, providerRefundId, result, _, _, _, _, rfl⟩ := hm
    exact RefundResultMessage.merge_refundResult v (hok.2 _ _ rfl)
  | timesOut hn => exact absurd rfl hok.1
  | @decides n _ _ _ _ hn hd =>
    cases n <;> cases hn
    obtain ⟨f, rfl⟩ := hd
    exact ⟨f.decision, by simp [AdminForm.variables, Vars.merge_cons, Vars.set_apply]⟩
  | @chooses n _ flows v _ hn hc =>
    obtain ⟨c, hmem, htrue⟩ := choose_mem hc
    cases n with
    | gatewayIsRefundSuccessful =>
      cases hn
      have hstatus : v "refundStatus" = some (.text "SUCCESS") := h
      simp only [List.mem_cons, Prod.mk.injEq, List.not_mem_nil, or_false] at hmem
      rcases hmem with ⟨_, rfl⟩ | ⟨rfl, rfl⟩
      · trivial
      · -- the way to the retry needs another status
        rw [Cond.eval_ne hstatus] at htrue
        simp at htrue
    | gatewayRetryRefund => exact h.elim
    | gatewayRefundRoute =>
      cases hn
      simp only [List.mem_cons, Prod.mk.injEq, List.not_mem_nil, or_false] at hmem
      rcases hmem with ⟨_, rfl⟩ | ⟨_, rfl⟩ | ⟨_, rfl⟩ <;> trivial
    | gatewayAdminDecision =>
      cases hn
      simp only [List.mem_cons, Prod.mk.injEq, List.not_mem_nil, or_false] at hmem
      rcases hmem with ⟨_, rfl⟩ | ⟨_, rfl⟩ | ⟨_, rfl⟩ <;> trivial
    | _ => cases hn
  | meanwhile _ => exact h

theorem refundReady_sound {i : Instance RefundNode Value Db} (h : RefundReady i) : Sound processRefundWorkflow i.node i.vars := by
  obtain ⟨n, v, s⟩ := i
  intro flows hn
  cases n with
  | gatewayRefundRoute =>
    cases hn
    obtain ⟨route, hroute⟩ := h
    have hroute : v "refundRoute" = some (.text route.code) := hroute
    cases route <;> simp [Decided, is, Cond.names, Cond.eval_eq hroute, hroute, RefundRoute.code]
  | gatewayAdminDecision =>
    cases hn
    obtain ⟨d, hd⟩ := h
    have hd : v "adminDecision" = some (.text d.code) := hd
    have heval := fun value => Cond.eval_eq hd (.text value)
    cases d <;> simp [Decided, is, Cond.names, heval, Cond.eval_or (heval _) (heval _), hd, AdminDecision.code]
  | gatewayIsRefundSuccessful =>
    cases hn
    have hstatus : v "refundStatus" = some (.text "SUCCESS") := h
    simp [Decided, is, Cond.names, Cond.eval_eq hstatus, Cond.eval_ne hstatus, hstatus]
  | gatewayRetryRefund => exact h.elim
  | _ => cases hn

/-! ## The reconciliation -/

/-- Where the gateway is asked, the metadata of the payment say nothing unknown. -/
def AsksKnown (m : Move ReconciliationNode Topic Value Db) : Prop :=
  ∀ out, m.label = .serves .queryGatewayStatus out → KnownMetadata m.before.vars m.before.world

def ReconciliationReady (i : Instance ReconciliationNode Value Db) : Prop :=
  match i.node with
  | .gatewayHasPendingPayments => ∃ b, i.vars "hasPendingPayments" = some (.bool b)
  | .gatewayGatewayResult => ∃ result ∈ knownResults, i.vars "gatewayResult" = some (.text result)
  | .gatewayTooManyAttempts => ∃ b, i.vars "tooManyAttempts" = some (.bool b)
  | _ => True

theorem reconciliationReady_step {cfg : Config} {others : Db → Db → Prop} {i i' : Instance ReconciliationNode Value Db}
    {l : Label Topic Value} (step : Step processPaymentReconciliation (reconciliationSurroundings cfg others) i l i')
    (hok : AsksKnown ⟨i, l, i'⟩) (h : ReconciliationReady i) : ReconciliationReady i' := by
  cases step with
  | @begins n _ _ _ hn =>
    cases n <;> cases hn
    trivial
  | @serves n _ _ v _ _ out hn hs =>
    cases n with
    | taskFindPendingPayments =>
      cases hn
      obtain ⟨found, rfl⟩ := serveTask_yields hs (yields_findPendingForReconciliation v)
      exact ⟨found.isSome, by simp [pendingOut, Vars.merge_cons, Vars.set_apply]⟩
    | taskQueryGatewayStatus =>
      cases hn
      obtain ⟨result, hmem, txn, b, rfl⟩ := serveTask_queryGatewayStatus hs (hok _ rfl)
      exact ⟨result, hmem, by simp [Vars.merge_cons, Vars.set_apply]⟩
    | taskIncreaseReconciliationAttempt =>
      cases hn
      obtain ⟨attempt, b, rfl⟩ := serveTask_yields hs (yields_increaseReconciliationAttempt cfg v)
      exact ⟨b, by simp [Vars.merge_cons, Vars.set_apply]⟩
    | _ => cases hn <;> trivial
  | attempts hn hs => exact h
  | hears hn hm => exact hm.elim
  | @timesOut n _ _ _ _ _ hn => cases n <;> cases hn
  | @decides n _ _ _ _ hn hd =>
    cases n <;> cases hn
    trivial
  | @chooses n _ flows _ _ hn hc =>
    obtain ⟨c, hmem, _⟩ := choose_mem hc
    cases n with
    | gatewayGatewayResult =>
      cases hn
      simp only [List.mem_cons, Prod.mk.injEq, List.not_mem_nil, or_false] at hmem
      rcases hmem with ⟨_, rfl⟩ | ⟨_, rfl⟩ | ⟨_, rfl⟩ <;> trivial
    | gatewayHasPendingPayments =>
      cases hn
      simp only [List.mem_cons, Prod.mk.injEq, List.not_mem_nil, or_false] at hmem
      rcases hmem with ⟨_, rfl⟩ | ⟨_, rfl⟩ <;> trivial
    | gatewayTooManyAttempts =>
      cases hn
      simp only [List.mem_cons, Prod.mk.injEq, List.not_mem_nil, or_false] at hmem
      rcases hmem with ⟨_, rfl⟩ | ⟨_, rfl⟩ <;> trivial
    | _ => cases hn
  | meanwhile _ => exact h

theorem reconciliationReady_sound {i : Instance ReconciliationNode Value Db} (h : ReconciliationReady i) :
    Sound processPaymentReconciliation i.node i.vars := by
  obtain ⟨n, v, s⟩ := i
  intro flows hn
  cases n with
  | gatewayHasPendingPayments =>
    cases hn
    obtain ⟨b, hb⟩ := h
    have hb : v "hasPendingPayments" = some (.bool b) := hb
    cases b <;> simp [Decided, isBool, Cond.names, Cond.eval_eq hb, hb]
  | gatewayTooManyAttempts =>
    cases hn
    obtain ⟨b, hb⟩ := h
    have hb : v "tooManyAttempts" = some (.bool b) := hb
    cases b <;> simp [Decided, isBool, Cond.names, Cond.eval_eq hb, hb]
  | gatewayGatewayResult =>
    cases hn
    obtain ⟨result, hmem, hresult⟩ := h
    have hresult : v "gatewayResult" = some (.text result) := hresult
    have heval := fun value => Cond.eval_eq hresult (.text value)
    simp only [knownResults, List.mem_cons, List.not_mem_nil, or_false] at hmem
    rcases hmem with rfl | rfl | rfl | rfl | rfl <;>
      simp [Decided, is, Cond.names, heval, Cond.eval_or (Cond.eval_or (heval _) (heval _)) (heval _), hresult]
  | _ => cases hn

/-! ## Every run -/

/-- **In every run of the three processes a token that stands at a gateway can go on, one way**, as long as a refund hears
nothing but success before its timer fires, and a reconciliation finds no unknown result in the metadata it asks. -/
theorem gateways_sound (cfg : Config) (others : Db → Db → Prop) :
    (∀ v s moves i, Run processPaymentProcessing (paymentSurroundings cfg others) ⟨.startEventPaymentRequested, v, s⟩ moves i →
        Sound processPaymentProcessing i.node i.vars) ∧
      (∀ v s moves i, Run processRefundWorkflow (refundSurroundings cfg others) ⟨.startEventRefundRequested, v, s⟩ moves i →
        (∀ m ∈ moves, HearsSuccess m) → Sound processRefundWorkflow i.node i.vars) ∧
      ∀ v s moves i, Run processPaymentReconciliation (reconciliationSurroundings cfg others)
          ⟨.startEventReconciliationTimer, v, s⟩ moves i →
        (∀ m ∈ moves, AsksKnown m) → Sound processPaymentReconciliation i.node i.vars := by
  refine ⟨fun v s moves i run => ?_, fun v s moves i run hok => ?_, fun v s moves i run hok => ?_⟩
  · have hready := run.invariant (fun _ => True) (fun _ i => PaymentReady i)
      (show PaymentReady ⟨.startEventPaymentRequested, v, s⟩ from trivial) (fun _ _ _ _ _ step _ h => paymentReady_step step h)
      fun _ _ => trivial
    exact paymentReady_sound hready
  · have hready := run.invariant HearsSuccess (fun _ i => RefundReady i)
      (show RefundReady ⟨.startEventRefundRequested, v, s⟩ from trivial) (fun _ _ _ _ _ step hm h => refundReady_step step hm h) hok
    exact refundReady_sound hready
  · have hready := run.invariant AsksKnown (fun _ i => ReconciliationReady i)
      (show ReconciliationReady ⟨.startEventReconciliationTimer, v, s⟩ from trivial)
      (fun _ _ _ _ _ step hm h => reconciliationReady_step step hm h) hok
    exact reconciliationReady_sound hready

/-! ### A result that does not come -/

/-- What the sample tasks make up. -/
def sampleEnv (now : Time) (newId outboxEventId : Uuid) : TaskEnv where
  now := now
  newId := newId
  outboxEventId := outboxEventId
  paymentCode := "PAY"
  providerRefundId := "RF_1"
  exchangeRequestId := "EX_1"
  vnpayUrl := fun _ _ _ => .ok "https://sandbox.vnpayment.vn"

/-- The refund of a received return, its payment the sample's. -/
def sampleRefund (order : Order) : Instance RefundNode Value Db where
  node := .startEventRefundRequested
  vars := noVars.merge (startRefundWorkflow (Uuid.text 10) (some (Uuid.text 1)) (some (Uuid.text 1)) (.num 100000) "Return"
    (some "return") true)
  world := shopPaid order

/-- From the start to the wait for the gateway's result. -/
def toRefundWait (refundId : Uuid) : List (Act TaskEnv Value Db) :=
  let env := sampleEnv 2 refundId 100
  [.go, .serve env, .serve env, .serve env, .go, .serve env, .serve env, .serve env]

/-- The gateway that asks whether to try again stands before a variable that nothing has set. -/
theorem refundTimeout_stuck : ¬ ∀ v s moves i, Run processRefundWorkflow (refundSurroundings sampleConfig fun _ _ => True)
    ⟨.startEventRefundRequested, v, s⟩ moves i → Sound processRefundWorkflow i.node i.vars := by
  intro h
  have hplay : (play processRefundWorkflow (execTask sampleConfig) (toRefundWait 20 ++ [.timeOut]) []
      (sampleRefund { sampleOrder with status := .delivered, inventoryState := .committed })).map
        (fun r => (r.2.node, r.2.vars "refundRetryAllowed")) = some (.gatewayRetryRefund, none) := by
    decide +kernel
  obtain ⟨⟨moves, i⟩, hi, hlast⟩ := Option.map_eq_some_iff.1 hplay
  have run := play_run (E := refundSurroundings sampleConfig fun _ _ => True) (execTask_serves sampleConfig) (fun act hact => by
    simp only [toRefundWait, List.mem_append, List.mem_cons, List.not_mem_nil, or_false] at hact
    rcases hact with (rfl | rfl | rfl | rfl | rfl | rfl | rfl | rfl) | rfl <;> trivial) .nil hi
  obtain ⟨hnode, hvar⟩ := Prod.mk.inj hlast
  have hsound := h _ _ moves i run
  rw [show i.node = RefundNode.gatewayRetryRefund from hnode] at hsound
  exact (hsound _ rfl).1 _ List.mem_cons_self _ List.mem_cons_self hvar

end Balii
