import Balii.Payment.Changes
import Balii.Workflow.Engine
/-!
# Workflow.Tasks — the transactions behind the tasks

Which transactions a handler can run, with what it takes from the variables; what a handler keeps, whether it ends well or
not, is then said of single commits.
-/
namespace Balii

open Rowdb Rowdb.System Bpmn Tx Procedure

/-! ## Single statements, alone -/

theorem alone_read {cfg : Config} {q : Query} {s s' : Db} {r : Except Err q.Res}
    (h : Performs (Regime.alone (platform cfg)) (Procedure.read q) s r s') : s' = s ∧ (r = .ok (q.eval s) ∨ ∃ e, r = .error e) := by
  rcases Performs.alone_trans h with ⟨call, o, hc, rfl, hr⟩ | ⟨rfl, e, rfl⟩
  · obtain ⟨s₀, hs, hout⟩ := Sql.exec_select.1 hc
    obtain rfl : s₀ = s := rely_alone (S := platform cfg) hs
    have hval : o.val = q.eval s₀ := congrArg Outcome.val hout
    have hwrites : o.writes = [] := congrArg Outcome.writes hout
    rw [hwrites, ← hval]
    exact ⟨rfl, hr.imp id fun hr => ⟨_, hr⟩⟩
  · exact ⟨rfl, .inr ⟨e, rfl⟩⟩

theorem alone_read_ok {cfg : Config} {q : Query} {s s' : Db} {a : q.Res}
    (h : Performs (Regime.alone (platform cfg)) (Procedure.read q) s (.ok a) s') : s' = s ∧ a = q.eval s := by
  obtain ⟨hs, hr⟩ := alone_read h
  rcases hr with hr | ⟨e, hr⟩
  · cases hr
    exact ⟨hs, rfl⟩
  · cases hr

/-- The payment's id among the variables. -/
def paymentIdOf (v : Vars Value) : Option Uuid := (textOf v "paymentId").bind Uuid.ofText

def orderIdOf (v : Vars Value) : Option Uuid := (textOf v "orderId").bind Uuid.ofText

def refundIdOf (v : Vars Value) : Option Uuid := (textOf v "refundId").bind Uuid.ofText

/-! ## What a handler runs -/

/-- The transactions that settle no payment, and open or end no refund. -/
def Op.isMinor : Op → Bool
  | .persistPaymentResult _ => false
  | .markExpired _ => false
  | .createRefundRecord _ => false
  | .rejectRefund .. => false
  | .insertRejectedRefund _ => false
  | .persistRefundResult _ => false
  | _ => true

/-- Those of them that write neither refunds nor events. -/
def Op.isPlain : Op → Bool
  | .requestGatewayRefund .. => false
  | .increaseRefundRetryCount _ => false
  | .insertNotice .. => false
  | op => op.isMinor

theorem Op.isMinor_of_isPlain {op : Op} (h : op.isPlain = true) : op.isMinor = true := by
  cases op <;> first | rfl | cases h

/-- **The transactions of a topic's handler**, with these variables. -/
inductive TaskOp (topic : Topic) (v : Vars Value) : Op → Prop
  | minor {op} (h : op.isMinor = true) : TaskOp topic v op
  | result {i : PaymentResultInput} (h : topic = .persistResultTransaction) (hk : paymentIdOf v = some i.paymentId)
      (ho : orderIdOf v = some i.orderId) (hr : (textOf v "paymentResult").getD "" = i.paymentResult) :
      TaskOp topic v (.persistPaymentResult i)
  | reconciled {i : PaymentResultInput} (h : topic = .persistReconciledSuccess ∨ topic = .persistReconciledFailed)
      (hk : paymentIdOf v = some i.paymentId) (ho : orderIdOf v = some i.orderId) : TaskOp topic v (.persistPaymentResult i)
  | expired {i : ExpiredInput} (h : topic = .markExpiredTransaction ∨ topic = .persistReconciledFailed)
      (hk : paymentIdOf v = some i.paymentId) : TaskOp topic v (.markExpired i)
  | opened {n : NewRefund} (h : topic = .createRefundRecord) (hk : paymentIdOf v = some n.paymentId)
      (ha : (recordedAmount v).hundredths = some n.amount) (hkey : n.idempotencyKey = refundKeyOf v) :
      TaskOp topic v (.createRefundRecord n)
  | rejected {id : Uuid} {i : RefundRejection} (h : topic = .updateRejected) : TaskOp topic v (.rejectRefund id i)
  | insertedRejected {i : RefundRejection} (h : topic = .updateRejected) : TaskOp topic v (.insertRejectedRefund i)
  | heard {i : RefundResultInput} (h : topic = .persistRefundResultTransaction) (hk : refundIdOf v = some i.refundId)
      (hp : paymentIdOf v = some i.paymentId) (hr : refundResultOf v = i.refundResult) : TaskOp topic v (.persistRefundResult i)

/-- The calls a handler makes: all to the order service. -/
def Call.toOrderService : Call → Prop
  | .findMyOrderById .. => True
  | .updatePaymentStatus .. => True
  | .updateReturnRefundResult .. => True
  | _ => False

section
variable {A : Op → Prop} {α : Type}

/-- A handler's part that only asks. -/
abbrev Asks (A : Op → Prop) (p : Procedure α) : Prop := p.Uses A Call.toOrderService

theorem uses_updateOrderPayment (orderId : Uuid) (payment : ReportedPayment) (status : Option OrderStatus) (now : Time) :
    Asks A (OrderClient.updateOrderPayment orderId payment status now) := by
  refine ⟨trivial, fun r => ?_⟩
  cases r <;> trivial

theorem uses_updateReturnRefundResult (id : Uuid) (result : RefundOutcome) (now : Time) :
    Asks A (OrderClient.updateReturnRefundResult id result now) := by
  refine ⟨trivial, fun r => ?_⟩
  cases r <;> trivial

theorem uses_getOrder (orderId userId : Uuid) : Asks A (OrderClient.getOrder orderId userId) := by
  refine ⟨trivial, fun r => ?_⟩
  dsimp only
  split <;> trivial

theorem uses_getOrderOf (orderId userId : String) : Asks A (getOrderOf orderId userId) := by
  unfold getOrderOf
  split
  · exact uses_getOrder _ _
  · trivial

theorem uses_requireRefundRequest (paymentId : Option String) (amount : JsNumber) (reason : Option String) :
    Asks A (requireRefundRequest paymentId amount reason) :=
  Proc.uses_then (Proc.uses_need _ _) fun _ => Proc.uses_then (Proc.uses_need _ _) fun _ =>
    Proc.uses_then (Proc.uses_ensure _ _) fun _ => Proc.uses_then (Proc.uses_need _ _) fun _ => trivial

theorem uses_checkRefundOrder (orderId userId paymentStatus : Option String) (refundAllowed approved : Bool) :
    Asks A (checkRefundOrderFulfillmentStatus orderId userId paymentStatus refundAllowed approved) := by
  refine Proc.uses_then (Proc.uses_need _ _) fun orderId => Proc.uses_then (Proc.uses_need _ _) fun userId => ?_
  split
  · trivial
  · split
    · trivial
    · split
      · trivial
      · exact Proc.uses_then (uses_getOrderOf _ _) fun _ => trivial

theorem uses_persistPaymentResult {i : PaymentResultInput} (hi : A (.persistPaymentResult i)) :
    Asks A (persistPaymentResultTransaction i) := by
  refine Proc.uses_then (Proc.uses_trans hi) fun result => Proc.uses_then ?_ fun _ => trivial
  unfold reportPayment
  split
  · trivial
  · split
    · exact uses_updateOrderPayment _ _ _ _
    · exact uses_updateOrderPayment _ _ _ _

theorem uses_notice (hA : ∀ id n now, A (.insertNotice id n now)) (n : Vars Value → Notice) (v : Vars Value) (env : TaskEnv) :
    Asks A (noticeTask n v env) :=
  Proc.uses_then (Proc.uses_then (Proc.uses_trans (hA _ _ _)) fun _ => trivial) fun _ => trivial

variable (hA : ∀ op : Op, op.isPlain = true → A op)
include hA

theorem uses_read (q : Query) : Asks A (Procedure.read q) := Proc.uses_trans (hA _ rfl)

theorem uses_reply (userId orderId : Uuid) : Asks A (replyWithOrder userId orderId) :=
  Proc.uses_then (uses_read hA _) fun _ => Proc.uses_then (Proc.uses_need _ _) fun _ => trivial

theorem uses_orderService (cfg : Config) (c : Call) (hc : c.toOrderService) : Asks A (c.proc cfg) := by
  cases c with
  | findMyOrderById userId orderId => exact uses_reply hA userId orderId
  | updatePaymentStatus orderId payment status now =>
    change Asks A (Balii.updatePaymentStatus orderId payment status now)
    exact Proc.uses_then (Proc.uses_trans (hA _ rfl)) fun _ => uses_reply hA _ _
  | updateReturnRefundResult id result now =>
    change Asks A (Balii.updateReturnRefundResult id result now)
    exact Proc.uses_then (Proc.uses_trans (hA _ rfl)) fun _ => trivial
  | _ => exact hc.elim

theorem uses_paymentDetail (paymentId : Uuid) : Asks A (paymentDetail paymentId) :=
  Proc.uses_then (uses_read hA _) fun _ => Proc.uses_need _ _

theorem uses_existedPayment (v : Vars Value) : Asks A (existedPayment v) := by
  unfold existedPayment
  dsimp only
  split
  · exact uses_read hA _
  · exact uses_read hA _
  · trivial

theorem uses_validateRefundCondition (paymentId : Option String) (amount : JsNumber) (reason : Option String) :
    Asks A (Balii.validateRefundCondition paymentId amount reason) :=
  Proc.uses_then (uses_requireRefundRequest _ _ _) fun _ => Proc.uses_then (uses_read hA _) fun _ =>
    Proc.uses_then (Proc.uses_need _ _) fun _ => trivial

theorem uses_createOrReuseNewPayment (cfg : Config) (i : CreateOrReusePayment) : Asks A (createOrReuseNewPayment cfg i) :=
  Proc.uses_then (Proc.uses_ensure _ _) fun _ => Proc.uses_then (Proc.uses_trans (hA _ rfl)) fun _ =>
    Proc.uses_then (uses_updateOrderPayment _ _ _ _) fun _ => trivial

theorem uses_createPayment (cfg : Config) (v : Vars Value) (env : TaskEnv) : Asks A (createPaymentTask cfg v env) :=
  Proc.uses_then (Proc.uses_then (Proc.uses_need _ _) fun _ => Proc.uses_then (Proc.uses_ensure _ _) fun _ => trivial) fun _ =>
    Proc.uses_then (Proc.uses_need _ _) fun _ => Proc.uses_then (Proc.uses_need _ _) fun _ =>
      Proc.uses_then (Proc.uses_need _ _) fun _ => Proc.uses_then (uses_createOrReuseNewPayment hA _ _) fun _ => trivial

end

/-- The ids the payment's tasks work on are the variables'. -/
theorem uses_withIds {A : Op → Prop} {α : Type} {v : Vars Value} {f : Uuid → Uuid → Procedure α}
    (h : ∀ paymentId orderId, paymentIdOf v = some paymentId → orderIdOf v = some orderId → Asks A (f paymentId orderId)) :
    Asks A (do
      let paymentId ← uuidOf (textOf v "paymentId")
      let orderId ← canonicalOrderId v
      f paymentId orderId) := by
  refine Proc.uses_bind (Proc.uses_need _ _) (Proc.yields_need fun paymentId hk => ?_)
  refine Proc.uses_bind (Proc.uses_then (Proc.uses_need _ _) fun _ => Proc.uses_then (Proc.uses_ensure _ _) fun _ => trivial) ?_
  exact Proc.yields_bind (Proc.yields_need fun orderId ho => Proc.yields_then fun _ => h paymentId orderId hk ho)

theorem uses_persistReconciled {A : Op → Prop} {v : Vars Value} {env : TaskEnv}
    {paymentResult gatewayResult : String}
    (h : ∀ i : PaymentResultInput, paymentIdOf v = some i.paymentId → orderIdOf v = some i.orderId → A (.persistPaymentResult i)) :
    Asks A (persistReconciledTask paymentResult gatewayResult v env) :=
  uses_withIds fun _ _ hk ho => Proc.uses_then (uses_persistPaymentResult (h _ hk ho)) fun _ => trivial

theorem uses_markExpired {A : Op → Prop} {v : Vars Value} {env : TaskEnv}
    (h : ∀ i : ExpiredInput, paymentIdOf v = some i.paymentId → A (.markExpired i)) : Asks A (markExpiredTransactionTask v env) := by
  refine Proc.uses_bind (Proc.uses_need _ _) (Proc.yields_need fun paymentId hk => ?_)
  refine Proc.uses_then (Proc.uses_need _ _) fun orderId => Proc.uses_then ?_ fun _ => trivial
  exact Proc.uses_then (Proc.uses_trans (h _ hk)) fun _ => Proc.uses_then (uses_updateOrderPayment _ _ _ _) fun _ => trivial

theorem uses_updateRejected {A : Op → Prop} (hA : ∀ op : Op, op.isPlain = true → A op) {v : Vars Value} {env : TaskEnv}
    (h : ∀ id i, A (.rejectRefund id i)) (h' : ∀ i, A (.insertRejectedRefund i)) : Asks A (updateRejectedTask v env) := by
  refine Proc.uses_then ?_ fun refundId => Proc.uses_then (Proc.uses_need _ _) fun paymentId =>
    Proc.uses_then (Proc.uses_need _ _) fun amount => Proc.uses_then (Proc.uses_then ?_ fun rejected => ?_) fun _ => trivial
  · unfold namedRefund
    split
    · trivial
    · exact Proc.uses_then (Proc.uses_need _ _) fun _ => trivial
  · unfold rejectedRefund
    split
    · trivial
    · exact Proc.uses_then (uses_read hA _) fun _ => trivial
  · cases rejected with
    | none => exact Proc.uses_then (Proc.uses_trans (h' _)) fun _ => trivial
    | some id => exact Proc.uses_then (Proc.uses_trans (h _ _)) fun _ => trivial

/-- The topics whose handlers run nothing but plain transactions. -/
def plainTopics : List Topic :=
  [.validatePaymentRequest, .checkIdempotency, .createOrReusePayment, .generateProviderUrl, .verifySignature,
    .checkDuplicateCallback, .signalPublisher, .correlatePaymentSuccess, .cancelRelease, .saveInvalidWebhook, .markReviewRequired,
    .findPendingForReconciliation, .queryGatewayStatus, .increaseReconciliationAttempt, .validateRefundRequest, .checkPaymentStatus,
    .checkOrderFulfillmentStatus, .validateRefundCondition, .checkRefundIdempotency]

theorem plain_uses {A : Op → Prop} (hA : ∀ op : Op, op.isPlain = true → A op) (cfg : Config) {topic : Topic} (ht : topic ∈ plainTopics)
    (v : Vars Value) (env : TaskEnv) : Asks A (handler cfg topic v env) := by
  have hplain : ∀ {op : Op}, op.isPlain = true → Asks A (trans op) := fun h => Proc.uses_trans (hA _ h)
  cases topic with
  | validatePaymentRequest =>
    exact Proc.uses_then (Proc.uses_need _ _) fun _ => Proc.uses_then (Proc.uses_need _ _) fun _ =>
      Proc.uses_then (Proc.uses_ensure _ _) fun _ => Proc.uses_then (Proc.uses_need _ _) fun _ =>
        Proc.uses_then (Proc.uses_then (Proc.uses_need _ _) fun _ => Proc.uses_then (Proc.uses_ensure _ _) fun _ => trivial)
          fun _ => trivial
  | checkIdempotency => exact Proc.uses_then (uses_existedPayment hA v) fun _ => trivial
  | createOrReusePayment =>
    refine Proc.uses_then (uses_existedPayment hA v) fun existed => ?_
    cases existed with
    | none => exact uses_createPayment hA cfg v env
    | some payment =>
      dsimp only
      split
      · trivial
      · exact uses_createPayment hA cfg v env
  | generateProviderUrl =>
    exact Proc.uses_then (Proc.uses_need _ _) fun _ => Proc.uses_then (uses_paymentDetail hA _) fun _ =>
      Proc.uses_then (Proc.uses_ofExcept _) fun _ => Proc.uses_then (hplain rfl) fun _ => trivial
  | verifySignature => exact Proc.uses_then (Proc.uses_ofExcept _) fun _ => trivial
  | checkDuplicateCallback => exact Proc.uses_then (uses_read hA _) fun _ => trivial
  | signalPublisher => trivial
  | correlatePaymentSuccess => trivial
  | cancelRelease =>
    exact Proc.uses_then (Proc.uses_need _ _) fun _ =>
      Proc.uses_then (Proc.uses_then (uses_updateOrderPayment _ _ _ _) fun _ => trivial) fun _ => trivial
  | saveInvalidWebhook => exact Proc.uses_then (hplain rfl) fun _ => trivial
  | markReviewRequired =>
    change Asks A (markReviewRequiredTask v env)
    unfold markReviewRequiredTask
    dsimp only
    split
    · trivial
    · exact Proc.uses_then (Proc.uses_need _ _) fun _ =>
        Proc.uses_then (Proc.uses_then (hplain rfl) fun _ => trivial) fun _ => trivial
  | findPendingForReconciliation =>
    refine Proc.uses_then (uses_read hA _) fun found => ?_
    cases found with
    | none => trivial
    | some payment => exact Proc.uses_then (Proc.uses_need _ _) fun _ => trivial
  | queryGatewayStatus =>
    exact Proc.uses_then (Proc.uses_need _ _) fun _ => Proc.uses_then (uses_read hA _) fun _ =>
      Proc.uses_then (Proc.uses_need _ _) fun _ => Proc.uses_then (Proc.uses_need _ _) fun _ => trivial
  | increaseReconciliationAttempt =>
    exact Proc.uses_then (Proc.uses_need _ _) fun _ => Proc.uses_then (hplain rfl) fun _ => trivial
  | validateRefundRequest =>
    exact Proc.uses_then (Proc.uses_then (uses_requireRefundRequest _ _ _) fun _ => Proc.uses_then (uses_read hA _) fun _ =>
      Proc.uses_then (Proc.uses_need _ _) fun _ => trivial) fun _ => trivial
  | checkPaymentStatus => exact Proc.uses_then (uses_validateRefundCondition hA _ _ _) fun _ => trivial
  | checkOrderFulfillmentStatus => exact Proc.uses_then (uses_checkRefundOrder _ _ _ _ _) fun _ => trivial
  | validateRefundCondition => exact Proc.uses_then (uses_validateRefundCondition hA _ _ _) fun _ => trivial
  | checkRefundIdempotency =>
    exact Proc.uses_then (Proc.uses_need _ _) fun _ => Proc.uses_then (Proc.uses_need _ _) fun _ =>
      Proc.uses_then (uses_read hA _) fun _ => trivial
  | _ => simp [plainTopics] at ht

/-- **A handler runs its topic's transactions and no others.** -/
theorem handler_uses (cfg : Config) (topic : Topic) (v : Vars Value) (env : TaskEnv) :
    Asks (TaskOp topic v) (handler cfg topic v env) := by
  have hA : ∀ op : Op, op.isPlain = true → TaskOp topic v op := fun op h => .minor (Op.isMinor_of_isPlain h)
  have hnotice : ∀ id n now, TaskOp topic v (.insertNotice id n now) := fun _ _ _ => .minor rfl
  have hminor : ∀ {op : Op}, op.isMinor = true → Asks (TaskOp topic v) (trans op) := fun h => Proc.uses_trans (.minor h)
  cases topic with
  | persistResultTransaction =>
    exact uses_withIds fun _ _ hk ho => Proc.uses_then (uses_persistPaymentResult (.result rfl hk ho rfl)) fun _ => trivial
  | markExpiredTransaction => exact uses_markExpired fun i hk => .expired (.inl rfl) hk
  | persistReconciledSuccess => exact uses_persistReconciled fun i hk ho => .reconciled (.inl rfl) hk ho
  | persistReconciledFailed =>
    change Asks _ (persistReconciledFailedTask v env)
    unfold persistReconciledFailedTask
    dsimp only
    split
    · exact Proc.uses_then (uses_markExpired fun i hk => .expired (.inr rfl) hk) fun _ => trivial
    · exact uses_persistReconciled fun i hk ho => .reconciled (.inr rfl) hk ho
  | createRefundRecord =>
    refine Proc.uses_bind (Proc.uses_need _ _) (Proc.yields_need fun paymentId hk => ?_)
    refine Proc.uses_bind (Proc.uses_need _ _) (Proc.yields_need fun amount ha => ?_)
    exact Proc.uses_then (Proc.uses_trans (.opened rfl hk ha rfl)) fun _ => trivial
  | callGatewayApi =>
    exact Proc.uses_then (Proc.uses_need _ _) fun _ => Proc.uses_then (Proc.uses_then (Proc.uses_ensure _ _) fun _ =>
      Proc.uses_then (hminor rfl) fun _ => trivial) fun _ => trivial
  | persistRefundResultTransaction =>
    refine Proc.uses_bind (Proc.uses_need _ _) (Proc.yields_need fun refundId hr => ?_)
    refine Proc.uses_bind (Proc.uses_need _ _) (Proc.yields_need fun paymentId hk => ?_)
    refine Proc.uses_then (Proc.uses_trans (.heard rfl hr hk rfl)) fun result => ?_
    refine Proc.uses_then ?_ fun _ => Proc.uses_then ?_ fun _ => trivial
    · unfold reportFullRefund
      split
      · exact uses_updateOrderPayment _ _ _ _
      · trivial
    · unfold reportReturnRefund
      split
      · trivial
      · exact uses_updateReturnRefundResult _ _ _
  | increaseRetryCount => exact Proc.uses_then (Proc.uses_need _ _) fun _ => Proc.uses_then (hminor rfl) fun _ => trivial
  | updateRejected => exact uses_updateRejected hA (fun _ _ => .rejected rfl) fun _ => .insertedRejected rfl
  | createExchangeRequest =>
    exact Proc.uses_then (Proc.uses_then (hminor rfl) fun _ => trivial) fun _ => trivial
  | updateOrderInventoryExchange =>
    change Asks _ (updateOrderInventoryExchangeTask v env)
    exact uses_notice hnotice _ v env
  | refundCompleted =>
    exact Proc.uses_then (Proc.uses_need _ _) fun _ => Proc.uses_then (Proc.uses_then (uses_read hA _) fun _ =>
      Proc.uses_then (Proc.uses_need _ _) fun _ => Proc.uses_then (hminor rfl) fun _ => trivial) fun _ => trivial
  | refundRejected =>
    change Asks _ (refundRejectedTask v env)
    exact uses_notice hnotice _ v env
  | exchangeCreated =>
    change Asks _ (exchangeCreatedTask v env)
    exact uses_notice hnotice _ v env
  | _ => exact plain_uses hA cfg (by decide) v env

/-- **What every one of its transactions keeps, a task keeps**, whether it ends well or not. -/
theorem task_keeps {cfg : Config} {topic : Topic} {v : Vars Value} {env : TaskEnv} {s s' : Db}
    {r : Except Err (List (String × Value))} {P : Db → Prop}
    (hP : ∀ c : Commit cfg, TaskOp topic v c.op → c.Alone → P c.before → P c.after)
    (h : Performs (Regime.alone (platform cfg)) (handler cfg topic v env) s r s') (hs : P s) : P s' :=
  h.uses_keeps (uses_orderService (fun _ h => .minor (Op.isMinor_of_isPlain h)) cfg) hP (handler_uses cfg topic v env) hs

/-! ## A payment's result -/

section
variable {cfg : Config} {s s' : Db}

/-- The order service was told, and committed it. -/
def Told (cfg : Config) (orderId : Uuid) (payment : ReportedPayment) (status : Option OrderStatus) (now : Time) (s s' : Db) : Prop :=
  Commits (S := platform cfg) (· = .updatePaymentStatus orderId payment status now) s s'

theorem alone_updateOrderPayment {orderId : Uuid} {payment : ReportedPayment} {status : Option OrderStatus} {now : Time}
    {r : Except Err Unit} (h : Performs (S := platform cfg) (Regime.alone (platform cfg))
      (OrderClient.updateOrderPayment orderId payment status now) s r s') :
    Told cfg orderId payment status now s s' ∨ (s' = s ∧ ∃ e, r = .error e) := by
  have hcallee : ∀ {q : Except Err Reply} {s₁ s₂ : Db}, Performs (S := platform cfg) (Regime.alone (platform cfg))
      (Balii.updatePaymentStatus orderId payment status now) s₁ q s₂ →
        Told cfg orderId payment status now s₁ s₂ ∨ (s₂ = s₁ ∧ ∃ e, q = .error e) := by
    intro q s₁ s₂ hq
    have hreply : ∀ {userId : Uuid} {s₃ : Db}, Performs (S := platform cfg) (Regime.alone (platform cfg))
        (replyWithOrder userId orderId) s₃ q s₂ → s₂ = s₃ := by
      intro userId s₃ hr
      rcases Performs.of_bind hr with ⟨found, _, hread, htail⟩ | ⟨_, _, hread⟩
      · obtain ⟨rfl, _⟩ := alone_read hread
        rcases Performs.of_bind htail with ⟨o, _, hneed, hdone⟩ | ⟨_, _, hneed⟩
        · obtain ⟨rfl, _⟩ := Performs.alone_need hneed
          exact (Performs.alone_done hdone).1
        · exact (Performs.alone_need hneed).1
      · exact (alone_read hread).1
    rcases Performs.of_bind hq with ⟨answer, _, htrans, htail⟩ | ⟨e, rfl, htrans⟩
    · obtain ⟨call, o, hc, _, rfl⟩ := Performs.alone_trans_ok htrans
      exact .inl ⟨⟨call, _, s₁, o⟩, rfl, hc, rfl, (hreply htail).symm⟩
    · rcases Performs.alone_trans htrans with ⟨call, o, hc, rfl, _⟩ | ⟨rfl, _⟩
      · exact .inl ⟨⟨call, _, s₁, o⟩, rfl, hc, rfl, rfl⟩
      · exact .inr ⟨rfl, e, rfl⟩
  obtain ⟨_, hmoved, ⟨q, s₂, _, hcalled, hnext⟩ | ⟨_, s₂, hcut, hnext⟩ | ⟨hr, rfl⟩⟩ := Performs.of_call h
  · obtain rfl := moved_alone hmoved
    have hs : s' = s₂ ∧ ((∃ e, q = .error e) → ∃ e, r = .error e) := by
      cases q with
      | ok reply => exact ⟨(Performs.alone_done hnext).1, fun ⟨_, he⟩ => nomatch he⟩
      | error e => exact ⟨(Performs.alone_fail hnext).1, fun _ => (Performs.alone_fail hnext).2⟩
    obtain ⟨rfl, herr⟩ := hs
    exact (hcallee hcalled).imp id fun ⟨heq, he⟩ => ⟨heq, herr he⟩
  · obtain rfl := moved_alone hmoved
    obtain ⟨rfl, he⟩ := Performs.alone_fail hnext
    rcases hcut with rfl | ⟨q, hcalled⟩
    · exact .inr ⟨rfl, he⟩
    · exact (hcallee hcalled).imp id fun ⟨heq, _⟩ => ⟨heq, he⟩
  · obtain rfl := moved_alone hmoved
    exact .inr ⟨rfl, _, hr⟩

/-- What is reported of a result that is recorded now. -/
def PersistedPayment.told (result : PersistedPayment) (cfg : Config) (now : Time) (s s' : Db) : Prop :=
  if result.paymentFinalStatus = .paid then Told cfg result.orderId .paid (some .confirmed) now s s'
  else Told cfg result.orderId .failed (some .cancelled) now s s'

/-- **A payment's result, alone**: it is recorded, and if it is news the order service is told; on the way all can get lost. -/
theorem alone_persistPaymentResult {i : PaymentResultInput} {r : Except Err PersistedPayment}
    (h : Performs (S := platform cfg) (Regime.alone (platform cfg)) (persistPaymentResultTransaction i) s r s') :
    (s' = s ∧ ∃ e, r = .error e) ∨ ∃ call o, Commit.Alone (S := platform cfg) ⟨call, .persistPaymentResult i, s, o⟩ ∧
      ((o.val.alreadyProcessed = false ∧ o.val.told cfg i.now (written o.writes s) s') ∨
        (s' = written o.writes s ∧ (o.val.alreadyProcessed = true ∨ ∃ e, r = .error e))) ∧ ∀ a, r = .ok a → a = o.val := by
  rcases Performs.of_bind h with ⟨result, _, htrans, htail⟩ | ⟨e, rfl, htrans⟩
  · obtain ⟨call, o, hc, rfl, rfl⟩ := Performs.alone_trans_ok htrans
    refine .inr ⟨call, o, hc, ?_, fun a ha => ?_⟩
    · have hreport : ∀ {q : Except Err Unit} {s₂ : Db}, Performs (S := platform cfg) (Regime.alone (platform cfg))
          (reportPayment o.val i.now) (written o.writes s) q s₂ →
            (o.val.alreadyProcessed = false ∧ o.val.told cfg i.now (written o.writes s) s₂) ∨
              (s₂ = written o.writes s ∧ (o.val.alreadyProcessed = true ∨ ∃ e, q = .error e)) := by
        intro q s₂ hq
        unfold reportPayment at hq
        by_cases hdone : o.val.alreadyProcessed = true
        · rw [if_pos hdone] at hq
          exact .inr ⟨(Performs.alone_done hq).1, .inl hdone⟩
        · rw [if_neg hdone] at hq
          have hnews : o.val.alreadyProcessed = false := Bool.eq_false_iff.2 hdone
          unfold PersistedPayment.told
          split at hq
          · rename_i hpaid
            rw [if_pos hpaid]
            exact (alone_updateOrderPayment hq).imp (fun ht => ⟨hnews, ht⟩) fun ⟨heq, he⟩ => ⟨heq, .inr he⟩
          · rename_i hpaid
            rw [if_neg hpaid]
            exact (alone_updateOrderPayment hq).imp (fun ht => ⟨hnews, ht⟩) fun ⟨heq, he⟩ => ⟨heq, .inr he⟩
      rcases Performs.of_bind htail with ⟨_, s₂, hq, hdone⟩ | ⟨e, rfl, hq⟩
      · obtain ⟨rfl, _⟩ := Performs.alone_done hdone
        refine (hreport hq).imp id fun ⟨heq, hor⟩ => ⟨heq, hor.imp id fun ⟨_, he⟩ => nomatch he⟩
      · exact (hreport hq).imp id fun ⟨heq, hor⟩ => ⟨heq, .inr ⟨e, rfl⟩⟩
    · subst ha
      obtain ⟨_, _, _, hdone⟩ := Performs.of_bind_ok htail
      exact (Performs.alone_done_ok hdone).2
  · rcases Performs.alone_trans htrans with ⟨call, o, hc, rfl, _⟩ | ⟨rfl, _⟩
    · exact .inr ⟨call, o, hc, .inr ⟨rfl, .inr ⟨e, rfl⟩⟩, fun _ ha => nomatch ha⟩
    · exact .inl ⟨rfl, e, rfl⟩

end

end Balii
