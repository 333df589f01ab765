import Balii.Media.Owners
import Balii.Workflow.Outcomes
/-!
# Workflow.ReturnedRows — who reads what an `UPDATE … RETURNING` resolves to

`query` resolves to the returned rows, or to the pair of the rows and their number.  `returnedRows` of the order service reads
both; the counters of the payment service and the assets of the product service are read from the first alone.
-/
namespace Balii

open Rowdb Rowdb.System Bpmn Tx Procedure

/-! ## The counters -/

/-- `Number(value || 0)`. -/
def numberOrZero : Option Cell → JsNumber
  | some (.number n) => .num n
  | some (.text s) => if s = "" then .num 0 else jsNumber s
  | none => .num 0

/-- A counter from the first element, with what is said of it; no element is no row. -/
def readCounter (name missing : String) (limit : JsNumber → Bool) : List ResultElement → Except Err (JsNumber × Bool)
  | [] => .error (notFound missing)
  | row :: _ => .ok (numberOrZero (row.get name), limit (numberOrZero (row.get name)))

def refundRetryAllowed (cfg : Config) (retryCount : JsNumber) : Bool := retryCount.less (.num cfg.refundMaxRetryCount)

def tooManyAttempts (cfg : Config) (reconciliationAttempt : JsNumber) : Bool :=
  (JsNumber.num cfg.reconciliationMaxAttempts).less reconciliationAttempt || reconciliationAttempt == .num cfg.reconciliationMaxAttempts

/-- The end of `increaseRefundRetryCount`, from its query. -/
def readRefundRetryCount (cfg : Config) : List ResultElement → Except Err (JsNumber × Bool) :=
  readCounter "retryCount" "Refund not found" (refundRetryAllowed cfg)

/-- The end of `increaseReconciliationAttempt`, from its query. -/
def readReconciliationAttempt (cfg : Config) : List ResultElement → Except Err (JsNumber × Bool) :=
  readCounter "reconciliationAttempt" "Payment not found" (tooManyAttempts cfg)

/-- The rows that come back of an update that stored these counters. -/
def counterRows (name : String) (stored : List ℤ) : List ReturnedRow := stored.map fun n => [(name, .number n)]

/-- What there is to say of the stored counters: the first of them and its limit, `NotFound` when there is none. -/
def counterOf (missing : String) (limit : JsNumber → Bool) : List ℤ → Except Err (JsNumber × Bool)
  | [] => .error (notFound missing)
  | n :: _ => .ok (.num n, limit (.num n))

theorem readCounter_rows (name missing : String) (limit : JsNumber → Bool) (stored : List ℤ) :
    readCounter name missing limit (ResultShape.rows.result (counterRows name stored)) = counterOf missing limit stored := by
  cases stored with
  | nil => rfl
  | cons n stored => simp [counterRows, ResultShape.result, readCounter, counterOf, ResultElement.get, numberOrZero]

theorem readCounter_pair (name missing : String) (limit : JsNumber → Bool) (rows : List ReturnedRow) :
    readCounter name missing limit (ResultShape.rowsAndCount.result rows) = .ok (.num 0, limit (.num 0)) := rfl

/-- **A counter is read as it was stored** from plain rows, and else only a counter of 0. -/
theorem readCounter_iff (name missing : String) (limit : JsNumber → Bool) (shape : ResultShape) (stored : List ℤ) :
    readCounter name missing limit (shape.result (counterRows name stored)) = counterOf missing limit stored ↔
      shape = .rows ∨ stored.head? = some 0 := by
  cases shape with
  | rows => simp [readCounter_rows]
  | rowsAndCount =>
    rw [readCounter_pair]
    cases stored with
    | nil => simp [counterOf]
    | cons n stored =>
      simp only [counterOf, List.head?_cons, reduceCtorEq, false_or, Option.some.injEq]
      constructor
      · intro h
        have hn : ((0 : ℤ) : ℚ) = n := by simpa using congrArg Prod.fst (Except.ok.inj h)
        exact_mod_cast hn.symm
      · rintro rfl
        simp

/-! ## The assets -/

/-- Nothing is destroyed. -/
def Spares (op : Media.Op) : Prop := ∀ publicId, op ≠ .destroy publicId

/-- From the pair no asset is destroyed, whatever was returned. -/
theorem pair_spares {cfg : Media.Config} (hpair : cfg.returning = .rowsAndCount) (ownerType : Media.OwnerType) (ownerId : Uuid)
    (urls : List (Option String)) : (Media.syncOwnerAssets cfg ownerType ownerId urls).Uses Spares (fun _ => True) ∧
      (Media.releaseOwnerAssets cfg ownerType ownerId).Uses Spares (fun _ => True) ∧
        (Media.cleanupPendingAssets cfg).Uses Spares (fun _ => True) := by
  have hact : ∀ {op : Media.Op}, Spares op → (Media.act op).Uses Spares (fun _ => True) := fun h => Proc.uses_trans h
  have hnone : ∀ returned, (Media.deleteRegisteredAssets (destroyedAssets cfg.returning returned)).Uses Spares (fun _ => True) := by
    intro returned
    rw [hpair, destroyedAssets_pair]
    exact trivial
  refine ⟨?_, ?_, ?_⟩
  · exact Proc.uses_then (fun _ => trivial) fun choice => Proc.uses_then (hact fun _ h => nomatch h) fun _ => hnone _
  · exact Proc.uses_then (hact fun _ h => nomatch h) fun _ => hnone _
  · refine Proc.uses_catching (h := fun _ => pure ()) (fun _ => trivial) ?_
    exact Proc.uses_then (fun _ => trivial) fun choice => Proc.uses_then (hact fun _ h => nomatch h) fun _ =>
      Proc.uses_then (hact fun _ h => nomatch h) fun _ => hnone _

/-! ## The tasks of the processes -/

/-- The returned rows of a counter's `UPDATE`, or why there are none to read. -/
def returnedCounter (name missing : String) : Except Err ℤ → Except Err (List ReturnedRow)
  | .ok n => .ok (counterRows name [n])
  | .error e => if e = notFound missing then .ok [] else .error e

theorem readReturned_rows (name missing : String) (limit : JsNumber → Bool) (r : Except Err ℤ) :
    (returnedCounter name missing r >>= fun rows => readCounter name missing limit (ResultShape.rows.result rows)) =
      r.map fun n : ℤ => (.num n, limit (.num n)) := by
  cases r with
  | ok n => exact readCounter_rows name missing limit [n]
  | error e =>
    by_cases he : e = notFound missing
    · rw [returnedCounter, if_pos he, he]
      rfl
    · rw [returnedCounter, if_neg he]
      rfl

namespace ResultShape

/-- `increaseRefundRetryCount`, with what its `UPDATE` resolves to. -/
def increaseRefundRetryCount (shape : ResultShape) (cfg : Config) (refundId : Uuid) : Procedure (JsNumber × Bool) :=
  .exec (.increaseRefundRetryCount refundId) fun r => Proc.ofExcept do
    let rows ← returnedCounter "retryCount" "Refund not found" (r.map fun n : ℕ => (n : ℤ))
    readRefundRetryCount cfg (shape.result rows)

/-- `increaseReconciliationAttempt`, with what its `UPDATE` resolves to. -/
def increaseReconciliationAttempt (shape : ResultShape) (cfg : Config) (paymentId : Uuid) : Procedure (JsNumber × Bool) :=
  .exec (.increaseReconciliationAttempt paymentId) fun r => Proc.ofExcept do
    let rows ← returnedCounter "reconciliationAttempt" "Payment not found" r
    readReconciliationAttempt cfg (shape.result rows)

def increaseRetryCountTask (shape : ResultShape) (cfg : Config) : Task := fun v _ => do
  let refundId ← uuidOf (textOf v "refundId")
  let result ← shape.increaseRefundRetryCount cfg refundId
  pure [("refundRetryCount", .number result.1), ("refundRetryAllowed", .bool result.2)]

def increaseReconciliationAttemptTask (shape : ResultShape) (cfg : Config) : Task := fun v _ => do
  let paymentId ← uuidOf (textOf v "paymentId")
  let result ← shape.increaseReconciliationAttempt cfg paymentId
  pure [("reconciliationAttempt", .number result.1), ("tooManyAttempts", .bool result.2)]

/-- The handlers of the worker, over a driver of this shape. -/
def handler (shape : ResultShape) (cfg : Config) : Topic → Task
  | .increaseRetryCount => shape.increaseRetryCountTask cfg
  | .increaseReconciliationAttempt => shape.increaseReconciliationAttemptTask cfg
  | topic => Balii.handler cfg topic

/-- The refund process, over a driver of this shape. -/
def refundSurroundings (shape : ResultShape) (cfg : Config) (others : Db → Db → Prop) : Surroundings RefundNode Topic Value Db where
  serve topic v s out s' :=
    isFaulty v topic = false ∧ ∃ env, Performs (Regime.alone (platform cfg)) (shape.handler cfg topic v env) s (.ok out) s'
  attempt topic v s s' :=
    isFaulty v topic = false ∧ ∃ env r, Performs (Regime.alone (platform cfg)) (shape.handler cfg topic v env) s r s'
  hears _ _ _ := refundResult cfg
  decides _ out := ∃ f : AdminForm, out = f.variables
  meanwhile := others

end ResultShape

theorem refundRetryAllowed_num (cfg : Config) (n : ℕ) :
    refundRetryAllowed cfg (.num ((n : ℤ) : ℚ)) = decide (n < cfg.refundMaxRetryCount) := by
  simp [refundRetryAllowed, JsNumber.less]

theorem tooManyAttempts_num (cfg : Config) (n : ℤ) :
    tooManyAttempts cfg (.num n) = decide ((cfg.reconciliationMaxAttempts : ℤ) ≤ n) := by
  have hcast : ((cfg.reconciliationMaxAttempts : ℚ) < n) = ((cfg.reconciliationMaxAttempts : ℤ) < n) := by
    exact_mod_cast rfl
  rw [tooManyAttempts, Bool.eq_iff_iff]
  simp only [JsNumber.less, Bool.or_eq_true, decide_eq_true_eq, beq_iff_eq, JsNumber.num.injEq, hcast]
  rw [le_iff_lt_or_eq, eq_comm (a := (n : ℚ))]
  exact or_congr_right (by exact_mod_cast Iff.rfl)

/-- **From plain rows the tasks are the worker's.** -/
theorem handler_rows (cfg : Config) : ResultShape.rows.handler cfg = handler cfg := by
  funext topic v env
  cases topic with
  | increaseRetryCount =>
    change (uuidOf (textOf v "refundId") >>= _) = uuidOf (textOf v "refundId") >>= _
    congr 1
    funext refundId
    change Proc.exec _ (fun r => Proc.ofExcept (returnedCounter _ _ _ >>= fun rows => readCounter _ _ _ _) >>= _) = Proc.exec _ _
    congr 1
    funext r
    rw [readReturned_rows]
    cases r with
    | ok n =>
      change Proc.done [_, ("refundRetryAllowed", Value.bool (refundRetryAllowed cfg (.num ((n : ℤ) : ℚ))))] = _
      rw [refundRetryAllowed_num]
      rfl
    | error e => rfl
  | increaseReconciliationAttempt =>
    change (uuidOf (textOf v "paymentId") >>= _) = uuidOf (textOf v "paymentId") >>= _
    congr 1
    funext paymentId
    change Proc.exec _ (fun r => Proc.ofExcept (returnedCounter _ _ _ >>= fun rows => readCounter _ _ _ _) >>= _) = Proc.exec _ _
    congr 1
    funext r
    rw [readReturned_rows]
    cases r with
    | ok n =>
      change Proc.done [_, ("tooManyAttempts", Value.bool (tooManyAttempts cfg (.num n)))] = _
      rw [tooManyAttempts_num]
      rfl
    | error e => rfl
  | _ => rfl

theorem refundSurroundings_rows (cfg : Config) (others : Db → Db → Prop) :
    ResultShape.rows.refundSurroundings cfg others = refundSurroundings cfg others := by
  unfold ResultShape.refundSurroundings
  rw [handler_rows]
  rfl

/-! ## The retries of a refund -/

/-- The move is a retry. -/
def retries (m : Move RefundNode Topic Value Db) : Bool :=
  match m.label with
  | .serves .increaseRetryCount _ => true
  | _ => false

/-- No admin has reviewed anything, and the results that are heard are the process's refund's. -/
def BeforeReview (m : Move RefundNode Topic Value Db) : Prop :=
  (∀ out, m.label ≠ .decides out) ∧
    ∀ name carried, m.label = .hears name carried → refundIdOf (m.before.vars.merge carried) = refundIdOf m.before.vars

/-- A retry is allowed only below the limit. -/
def AllowedBelow (cfg : Config) (n : ℕ) (v : Vars Value) : Prop :=
  v "refundRetryAllowed" = some (.bool true) → n < cfg.refundMaxRetryCount

/-- The process's refund has counted these retries. -/
def Counted (n : ℕ) (v : Vars Value) (s : Db) : Prop :=
  n = 0 ∨ ∃ id r, refundIdOf v = some id ∧ s.find Tab.refunds id = some r ∧ n ≤ r.retryCount

section
variable {cfg : Config} {n : ℕ} {v : Vars Value} {s s' : Db}

theorem RefundChange.retryCount_le {op : Op} {k : Uuid} {r q : Refund} (h : RefundChange op k r q) : r.retryCount ≤ q.retryCount := by
  cases h with
  | retried _ => exact Nat.le_succ _
  | heard _ _ =>
    unfold RefundResultInput.outcome
    split <;> exact le_rfl
  | _ => exact le_rfl

theorem counted_commit {c : Commit cfg} {Inv : Db → Prop} {G : List (LockKey schema) → Db → Db → Prop} (hf : c.Faithful Inv G)
    (h : Counted n v c.before) : Counted n v c.after := by
  rcases h with h | ⟨id, r, hid, hr, hn⟩
  · exact .inl h
  · obtain ⟨q, hq, hchange⟩ := refund_after hf hr
    exact .inr ⟨id, q, hid, hq, hn.trans hchange.retryCount_le⟩

theorem counted_task {topic : Topic} {env : TaskEnv} {r : Except Err (List (String × Value))}
    (h : Performs (S := platform cfg) (Regime.alone (platform cfg)) (handler cfg topic v env) s r s') (hs : Counted n v s) :
    Counted n v s' :=
  task_keeps (P := Counted n v) (fun _ _ hc hcounted => counted_commit hc hcounted) h hs

theorem refundIdOf_merge {changes : List (String × Value)} (h : "refundId" ∉ changes.map Prod.fst) :
    refundIdOf (v.merge changes) = refundIdOf v := by
  unfold refundIdOf
  rw [textOf_merge h]

theorem Counted.congr {v' : Vars Value} (h : Counted n v s) (hid : refundIdOf v' = refundIdOf v) : Counted n v' s := by
  unfold Counted
  rw [hid]
  exact h

theorem AllowedBelow.merge {changes : List (String × Value)} (h : AllowedBelow cfg n v)
    (hname : "refundRetryAllowed" ∉ changes.map Prod.fst) : AllowedBelow cfg n (v.merge changes) := by
  unfold AllowedBelow
  rw [Vars.merge_of_notMem v hname]
  exact h

theorem exec_increaseRetry_val {R : List (LockKey schema) → Db → Db → Prop} {id : Uuid} {o : Outcome (LockKey schema) (Write schema) ℕ}
    (h : Exec R (increaseRefundRetryCount id) s [] [] o) : ∃ r, s.find Tab.refunds id = some r ∧ o.val = r.retryCount + 1 := by
  unfold increaseRefundRetryCount at h
  simp only [exec_bind, exec_need, exec_pure] at h
  obtain ⟨m, hm, _, ⟨r, hr, rfl⟩, rfl⟩ := h
  rcases Sql.exec_updateWhere hm with ⟨hv, _⟩ | ⟨q, hq, _, rfl⟩
  · rw [hv] at hr
    cases hr
  · cases hr
    exact ⟨r, hq, rfl⟩

/-- **A retry is counted**, and the next is allowed only below the limit. -/
theorem serveTask_increaseRetryCount {out : List (String × Value)} (h : serveTask cfg .increaseRetryCount v s out s')
    (hs : Counted n v s) : AllowedBelow cfg (n + 1) (v.merge out) ∧ Counted (n + 1) (v.merge out) s' := by
  obtain ⟨_, env, hp⟩ := h
  obtain ⟨id, _, hneed, htail⟩ := Performs.of_bind_ok hp
  obtain ⟨rfl, hid⟩ := Performs.alone_need_ok hneed
  obtain ⟨count, _, htrans, hdone⟩ := Performs.of_bind_ok htail
  obtain ⟨call, o, hc, rfl, rfl⟩ := Performs.alone_trans_ok htrans
  obtain ⟨rfl, rfl⟩ := Performs.alone_done_ok hdone
  obtain ⟨r, hr, hval⟩ := exec_increaseRetry_val hc
  have hid : refundIdOf v = some id := hid
  have hcounted : n ≤ r.retryCount := by
    rcases hs with rfl | ⟨id', r', hid', hr', hn⟩
    · exact Nat.zero_le _
    · cases Option.some.inj (hid'.symm.trans hid)
      cases Option.some.inj (hr'.symm.trans hr)
      exact hn
  constructor
  · intro hallowed
    have hval' : v.merge [("refundRetryCount", Value.number (.num o.val)),
        ("refundRetryAllowed", Value.bool (decide (o.val < cfg.refundMaxRetryCount)))] "refundRetryAllowed" =
          some (.bool (decide (o.val < cfg.refundMaxRetryCount))) := by
      simp [Vars.merge_cons, Vars.set_apply]
    rw [hval'] at hallowed
    have hlt : o.val < cfg.refundMaxRetryCount := by simpa using hallowed
    have hcount : n + 1 ≤ o.val := by
      rw [hval]
      exact Nat.succ_le_succ hcounted
    exact lt_of_le_of_lt hcount hlt
  · refine .inr ⟨id, { r with retryCount := r.retryCount + 1 }, ?_, ?_, by change n + 1 ≤ r.retryCount + 1; omega⟩
    · rw [refundIdOf_merge (by simp)]
      exact hid
    · change (written o.writes _).find Tab.refunds id = _
      rw [exec_increaseRetry hc, written_cons, written_nil, find_update, if_pos rfl, hr]
      rfl

end

/-- What a refund's process has retried, node by node. -/
def Retried (cfg : Config) (n : ℕ) (i : Instance RefundNode Value Db) : Prop :=
  n ≤ cfg.refundMaxRetryCount ∧
    match i.node with
    | .startEventRefundRequested => n = 0 ∧ AllowedBelow cfg n i.vars
    | .taskValidateRefundRequest => n = 0 ∧ AllowedBelow cfg n i.vars
    | .taskCheckPaymentStatus => n = 0 ∧ AllowedBelow cfg n i.vars
    | .taskCheckOrderFulfillmentStatus => n = 0 ∧ AllowedBelow cfg n i.vars
    | .gatewayRefundRoute => n = 0 ∧ AllowedBelow cfg n i.vars
    | .taskCheckRefundIdempotency => n = 0 ∧ AllowedBelow cfg n i.vars
    | .taskCreateRefundRecord => n = 0 ∧ AllowedBelow cfg n i.vars
    | .taskCallGatewayRefundApi => Counted n i.vars i.world ∧ AllowedBelow cfg n i.vars
    | .eventWaitRefundResult => Counted n i.vars i.world ∧ AllowedBelow cfg n i.vars
    | .taskPersistRefundResultTransaction => Counted n i.vars i.world ∧ AllowedBelow cfg n i.vars
    | .gatewayIsRefundSuccessful => Counted n i.vars i.world ∧ AllowedBelow cfg n i.vars
    | .gatewayRetryRefund => Counted n i.vars i.world ∧ AllowedBelow cfg n i.vars
    | .taskIncreaseRefundRetry => Counted n i.vars i.world ∧ n < cfg.refundMaxRetryCount
    | .gatewayAdminDecision => False
    | _ => True

section
variable {cfg : Config} {n : ℕ} {i i' : Instance RefundNode Value Db} {l : Label Topic Value}

theorem retried_world {m : RefundNode} {v : Vars Value} {s s' : Db} (hcounted : Counted n v s → Counted n v s')
    (h : Retried cfg n ⟨m, v, s⟩) : Retried cfg n ⟨m, v, s'⟩ := by
  obtain ⟨hle, h⟩ := h
  refine ⟨hle, ?_⟩
  cases m with
  | taskCallGatewayRefundApi => exact ⟨hcounted h.1, h.2⟩
  | eventWaitRefundResult => exact ⟨hcounted h.1, h.2⟩
  | taskPersistRefundResultTransaction => exact ⟨hcounted h.1, h.2⟩
  | gatewayIsRefundSuccessful => exact ⟨hcounted h.1, h.2⟩
  | gatewayRetryRefund => exact ⟨hcounted h.1, h.2⟩
  | taskIncreaseRefundRetry => exact ⟨hcounted h.1, h.2⟩
  | _ => exact h

/-- The topics of the refund's process. -/
def refundTopics : List Topic :=
  [.validateRefundRequest, .checkPaymentStatus, .checkOrderFulfillmentStatus, .checkRefundIdempotency, .createRefundRecord,
    .callGatewayApi, .persistRefundResultTransaction, .increaseRetryCount, .signalPublisher, .refundCompleted, .updateRejected,
    .refundRejected, .createExchangeRequest, .updateOrderInventoryExchange, .exchangeCreated]

theorem mem_refundTopics {m next : RefundNode} {topic : Topic} (h : m.element = .service topic next) : topic ∈ refundTopics := by
  cases m <;> cases h <;> decide

/-- The variables that a task of the refund's process sets. -/
def Topic.sets : Topic → List String
  | .validateRefundRequest => ["paymentId", "orderId", "userId", "method", "amount", "reason"]
  | .checkPaymentStatus =>
    ["refundAllowed", "orderId", "userId", "method", "paymentStatus", "refundValidationReason", "refundableAmount"]
  | .checkOrderFulfillmentStatus => ["refundRoute", "orderStatus", "refundRouteReason"]
  | .checkRefundIdempotency => ["refundAlreadyExists", "refundId", "providerRefundId", "effectiveRefundAmount"]
  | .createRefundRecord => ["refundId", "providerRefundId", "effectiveRefundAmount"]
  | .callGatewayApi => ["providerRefundId", "refundRequestAccepted", "gatewayMode", "refundResult", "rawPayload"]
  | .persistRefundResultTransaction => ["refundStatus", "outboxEventId", "fullyRefunded"]
  | .increaseRetryCount => ["refundRetryCount", "refundRetryAllowed"]
  | .updateRejected => ["refundId", "rejectionReason"]
  | .createExchangeRequest => ["exchangeRequestId"]
  | _ => []

/-- **A task of the refund's process sets its variables** and no others. -/
theorem yields_sets (topic : Topic) (v : Vars Value) (env : TaskEnv) (h : topic ∈ refundTopics) :
    (handler cfg topic v env).Yields fun out => out.map Prod.fst = topic.sets := by
  simp only [refundTopics, List.mem_cons, List.not_mem_nil, or_false] at h
  rcases h with rfl | rfl | rfl | rfl | rfl | rfl | rfl | rfl | rfl | rfl | rfl | rfl | rfl | rfl | rfl
  · exact Proc.yields_then fun _ => rfl
  · exact Proc.yields_then fun _ => rfl
  · exact Proc.yields_then fun _ => rfl
  · exact Proc.yields_then fun _ => Proc.yields_then fun _ => Proc.yields_then fun _ => rfl
  · exact Proc.yields_then fun _ => Proc.yields_then fun _ => Proc.yields_then fun _ => rfl
  · exact Proc.yields_then fun _ => Proc.yields_then fun _ => rfl
  · exact Proc.yields_then fun _ => Proc.yields_then fun _ => Proc.yields_then fun _ => Proc.yields_then fun _ =>
      Proc.yields_then fun _ => rfl
  · exact Proc.yields_then fun _ => Proc.yields_then fun _ => rfl
  · rfl
  · exact Proc.yields_then fun _ => Proc.yields_then fun _ => rfl
  · exact Proc.yields_then fun _ => Proc.yields_then fun _ => Proc.yields_then fun _ => Proc.yields_then fun _ => rfl
  · exact Proc.yields_then fun _ => rfl
  · exact Proc.yields_then fun _ => rfl
  · exact Proc.yields_then fun _ => rfl
  · exact Proc.yields_then fun _ => rfl

theorem serveTask_keeps {topic : Topic} {v : Vars Value} {s s' : Db} {out : List (String × Value)} {name : String}
    (h : serveTask cfg topic v s out s') (htopic : topic ∈ refundTopics) (hname : name ∉ topic.sets) : name ∉ out.map Prod.fst := by
  rw [serveTask_yields h fun env => yields_sets topic v env htopic]
  exact hname

theorem retried_serves {m next : RefundNode} {topic : Topic} {v : Vars Value} {s s' : Db} {out : List (String × Value)}
    (hm : m.element = .service topic next) (hs : serveTask cfg topic v s out s') (h : Retried cfg n ⟨m, v, s⟩) :
    Retried cfg (n + if topic = .increaseRetryCount then 1 else 0) ⟨next, v.merge out, s'⟩ := by
  obtain ⟨hle, h⟩ := h
  have hcounted : Counted n v s → Counted n v s' := by
    obtain ⟨_, env, hp⟩ := hs
    exact counted_task hp
  have hearly : ∀ {p : Prop}, "refundRetryAllowed" ∉ topic.sets → p ∧ AllowedBelow cfg n v → p ∧ AllowedBelow cfg n (v.merge out) :=
    fun hset h => ⟨h.1, h.2.merge (serveTask_keeps hs (mem_refundTopics hm) hset)⟩
  have hloop : "refundId" ∉ topic.sets → Counted n v s → Counted n (v.merge out) s' :=
    fun hset h => (hcounted h).congr (refundIdOf_merge (serveTask_keeps hs (mem_refundTopics hm) hset))
  cases m with
  | taskValidateRefundRequest =>
    cases hm
    exact ⟨hle, hearly (by decide) h⟩
  | taskCheckPaymentStatus =>
    cases hm
    exact ⟨hle, hearly (by decide) h⟩
  | taskCheckOrderFulfillmentStatus =>
    cases hm
    exact ⟨hle, hearly (by decide) h⟩
  | taskCheckRefundIdempotency =>
    cases hm
    exact ⟨hle, hearly (by decide) h⟩
  | taskCreateRefundRecord =>
    cases hm
    obtain ⟨hzero, hallowed⟩ := hearly (by decide) h
    exact ⟨hle, .inl hzero, hallowed⟩
  | taskCallGatewayRefundApi =>
    cases hm
    obtain ⟨hcount, hallowed⟩ := hearly (by decide) h
    exact ⟨hle, hloop (by decide) hcount, hallowed⟩
  | taskPersistRefundResultTransaction =>
    cases hm
    obtain ⟨hcount, hallowed⟩ := hearly (by decide) h
    exact ⟨hle, hloop (by decide) hcount, hallowed⟩
  | taskIncreaseRefundRetry =>
    cases hm
    obtain ⟨hallowed, hcount⟩ := serveTask_increaseRetryCount hs h.1
    exact ⟨h.2, hcount, hallowed⟩
  | _ => cases hm <;> exact ⟨hle, trivial⟩

/-- **Every step before a review keeps it**, a retry with one more. -/
theorem retried_step (step : Step processRefundWorkflow (refundSurroundings cfg (othersCommit cfg)) i l i')
    (hok : BeforeReview ⟨i, l, i'⟩) (h : Retried cfg n i) :
    Retried cfg (n + if retries ⟨i, l, i'⟩ = true then 1 else 0) i' := by
  cases step with
  | @begins m _ _ _ hm =>
    cases m <;> cases hm
    exact h
  | @serves m next topic v s s' out hm hs =>
    have hserves := retried_serves hm hs h
    have hiff : retries ⟨⟨m, v, s⟩, .serves topic out, ⟨next, v.merge out, s'⟩⟩ = true ↔ topic = .increaseRetryCount := by
      cases topic <;> simp [retries]
    rw [if_congr hiff rfl rfl]
    exact hserves
  | attempts hm hs =>
    obtain ⟨_, env, r, hp⟩ := hs
    exact retried_world (counted_task hp) h
  | @hears m _ _ _ v s carried hm hheard =>
    cases m <;> cases hm
    have hid := hok.2 _ _ rfl
    obtain ⟨w, message, refundId, providerRefundId, result, _, _, _, _, rfl⟩ := hheard
    exact ⟨h.1, h.2.1.congr hid, h.2.2.merge (by simp [RefundResultMessage.variables])⟩
  | @timesOut m _ _ _ _ _ hm =>
    cases m <;> cases hm
    exact h
  | decides hm hd => exact absurd rfl (hok.1 _)
  | @chooses m _ flows v s hm hc =>
    obtain ⟨c, hmem, htrue⟩ := choose_mem hc
    obtain ⟨hle, h⟩ := h
    cases m with
    | gatewayRefundRoute =>
      cases hm
      simp only [List.mem_cons, Prod.mk.injEq, List.not_mem_nil, or_false] at hmem
      rcases hmem with ⟨_, rfl⟩ | ⟨_, rfl⟩ | ⟨_, rfl⟩
      · exact ⟨hle, h⟩
      · exact ⟨hle, trivial⟩
      · exact ⟨hle, trivial⟩
    | gatewayIsRefundSuccessful =>
      cases hm
      simp only [List.mem_cons, Prod.mk.injEq, List.not_mem_nil, or_false] at hmem
      rcases hmem with ⟨_, rfl⟩ | ⟨_, rfl⟩
      · exact ⟨hle, trivial⟩
      · exact ⟨hle, h⟩
    | gatewayRetryRefund =>
      cases hm
      simp only [List.mem_cons, Prod.mk.injEq, List.not_mem_nil, or_false] at hmem
      rcases hmem with ⟨rfl, rfl⟩ | ⟨_, rfl⟩
      · -- a retry needs the flag
        refine ⟨hle, h.1, h.2 ?_⟩
        obtain ⟨x, hx, heq⟩ := Option.map_eq_some_iff.1 htrue
        exact hx.trans (congrArg some (beq_iff_eq.1 heq))
      · exact ⟨hle, trivial⟩
    | gatewayAdminDecision => exact h.elim
    | _ => cases hm
  | meanwhile hothers =>
    obtain ⟨c, hc, rfl, rfl⟩ := hothers
    exact retried_world (counted_commit hc) h

end

/-- How often a run retries. -/
def retryCountOf (moves : List (Move RefundNode Topic Value Db)) : ℕ := moves.countP retries

/-- **A refund is retried at most `REFUND_MAX_RETRY_COUNT` times before an admin reviews it**, over a driver of this shape: in every
run in which the results that are heard are the process's refund's, and the first retry is not allowed where none is. -/
def RetriesBounded (cfg : Config) (shape : ResultShape) : Prop :=
  ∀ v s moves i, Run processRefundWorkflow (shape.refundSurroundings cfg (othersCommit cfg)) ⟨.startEventRefundRequested, v, s⟩ moves i →
    AllowedBelow cfg 0 v → (∀ m ∈ moves, BeforeReview m) → retryCountOf moves ≤ cfg.refundMaxRetryCount

theorem rows_bounded (cfg : Config) : RetriesBounded cfg .rows := by
  intro v s moves i run hallowed hok
  rw [refundSurroundings_rows] at run
  have hinit : Retried cfg 0 ⟨.startEventRefundRequested, v, s⟩ := ⟨Nat.zero_le _, rfl, hallowed⟩
  refine (run.invariant BeforeReview (fun moves i => Retried cfg (retryCountOf moves) i) hinit ?_ hok).1
  intro moves i l i' _ step hbefore h
  have hstep := retried_step step hbefore h
  unfold retryCountOf
  rw [List.countP_append, List.countP_singleton]
  exact hstep

/-! ## The readers -/

/-- **What is returned is read**: the counters with their limits, `NotFound` exactly when no row was updated, and the assets; so a
refund is not retried beyond its limit. -/
structure ReadsReturned (cfg : Config) (shape : ResultShape) : Prop where
  retry : ∀ stored, readRefundRetryCount cfg (shape.result (counterRows "retryCount" stored)) =
    counterOf "Refund not found" (refundRetryAllowed cfg) stored
  reconciliation : ∀ stored, readReconciliationAttempt cfg (shape.result (counterRows "reconciliationAttempt" stored)) =
    counterOf "Payment not found" (tooManyAttempts cfg) stored
  assets : ∀ returned, destroyedAssets shape returned = returned
  bounded : RetriesBounded cfg shape

/-- **Plain rows are read, by everybody**, and from the pair only what says nothing: a counter of 0, and no assets. -/
theorem readsReturned_iff (cfg : Config) : (∀ shape, ReadsReturned cfg shape ↔ shape = .rows) ∧
    ∀ shape,
      (∀ stored, readRefundRetryCount cfg (shape.result (counterRows "retryCount" stored)) =
        counterOf "Refund not found" (refundRetryAllowed cfg) stored ↔ shape = .rows ∨ stored.head? = some 0) ∧
      (∀ stored, readReconciliationAttempt cfg (shape.result (counterRows "reconciliationAttempt" stored)) =
        counterOf "Payment not found" (tooManyAttempts cfg) stored ↔ shape = .rows ∨ stored.head? = some 0) ∧
      ∀ returned, destroyedAssets shape returned = returned ↔ shape = .rows ∨ returned = [] := by
  refine ⟨fun shape => ⟨fun h => ?_, ?_⟩, fun shape => ⟨?_, ?_, destroyedAssets_iff shape⟩⟩
  · -- a refund that is not there tells the shapes apart
    rcases (readCounter_iff _ _ _ shape []).1 (h.retry []) with hrows | hzero
    · exact hrows
    · cases hzero
  · rintro rfl
    exact ⟨readCounter_rows _ _ _, readCounter_rows _ _ _, destroyedAssets_rows, rows_bounded cfg⟩
  · exact readCounter_iff _ _ _ shape
  · exact readCounter_iff _ _ _ shape

/-- The third retry of three is read as none from the pair, and allows another. -/
theorem pair_misread : ¬ ∀ shape, ReadsReturned sampleConfig shape := by
  intro h
  have hretry := (h .rowsAndCount).retry [3]
  have hread : readRefundRetryCount sampleConfig (ResultShape.rowsAndCount.result (counterRows "retryCount" [3])) =
      .ok (.num 0, true) := by
    rw [readRefundRetryCount, readCounter_pair, ← Int.cast_zero, ← Int.ofNat_zero, refundRetryAllowed_num]
    rfl
  rw [hread] at hretry
  have hlast := congrArg Prod.fst (Except.ok.inj hretry)
  norm_num at hlast

end Balii
