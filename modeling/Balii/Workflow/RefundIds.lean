import Balii.Workflow.ReturnedRows
/-!
# Workflow.RefundIds — whose refund a result is recorded for

The refund's id travels through the process in a variable that the record's task writes, and every result may write it again;
the payment's id stays as it was when the refund was recorded.
-/
namespace Balii

open Rowdb Rowdb.System Bpmn Tx Procedure

/-! ## What a process and its results name -/

/-- The refund that the last record's task of these moves came back with. -/
def recordedRefund (moves : List (Move RefundNode Topic Value Db)) : Option Uuid :=
  moves.foldl (fun last m =>
    match m.label with
    | .serves .createRefundRecord out => refundIdOf (noVars.merge out)
    | _ => last) none

/-- Of all refunds and payments at most this refund and this payment are another. -/
structure TouchesOnly (refundId paymentId : Uuid) (s s' : Db) : Prop where
  refunds : ∀ k, k ≠ refundId → s'.find Tab.refunds k = s.find Tab.refunds k
  payments : ∀ k, k ≠ paymentId → s'.find Tab.payments k = s.find Tab.payments k

/-- **A result is recorded for the refund that the process recorded**, and changes that refund and its payment alone. -/
def HitsRecorded (recorded : Option Uuid) (m : Move RefundNode Topic Value Db) : Prop :=
  m.Tries .persistRefundResultTransaction → ∃ id r, recorded = some id ∧ refundIdOf m.before.vars = some id ∧
    m.before.world.find Tab.refunds id = some r ∧ TouchesOnly id r.paymentId m.before.world m.after.world

/-- A result that is heard names the refund that the process works on. -/
def NamesOwnRefund (m : Move RefundNode Topic Value Db) : Prop :=
  ∀ name carried, m.label = .hears name carried → refundIdOf (noVars.merge carried) = refundIdOf m.before.vars

theorem recordedRefund_snoc (moves : List (Move RefundNode Topic Value Db)) (m : Move RefundNode Topic Value Db) :
    recordedRefund (moves ++ [m]) =
      match m.label with
      | .serves .createRefundRecord out => refundIdOf (noVars.merge out)
      | _ => recordedRefund moves := by
  unfold recordedRefund
  rw [List.foldl_append]
  rfl

/-! ## What the result's task writes -/

/-- The transactions behind a refund's result. -/
inductive ResultOp (refundId paymentId : Uuid) : Op → Prop
  | read (q : Query) : ResultOp refundId paymentId (.read q)
  | heard {i : RefundResultInput} (hr : i.refundId = refundId) (hp : i.paymentId = paymentId) :
      ResultOp refundId paymentId (.persistRefundResult i)
  | told (orderId : Uuid) (status : Option OrderStatus) (now : Time) :
      ResultOp refundId paymentId (.updatePaymentStatus orderId .refunded status now)
  | returned (id : Uuid) (result : RefundOutcome) (now : Time) :
      ResultOp refundId paymentId (.updateReturnRefundResult id result now)

/-- The calls behind it. -/
def Call.tellsRefund : Call → Prop
  | .updatePaymentStatus _ payment _ _ => payment = .refunded
  | .updateReturnRefundResult .. => True
  | _ => False

section
variable {cfg : Config} {refundId paymentId : Uuid}

theorem uses_tellsRefund (c : Call) (hc : c.tellsRefund) : (c.proc cfg).Uses (ResultOp refundId paymentId) Call.tellsRefund := by
  cases c with
  | updatePaymentStatus orderId payment status now =>
    obtain rfl : payment = .refunded := hc
    refine Proc.uses_then (Proc.uses_trans (.told orderId status now)) fun _ => ?_
    refine Proc.uses_then (Proc.uses_trans (.read _)) fun _ => Proc.uses_then (Proc.uses_need _ _) fun _ => trivial
  | updateReturnRefundResult id result now => exact Proc.uses_then (Proc.uses_trans (.returned id result now)) fun _ => trivial
  | _ => exact hc.elim

theorem uses_persistRefundResultTask (v : Vars Value) (env : TaskEnv) (hr : refundIdOf v = some refundId)
    (hp : paymentIdOf v = some paymentId) :
    (persistRefundResultTransactionTask v env).Uses (ResultOp refundId paymentId) Call.tellsRefund := by
  refine Proc.uses_bind (Proc.uses_need _ _) (Proc.yields_need fun id hid => ?_)
  refine Proc.uses_bind (Proc.uses_need _ _) (Proc.yields_need fun k hk => ?_)
  obtain rfl : id = refundId := Option.some.inj (hid.symm.trans hr)
  obtain rfl : k = paymentId := Option.some.inj (hk.symm.trans hp)
  refine Proc.uses_then (Proc.uses_trans (.heard rfl rfl)) fun result => ?_
  refine Proc.uses_then ?_ fun _ => Proc.uses_then ?_ fun _ => trivial
  · unfold reportFullRefund
    split
    · refine ⟨rfl, fun r => ?_⟩
      cases r <;> trivial
    · trivial
  · unfold reportReturnRefund
    split
    · trivial
    · refine ⟨trivial, fun r => ?_⟩
      cases r <;> trivial

theorem writes_reportRefunded (id : Uuid) (status : Option OrderStatus) (now : Time) :
    Writes (Into [.orders, .returnRequests]) (updatePaymentStatusTransaction id .refunded status now) := by
  refine writes_bind Sql.writes_fetchJoin fun order => ?_
  refine writes_bind (writes_bind (writes_ensure _ _) fun _ => writes_pure _) fun next => ?_
  refine writes_bind (writes_ensure _ _) fun _ => ?_
  refine writes_bind (writes_into (writes_applyNextStatus _ _ _ _ _) (by decide)) fun _ => ?_
  exact writes_if (writes_bind (writes_into (writes_completeReturns _ _) (by decide)) fun _ => writes_pure _) (writes_pure _)

theorem TouchesOnly.refl (s : Db) : TouchesOnly refundId paymentId s s := ⟨fun _ _ => rfl, fun _ _ => rfl⟩

theorem TouchesOnly.trans {s s' s'' : Db} (h : TouchesOnly refundId paymentId s s') (h' : TouchesOnly refundId paymentId s' s'') :
    TouchesOnly refundId paymentId s s'' :=
  ⟨fun k hk => (h'.refunds k hk).trans (h.refunds k hk), fun k hk => (h'.payments k hk).trans (h.payments k hk)⟩

theorem touches_commit {c : Commit cfg} (hc : c.Alone) (hop : ResultOp refundId paymentId c.op) :
    TouchesOnly refundId paymentId c.before c.after := by
  have hsame : Tab.refunds ∉ c.op.tables → Tab.payments ∉ c.op.tables → TouchesOnly refundId paymentId c.before c.after :=
    fun hr hp => ⟨fun k _ => find_of_notMem hc hr k, fun k _ => find_of_notMem hc hp k⟩
  have hrefund := fun k => refund_step hc k
  have hpayment := fun k => payment_edit_step hc k
  obtain ⟨call, op, s, o⟩ := c
  cases hop with
  | read q => exact hsame (by simp [Op.tables]) (by simp [Op.tables])
  | returned id result now => exact hsame (by simp [Op.tables]) (by simp [Op.tables])
  | told orderId status now =>
    have hrows : ∀ t : Tab, t ∉ [Tab.orders, Tab.returnRequests] → (written o.writes s).rows t = s.rows t :=
      fun t ht => rows_of_exec hc (writes_reportRefunded orderId status now) ht
    exact ⟨fun k _ => Database.find_of_rows (D := schema) (hrows Tab.refunds (by decide)) k,
      fun k _ => Database.find_of_rows (D := schema) (hrows Tab.payments (by decide)) k⟩
  | @heard i hr hp =>
    refine ⟨fun k hk => RowStep.kept (hrefund k) (fun r hnew => ?_) fun r q hchange => ?_,
      fun k hk => RowStep.kept (hpayment k) (fun p hnew => ?_) fun p q hedit => ?_⟩
    · rcases hnew with ⟨_, ⟨_, h, _⟩ | ⟨_, h, _⟩⟩ <;> cases h
    · cases hchange with
      | kept => rfl
      | heard h hid =>
        cases h
        exact absurd (hid.symm.trans hr) hk
      | requested h => cases h
      | retried h => cases h
      | rejected h => cases h
    · obtain ⟨_, h, _⟩ := hnew
      cases h
    · cases hedit with
      | kept => rfl
      | refunded h hid _ =>
        cases h
        exact absurd (hid.symm.trans hp) hk
      | cancelled h _ => rcases h with ⟨_, _, _, h⟩ | ⟨_, _, _, h⟩ <;> cases h
      | settled h => cases h
      | expired h => cases h
      | linked h => cases h
      | renewed h => cases h
      | reviewed h => cases h
      | attempted h => cases h

/-- **Recording a result touches the refund and the payment that the variables name**, and no other. -/
theorem touches_persistRefundResult {v : Vars Value} {env : TaskEnv} {s s' : Db} {r : Except Err (List (String × Value))}
    (hr : refundIdOf v = some refundId) (hp : paymentIdOf v = some paymentId)
    (h : Performs (S := platform cfg) (Regime.alone (platform cfg)) (persistRefundResultTransactionTask v env) s r s') :
    TouchesOnly refundId paymentId s s' :=
  h.uses_keeps (P := TouchesOnly refundId paymentId s) uses_tellsRefund (fun _ hop hc hs => hs.trans (touches_commit hc hop))
    (uses_persistRefundResultTask v env hr hp) (.refl s)

end

/-! ## The refund a process works on -/

/-- The process carries this refund of this payment, over this amount. -/
structure WorksOn (v : Vars Value) (s : Db) (id paymentId : Uuid) (amount : ℤ) : Prop where
  refund : refundIdOf v = some id
  payment : paymentIdOf v = some paymentId
  row : ∃ r, s.find Tab.refunds id = some r ∧ r.paymentId = paymentId ∧ r.amount = amount

section
variable {cfg : Config} {v v' : Vars Value} {s s' : Db} {id paymentId : Uuid} {amount : ℤ}

theorem paymentIdOf_merge {changes : List (String × Value)} (h : "paymentId" ∉ changes.map Prod.fst) :
    paymentIdOf (v.merge changes) = paymentIdOf v := by
  unfold paymentIdOf
  rw [textOf_merge h]

theorem WorksOn.merge (h : WorksOn v s id paymentId amount) {changes : List (String × Value)}
    (hrefund : refundIdOf (v.merge changes) = refundIdOf v) (hpayment : "paymentId" ∉ changes.map Prod.fst) :
    WorksOn (v.merge changes) s id paymentId amount :=
  ⟨hrefund.trans h.refund, (paymentIdOf_merge hpayment).trans h.payment, h.row⟩

theorem WorksOn.commit {Inv : Db → Prop} {G : List (LockKey schema) → Db → Db → Prop} {c : Commit cfg} (hf : c.Faithful Inv G)
    (h : WorksOn v c.before id paymentId amount) : WorksOn v c.after id paymentId amount := by
  obtain ⟨hrefund, hpayment, r, hr, hp, ha⟩ := h
  obtain ⟨q, hq, hchange⟩ := refund_after hf hr
  exact ⟨hrefund, hpayment, q, hq, hchange.sameClaim.paymentId.trans hp, hchange.sameClaim.amount.trans ha⟩

theorem WorksOn.task {topic : Topic} {env : TaskEnv} {r : Except Err (List (String × Value))}
    (h : WorksOn v s id paymentId amount)
    (hp : Performs (S := platform cfg) (Regime.alone (platform cfg)) (handler cfg topic v env) s r s') :
    WorksOn v s' id paymentId amount :=
  task_keeps (P := fun s => WorksOn v s id paymentId amount) (fun _ _ hc h => h.commit hc) hp h

theorem answers_paymentId {amount : ℚ} {key : Option RefundKey} {r : Refund} (h : r.answers paymentId amount key = true) :
    r.paymentId = paymentId := by
  unfold Refund.answers at h
  exact beq_iff_eq.1 (Bool.and_eq_true_iff.1 h).1

theorem exec_createRefundRecord_alone {call : Call} {n : NewRefund} {o : Outcome (LockKey schema) (Write schema) RefundRecord}
    (hc : Commit.Alone (S := platform cfg) ⟨call, .createRefundRecord n, s, o⟩) :
    ∃ r, (written o.writes s).find Tab.refunds o.val.refundId = some r ∧ r.paymentId = n.paymentId ∧
      ((s.find Tab.refunds o.val.refundId = some r ∧ r.answers n.paymentId n.amount n.idempotencyKey = true) ∨
        r.amount = numeric n.amount) := by
  have h : Exec _ (createRefundRecord n) s [] [] o := hc
  unfold createRefundRecord at h
  simp only [exec_bind, exec_ensure] at h
  obtain ⟨_, ⟨_, rfl⟩, _, ⟨_, rfl⟩, _, h1, h⟩ := h
  obtain ⟨payment, _, rfl⟩ := Sql.exec_fetchJoin h1
  obtain ⟨_, ⟨s₁, hs₁, rfl⟩, h⟩ := h
  obtain rfl : s₁ = s := rely_alone (S := platform cfg) hs₁
  split at h
  · rename_i e hfound
    cases h
    have hmem := mem_newestFirst.1 (List.mem_of_mem_head? (show e ∈ checkRefundIdempotency _ _ _ s₁ from hfound))
    obtain ⟨hr, hanswers⟩ := AList.mem_select.1 hmem
    exact ⟨e.2, hr, answers_paymentId hanswers, .inl ⟨hr, hanswers⟩⟩
  · simp only [openRefund, exec_bind, exec_ensure, Sql.exec_select, exec_pure] at h
    obtain ⟨_, ⟨_, rfl⟩, _, ⟨_, _, rfl⟩, _, ⟨_, rfl⟩, m, hm, rfl⟩ := h
    obtain ⟨_, hnone, _, hw⟩ := exec_insertRefund hm
    have hnone : s₁.find Tab.refunds n.id = none := hnone
    refine ⟨n.row, ?_, rfl, .inr rfl⟩
    change (written m.writes s₁).find Tab.refunds n.id = _
    rw [hw, List.nil_append, written_cons, written_nil, find_insert, if_pos rfl, hnone]
    rfl

/-- What the record's task completes with. -/
def recordOut (v : Vars Value) (id : Uuid) (providerRefundId : Value) : List (String × Value) :=
  [("refundId", .text (Uuid.text id)), ("providerRefundId", providerRefundId), ("effectiveRefundAmount", .number (recordedAmount v))]

/-- **The record's task leaves a refund of the process's payment**: one that stands for the request, or a new one over its amount. -/
theorem serveTask_createRefundRecord {out : List (String × Value)} (h : serveTask cfg .createRefundRecord v s out s') :
    ∃ id providerRefundId paymentId amount r, out = recordOut v id providerRefundId ∧ paymentIdOf v = some paymentId ∧
      (recordedAmount v).hundredths = some amount ∧ s'.find Tab.refunds id = some r ∧ r.paymentId = paymentId ∧
        ((s.find Tab.refunds id = some r ∧ r.answers paymentId amount (refundKeyOf v) = true) ∨ r.amount = numeric amount) := by
  obtain ⟨_, env, hp⟩ := h
  obtain ⟨paymentId, _, hneed, htail⟩ := Performs.of_bind_ok hp
  obtain ⟨rfl, hpayment⟩ := Performs.alone_need_ok hneed
  obtain ⟨amount, _, hneed₁, htail₁⟩ := Performs.of_bind_ok htail
  obtain ⟨rfl, hamount⟩ := Performs.alone_need_ok hneed₁
  obtain ⟨record, _, htrans, hdone⟩ := Performs.of_bind_ok htail₁
  obtain ⟨call, o, hc, rfl, rfl⟩ := Performs.alone_trans_ok htrans
  obtain ⟨rfl, rfl⟩ := Performs.alone_done_ok hdone
  obtain ⟨r, hr, hid, hor⟩ := exec_createRefundRecord_alone hc
  exact ⟨_, _, paymentId, amount, r, rfl, hpayment, hamount, hr, hid, hor⟩

theorem refundIdOf_recordOut (v v' : Vars Value) (id : Uuid) (providerRefundId : Value) :
    refundIdOf (v'.merge (recordOut v id providerRefundId)) = some id := by
  have htext : textOf (v'.merge (recordOut v id providerRefundId)) "refundId" = some (Uuid.text id) := by
    simp [textOf, recordOut, Vars.merge_cons, Vars.set_apply]
  rw [refundIdOf, htext, Option.bind_some, Uuid.ofText_text]

theorem worksOn_recorded {p : Value} {r : Refund} (hpayment : paymentIdOf v = some paymentId) (hr : s'.find Tab.refunds id = some r)
    (hp : r.paymentId = paymentId) : WorksOn (v.merge (recordOut v id p)) s' id paymentId r.amount :=
  ⟨refundIdOf_recordOut v v id p, (paymentIdOf_merge (by simp [recordOut])).trans hpayment, r, hr, hp, rfl⟩

end

/-! ## Every step -/

/-- From the record on, the process works on one refund. -/
def RefundNode.worksOnRefund : RefundNode → Bool
  | taskCallGatewayRefundApi => true
  | eventWaitRefundResult => true
  | taskPersistRefundResultTransaction => true
  | gatewayIsRefundSuccessful => true
  | gatewayRetryRefund => true
  | taskIncreaseRefundRetry => true
  | taskSignalOutboxPublisherRefunded => true
  | taskNotifyCustomerRefunded => true
  | endEventRefundCompleted => true
  | _ => false

section
variable {cfg : Config} {i i' : Instance RefundNode Value Db} {l : Label Topic Value} {id paymentId : Uuid} {amount : ℤ}

/-- **Every step after the record keeps the refund that the process works on**, where a result names none but it. -/
theorem worksOn_step (step : Step processRefundWorkflow (refundSurroundings cfg (othersCommit cfg)) i l i')
    (hok : NamesOwnRefund ⟨i, l, i'⟩) (hnode : i.node.worksOnRefund = true) (hnode' : i'.node.worksOnRefund = true)
    (h : WorksOn i.vars i.world id paymentId amount) : WorksOn i'.vars i'.world id paymentId amount := by
  cases step with
  | begins hn => exact h
  | @serves n next topic v s s' out hn hs =>
    -- the tasks after the record set neither id
    have hsets : "refundId" ∉ topic.sets ∧ "paymentId" ∉ topic.sets := by
      have hhere : n.worksOnRefund = true := hnode
      cases n <;> first | (cases hn <;> decide) | exact absurd hhere (by decide)
    have htopic := mem_refundTopics hn
    have hrefund := serveTask_keeps hs htopic hsets.1
    have hpayment := serveTask_keeps hs htopic hsets.2
    obtain ⟨_, env, hp⟩ := hs
    exact (h.task hp).merge (refundIdOf_merge hrefund) hpayment
  | attempts hn hs =>
    obtain ⟨_, env, r, hp⟩ := hs
    exact h.task hp
  | @hears n next name timeout v s carried hn hm =>
    have hown := hok _ _ rfl
    obtain ⟨w, m, refundId, providerRefundId, result, _, _, _, _, rfl⟩ := hm
    refine h.merge ?_ (by simp [RefundResultMessage.variables])
    rw [← hown]
    simp [refundIdOf, textOf, RefundResultMessage.variables, Vars.merge_cons, Vars.set_apply]
  | timesOut hn => exact h
  | @decides n _ _ _ _ hn hd =>
    cases n <;> cases hn
    cases hnode
  | chooses hn hc => exact h
  | meanwhile hothers =>
    obtain ⟨c, hc, rfl, rfl⟩ := hothers
    exact h.commit hc

theorem worksOnRefund_step (step : Step processRefundWorkflow (refundSurroundings cfg (othersCommit cfg)) i l i')
    (h : i'.node.worksOnRefund = true) : i.node.worksOnRefund = true ∨ i.node = .taskCreateRefundRecord := by
  cases step with
  | @begins n _ _ _ hn =>
    cases n <;> cases hn
    cases h
  | @serves n _ _ _ _ _ _ hn _ => cases n <;> cases hn <;> first | exact .inl rfl | exact .inr rfl | cases h
  | attempts hn _ => exact .inl h
  | @hears n _ _ _ _ _ _ hn _ =>
    cases n <;> cases hn
    exact .inl rfl
  | @timesOut n _ _ _ _ _ hn =>
    cases n <;> cases hn
    exact .inl rfl
  | @decides n _ _ _ _ hn _ =>
    cases n <;> cases hn
    cases h
  | @chooses n _ flows _ _ hn hc =>
    obtain ⟨c, hmem, _⟩ := choose_mem hc
    cases n <;> cases hn <;> first | exact .inl rfl | skip
    all_goals
      simp only [List.mem_cons, Prod.mk.injEq, List.not_mem_nil, or_false] at hmem
      rcases hmem with ⟨_, rfl⟩ | ⟨_, rfl⟩ | ⟨_, rfl⟩ <;> cases h
  | meanwhile _ => exact .inl h

/-- Once its refund is recorded the process works on it. -/
def WorksOnRecorded (moves : List (Move RefundNode Topic Value Db)) (i : Instance RefundNode Value Db) : Prop :=
  i.node.worksOnRefund = true → ∃ id paymentId amount, recordedRefund moves = some id ∧ WorksOn i.vars i.world id paymentId amount

/-- The record has its own task. -/
theorem serves_createRefundRecord {out : List (String × Value)}
    (step : Step processRefundWorkflow (refundSurroundings cfg (othersCommit cfg)) i (.serves .createRefundRecord out) i') :
    i.node = .taskCreateRefundRecord := by
  cases step with
  | @serves n _ _ _ _ _ _ hn _ =>
    cases n <;> cases hn
    rfl

/-- So has the result. -/
theorem tries_persistRefundResult (step : Step processRefundWorkflow (refundSurroundings cfg (othersCommit cfg)) i l i')
    (h : Move.Tries ⟨i, l, i'⟩ .persistRefundResultTransaction) :
    i.node = .taskPersistRefundResultTransaction ∧
      ∃ env r, Performs (S := platform cfg) (Regime.alone (platform cfg)) (persistRefundResultTransactionTask i.vars env) i.world r i'.world := by
  rcases h with ⟨out, rfl⟩ | rfl
  · cases step with
    | @serves n _ _ _ _ _ _ hn hs =>
      obtain ⟨_, env, hp⟩ := hs
      refine ⟨?_, env, _, hp⟩
      cases n <;> cases hn
      rfl
  · cases step with
    | @attempts n _ _ _ _ _ hn hs =>
      obtain ⟨_, env, r, hp⟩ := hs
      refine ⟨?_, env, r, hp⟩
      cases n <;> cases hn
      rfl

theorem worksOnRecorded_step {moves : List (Move RefundNode Topic Value Db)}
    (step : Step processRefundWorkflow (refundSurroundings cfg (othersCommit cfg)) i l i') (hok : NamesOwnRefund ⟨i, l, i'⟩)
    (h : WorksOnRecorded moves i) : WorksOnRecorded (moves ++ [⟨i, l, i'⟩]) i' := by
  intro hnode'
  rw [recordedRefund_snoc]
  rcases worksOnRefund_step step hnode' with hnode | hnode
  · obtain ⟨id, paymentId, amount, hrecorded, hworks⟩ := h hnode
    refine ⟨id, paymentId, amount, ?_, worksOn_step step hok hnode hnode' hworks⟩
    dsimp only
    split
    · have hrecord := serves_createRefundRecord step
      rw [hrecord] at hnode
      cases hnode
    · exact hrecorded
  · obtain ⟨n, v, s⟩ := i
    obtain rfl : n = .taskCreateRefundRecord := hnode
    cases step with
    | serves hn hs =>
      cases hn
      obtain ⟨id, p, paymentId, _, r, rfl, hpayment, _, hr, hid, _⟩ := serveTask_createRefundRecord hs
      exact ⟨id, paymentId, r.amount, refundIdOf_recordOut v noVars id p, worksOn_recorded hpayment hr hid⟩
    | attempts _ _ => cases hnode'
    | meanwhile _ => cases hnode'
    | begins hn => cases hn
    | hears hn _ => cases hn
    | timesOut hn => cases hn
    | decides hn _ => cases hn
    | chooses hn _ => cases hn

/-- A result hits the refund that the process works on. -/
theorem hits_step {moves : List (Move RefundNode Topic Value Db)}
    (step : Step processRefundWorkflow (refundSurroundings cfg (othersCommit cfg)) i l i') (h : WorksOnRecorded moves i) :
    HitsRecorded (recordedRefund moves) ⟨i, l, i'⟩ := by
  intro htries
  obtain ⟨hnode, env, r, hp⟩ := tries_persistRefundResult step htries
  obtain ⟨id, paymentId, amount, hrecorded, hworks⟩ := h (by rw [hnode]; rfl)
  obtain ⟨row, hrow, rfl, _⟩ := hworks.row
  exact ⟨id, row, hrecorded, hworks.refund, hrow, touches_persistRefundResult hworks.refund hworks.payment hp⟩

end

/-! ## Every run -/

/-- **A result is recorded for the refund that the process recorded**, and changes it and its payment alone, in the runs where each
result that is heard names the refund that the process works on. -/
theorem results_hit (cfg : Config) (v : Vars Value) (s : Db) {moves : List (Move RefundNode Topic Value Db)}
    {i : Instance RefundNode Value Db}
    (run : Run processRefundWorkflow (refundSurroundings cfg (othersCommit cfg)) ⟨.startEventRefundRequested, v, s⟩ moves i)
    (hok : ∀ m ∈ moves, NamesOwnRefund m) : ∀ pre m post, moves = pre ++ m :: post → HitsRecorded (recordedRefund pre) m := by
  have hall := run.invariant NamesOwnRefund
    (fun moves i => WorksOnRecorded moves i ∧ ∀ pre m post, moves = pre ++ m :: post → HitsRecorded (recordedRefund pre) m)
    ⟨fun h => (by cases h), fun pre m post h => (by cases pre <;> cases h)⟩ (fun moves i l i' _ step hm ⟨hworks, hhits⟩ => ?_) hok
  · exact hall.2
  · refine ⟨worksOnRecorded_step step hm hworks, fun pre m post heq => ?_⟩
    rcases List.eq_nil_or_concat post with rfl | ⟨post', last, rfl⟩
    · obtain ⟨rfl, hlast⟩ := List.append_inj' heq rfl
      cases hlast
      exact hits_step step hworks
    · have heq' : moves ++ [⟨i, l, i'⟩] = (pre ++ m :: post') ++ [last] := by simpa using heq
      exact hhits pre m post' (List.append_inj' heq' rfl).1

/-! ### A result for another refund -/

/-- Another refund of the sample payment waits. -/
def otherRefund : Refund where
  paymentId := 10
  amount := 4000000
  status := .pending
  reason := "Return"
  providerRefundId := some "RF_2"
  idempotencyKey := some (.text "other")
  failureReason := none
  refundedAt := none
  retryCount := 0
  gatewayStatus := some "REQUESTED"
  workflowResolution := none
  adminNote := none
  createdAt := 1

/-- The refund of a part of the sample payment, beside the other one. -/
def besideOther : Instance RefundNode Value Db where
  node := .startEventRefundRequested
  vars := noVars.merge (startRefundWorkflow (Uuid.text 10) (some (Uuid.text 1)) (some (Uuid.text 1)) (.num 60000) "Return"
    (some "return") true)
  world.rows t :=
    match t with
    | .refunds => (∅ : Table Uuid Refund).insert 21 otherRefund
    | t => (shopPaid { sampleOrder with status := .delivered, inventoryState := .committed }).rows t
  world.log := []

/-- The provider's success for a refund of the sample payment, signed. -/
def successOf (refundId : Uuid) : RefundWebhook where
  provider := "momo"
  fields := [("paymentId", .str (Uuid.text 10)), ("refundId", .str (Uuid.text refundId)), ("refundResult", .str "SUCCESS")]
  signature := some ("shared" ++ (Json.obj [("paymentId", .str (Uuid.text 10)), ("refundId", .str (Uuid.text refundId)),
    ("refundResult", .str "SUCCESS")]).stringify)

/-- The variables of a result, when it is accepted. -/
def RefundWebhook.variables (w : RefundWebhook) : Option (List (String × Value)) :=
  match w.handle sampleConfig with
  | .error _ => none
  | .ok m =>
    match m.refundId, m.providerRefundId, m.refundResult with
    | .str refundId, .str providerRefundId, .str result => some (m.variables refundId providerRefundId result)
    | _, _, _ => none

theorem refundResult_heard {w : RefundWebhook} {carried : List (String × Value)} (h : w.variables = some carried) :
    refundResult sampleConfig carried := by
  unfold RefundWebhook.variables at h
  split at h
  · cases h
  · rename_i m hm
    split at h
    · rename_i refundId providerRefundId result h1 h2 h3
      cases h
      exact ⟨w, m, refundId, providerRefundId, result, hm, h1, h2, h3, rfl⟩
    · cases h

/-- The process waits for its result, and hears of a refund. -/
def hearing (refundId : Uuid) : Option (List (Move RefundNode Topic Value Db) × Instance RefundNode Value Db) :=
  (successOf refundId).variables.bind fun carried =>
    play processRefundWorkflow (execTask sampleConfig) (toRefundWait 20 ++ [.hear carried, .serve (sampleEnv 3 22 101)]) [] besideOther

theorem hearing_run {refundId : Uuid} {moves : List (Move RefundNode Topic Value Db)} {i : Instance RefundNode Value Db}
    (h : hearing refundId = some (moves, i)) :
    Run processRefundWorkflow (refundSurroundings sampleConfig (othersCommit sampleConfig)) besideOther moves i := by
  obtain ⟨carried, hcarried, hplay⟩ := Option.bind_eq_some_iff.1 h
  refine play_run (execTask_serves sampleConfig) (fun act hact => ?_) .nil hplay
  simp only [toRefundWait, List.mem_append, List.mem_cons, List.not_mem_nil, or_false] at hact
  rcases hact with (rfl | rfl | rfl | rfl | rfl | rfl | rfl | rfl) | rfl | rfl
  case inr.inl => exact fun _ _ _ => refundResult_heard hcarried
  all_goals trivial

/-- `NamesOwnRefund`, computed. -/
def namesOwnRefund (m : Move RefundNode Topic Value Db) : Bool :=
  match m.label with
  | .hears _ carried => refundIdOf (noVars.merge carried) == refundIdOf m.before.vars
  | _ => true

theorem namesOwnRefund_of {m : Move RefundNode Topic Value Db} (h : namesOwnRefund m = true) : NamesOwnRefund m := by
  intro name carried hl
  unfold namesOwnRefund at h
  rw [hl] at h
  exact beq_iff_eq.1 h

/-- Its own success is recorded for its own refund. -/
theorem ownResult_hits : ∃ moves i, hearing 20 = some (moves, i) ∧ i.node = .gatewayIsRefundSuccessful ∧
    ∀ pre m post, moves = pre ++ m :: post → HitsRecorded (recordedRefund pre) m := by
  have hplay : (hearing 20).map (fun r => (r.2.node, r.1.all namesOwnRefund)) = some (.gatewayIsRefundSuccessful, true) := by
    decide +kernel
  obtain ⟨⟨moves, i⟩, hi, hlast⟩ := Option.map_eq_some_iff.1 hplay
  obtain ⟨hnode, hok⟩ := Prod.mk.inj hlast
  exact ⟨moves, i, hi, hnode, results_hit sampleConfig _ _ (hearing_run hi) fun m hm => namesOwnRefund_of (List.all_eq_true.1 hok m hm)⟩

/-- The move records a result for this refund. -/
def recordsFor (id : Uuid) (m : Move RefundNode Topic Value Db) : Bool :=
  (match m.label with | .serves .persistRefundResultTransaction _ => true | _ => false) && refundIdOf m.before.vars == some id

/-- The success of the other refund is recorded for that one, by the process that recorded its own. -/
theorem otherResult_hits : ¬ ∀ v s moves i,
    Run processRefundWorkflow (refundSurroundings sampleConfig (othersCommit sampleConfig)) ⟨.startEventRefundRequested, v, s⟩ moves i →
      ∀ pre m post, moves = pre ++ m :: post → HitsRecorded (recordedRefund pre) m := by
  intro h
  have hplay : (hearing 21).map (fun r => (recordedRefund r.1.dropLast, r.1.getLast?.map (recordsFor 21))) =
      some (some 20, some true) := by
    decide +kernel
  obtain ⟨⟨moves, i⟩, hi, hlast⟩ := Option.map_eq_some_iff.1 hplay
  obtain ⟨hrecorded, hrecords⟩ := Prod.mk.inj hlast
  obtain ⟨m, hm, hfor⟩ := Option.map_eq_some_iff.1 hrecords
  have hmoves : moves = moves.dropLast ++ m :: [] := (List.dropLast_append_getLast? m hm).symm
  unfold recordsFor at hfor
  obtain ⟨hlabel, hvars⟩ := Bool.and_eq_true_iff.1 hfor
  have htries : m.Tries .persistRefundResultTransaction := by
    split at hlabel
    · rename_i out hl
      exact .inl ⟨out, hl⟩
    · cases hlabel
  obtain ⟨id, _, hid, hid', _⟩ := h _ _ moves i (hearing_run hi) _ m [] hmoves htries
  rw [hrecorded] at hid
  rw [beq_iff_eq.1 hvars, ← hid] at hid'
  exact absurd hid' (by decide)

end Balii
