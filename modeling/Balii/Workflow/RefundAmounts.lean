import Balii.Workflow.RefundIds
/-!
# Workflow.RefundAmounts — over how much the settled refund is

What was asked for and what an admin approved stand in variables of their own, and the record's task takes the later of them; but
a refund that has the process's key already is taken as it is, over the amount of its own time.
-/
namespace Balii

open Rowdb Rowdb.System Bpmn Tx Procedure

/-! ## What was approved, and what was settled -/

/-- The amount approved in the last decision of these moves. -/
def approvedAmount (moves : List (Move RefundNode Topic Value Db)) : Option Value :=
  moves.foldl (fun last m =>
    match m.label with
    | .decides out => given (noVars.merge out) "approvedRefundAmount"
    | _ => last) none

/-- What was approved last, or else what was asked for. -/
def amountDue (requested : JsNumber) (moves : List (Move RefundNode Topic Value Db)) : JsNumber :=
  ((approvedAmount moves).map Value.toNumber).getD requested

/-- The refund whose result was recorded last in these moves. -/
def settledRefund (moves : List (Move RefundNode Topic Value Db)) : Option Uuid :=
  moves.foldl (fun last m =>
    match m.label with
    | .serves .persistRefundResultTransaction _ => refundIdOf m.before.vars
    | _ => last) none

/-- **Where the process ends with its refund completed, the refund it settled is of its payment and over the amount due**, as the column
stores it. -/
def RefundsDue (paymentId : Option Uuid) (requested : JsNumber) (moves : List (Move RefundNode Topic Value Db))
    (i : Instance RefundNode Value Db) : Prop :=
  i.node = .endEventRefundCompleted → ∃ id r amount, settledRefund moves = some id ∧ i.world.find Tab.refunds id = some r ∧
    paymentId = some r.paymentId ∧ (amountDue requested moves).hundredths = some amount ∧ r.amount = numeric amount

/-- Where a refund is recorded, one that stands for the request already is over the same amount. -/
def RecordsDue (m : Move RefundNode Topic Value Db) : Prop :=
  ∀ out, m.label = .serves .createRefundRecord out → ∀ amount, (recordedAmount m.before.vars).hundredths = some amount →
    ∀ paymentId k r, paymentIdOf m.before.vars = some paymentId → m.before.world.find Tab.refunds k = some r →
      r.answers paymentId amount (refundKeyOf m.before.vars) = true → r.amount = numeric amount

section
variable {moves : List (Move RefundNode Topic Value Db)} {m : Move RefundNode Topic Value Db}

theorem approvedAmount_snoc (moves : List (Move RefundNode Topic Value Db)) (m : Move RefundNode Topic Value Db) :
    approvedAmount (moves ++ [m]) =
      match m.label with
      | .decides out => given (noVars.merge out) "approvedRefundAmount"
      | _ => approvedAmount moves := by
  unfold approvedAmount
  rw [List.foldl_append]
  rfl

theorem settledRefund_snoc (moves : List (Move RefundNode Topic Value Db)) (m : Move RefundNode Topic Value Db) :
    settledRefund (moves ++ [m]) =
      match m.label with
      | .serves .persistRefundResultTransaction _ => refundIdOf m.before.vars
      | _ => settledRefund moves := by
  unfold settledRefund
  rw [List.foldl_append]
  rfl

theorem amountDue_snoc (requested : JsNumber) (h : ∀ out, m.label ≠ .decides out) :
    amountDue requested (moves ++ [m]) = amountDue requested moves := by
  unfold amountDue
  rw [approvedAmount_snoc]
  split
  · rename_i out hl
    exact absurd hl (h out)
  · rfl

end

/-! ## The variables of the amounts -/

section
variable {cfg : Config} {v : Vars Value} {s s' : Db}

theorem given_merge {changes : List (String × Value)} {name : String} (h : name ∉ changes.map Prod.fst) :
    given (v.merge changes) name = given v name := by
  unfold given
  rw [Vars.merge_of_notMem v h]

theorem numberOf_approved (approved : Option Value) (amount : Option Value) :
    numberOf (approved.or amount) = (approved.map Value.toNumber).getD (numberOf amount) := by
  cases approved <;> rfl

theorem serveTask_validateRefundRequest {out : List (String × Value)} (h : serveTask cfg .validateRefundRequest v s out s') :
    paymentIdOf (v.merge out) = paymentIdOf v ∧ numberOf (v.merge out "amount") = numberOf (v "amount") := by
  obtain ⟨_, env, hp⟩ := h
  obtain ⟨context, _, hcontext, hdone⟩ := Performs.of_bind_ok hp
  obtain ⟨rfl, rfl⟩ := Performs.alone_done_ok hdone
  obtain ⟨request, _, hrequest, h1⟩ := Performs.of_bind_ok hcontext
  obtain ⟨found, _, hread, h2⟩ := Performs.of_bind_ok h1
  obtain ⟨payment, _, hneed, h3⟩ := Performs.of_bind_ok h2
  obtain ⟨rfl, rfl⟩ := Performs.alone_done_ok h3
  obtain ⟨rfl, hpayment⟩ := Performs.alone_need_ok hneed
  obtain ⟨_, rfl⟩ := alone_read_ok hread
  obtain ⟨text, _, htext, h4⟩ := Performs.of_bind_ok hrequest
  obtain ⟨reason, _, _, h5⟩ := Performs.of_bind_ok h4
  obtain ⟨_, _, _, h6⟩ := Performs.of_bind_ok h5
  obtain ⟨id, _, hid, h7⟩ := Performs.of_bind_ok h6
  obtain ⟨rfl, rfl⟩ := Performs.alone_done_ok h7
  have hid : Uuid.ofText text = some id := (Performs.alone_need_ok hid).2
  have htext : nonEmpty (textOf v "paymentId") = some text := (Performs.alone_need_ok htext).2
  obtain ⟨p, hp, rfl⟩ := Option.map_eq_some_iff.1 hpayment
  have hpaymentId : paymentIdOf v = some id := by
    have htextOf : textOf v "paymentId" = some text := (Option.filter_eq_some_iff.1 htext).1
    rw [paymentIdOf, htextOf]
    exact hid
  constructor
  · rw [hpaymentId]
    simp [paymentIdOf, textOf, Vars.merge_cons, Vars.set_apply]
  · simp [Vars.merge_cons, Vars.set_apply, numberOf, Value.toNumber]

theorem paymentIdOf_task {topic : Topic} {out : List (String × Value)} (htopic : topic ∈ refundTopics) (h : serveTask cfg topic v s out s') :
    paymentIdOf (v.merge out) = paymentIdOf v ∧ numberOf (v.merge out "amount") = numberOf (v "amount") := by
  by_cases hrequest : topic = .validateRefundRequest
  · subst hrequest
    exact serveTask_validateRefundRequest h
  · have hnone : "paymentId" ∉ topic.sets ∧ "amount" ∉ topic.sets := by
      revert hrequest
      cases topic <;> decide
    refine ⟨paymentIdOf_merge (serveTask_keeps h htopic hnone.1), ?_⟩
    rw [Vars.merge_of_notMem v (serveTask_keeps h htopic hnone.2)]

theorem recordedAmount_checked {out : List (String × Value)} (h : serveTask cfg .checkRefundIdempotency v s out s') :
    recordedAmount (v.merge out) = requestedAmount v := by
  have hout : ∃ a b c, out = [("refundAlreadyExists", a), ("refundId", b), ("providerRefundId", c),
      ("effectiveRefundAmount", .number (requestedAmount v))] := by
    obtain ⟨_, env, hp⟩ := h
    obtain ⟨paymentId, _, _, h1⟩ := Performs.of_bind_ok hp
    obtain ⟨amount, _, _, h2⟩ := Performs.of_bind_ok h1
    obtain ⟨existing, _, _, h3⟩ := Performs.of_bind_ok h2
    exact ⟨_, _, _, (Performs.alone_done_ok h3).2⟩
  obtain ⟨a, b, c, rfl⟩ := hout
  unfold recordedAmount requestedAmount
  rw [given_merge (by simp)]
  cases given v "approvedRefundAmount" with
  | some x => rfl
  | none =>
    have heffective : given (v.merge [("refundAlreadyExists", a), ("refundId", b), ("providerRefundId", c),
        ("effectiveRefundAmount", .number (numberOf (v "amount")))]) "effectiveRefundAmount" =
        some (.number (numberOf (v "amount"))) := by
      simp [given, Vars.merge_cons, Vars.set_apply, Option.filter]
    simp only [Option.none_or]
    rw [heffective]
    rfl

end

/-! ## Every step -/

/-- After a result is recorded, and before the process goes back to its gateway. -/
def RefundNode.afterResult : RefundNode → Bool
  | gatewayIsRefundSuccessful => true
  | taskSignalOutboxPublisherRefunded => true
  | taskNotifyCustomerRefunded => true
  | endEventRefundCompleted => true
  | _ => false

/-- **What the process carries of its amounts.** -/
structure Amounts (payment : Option Uuid) (requested : JsNumber) (moves : List (Move RefundNode Topic Value Db))
    (i : Instance RefundNode Value Db) : Prop where
  approved : given i.vars "approvedRefundAmount" = approvedAmount moves
  payment : paymentIdOf i.vars = payment
  amount : numberOf (i.vars "amount") = requested
  record : i.node = .taskCreateRefundRecord → recordedAmount i.vars = amountDue requested moves
  works : i.node.worksOnRefund = true → ∃ id paymentId amount, WorksOn i.vars i.world id paymentId (numeric amount) ∧
    (amountDue requested moves).hundredths = some amount
  settled : i.node.afterResult = true → settledRefund moves = refundIdOf i.vars

section
variable {cfg : Config} {payment : Option Uuid} {requested : JsNumber} {moves : List (Move RefundNode Topic Value Db)}
  {i i' : Instance RefundNode Value Db}
  {l : Label Topic Value}

theorem Amounts.requestedAmount (h : Amounts payment requested moves i) : requestedAmount i.vars = amountDue requested moves := by
  unfold Balii.requestedAmount amountDue
  rw [numberOf_approved, h.approved, h.amount]

theorem approved_step (step : Step processRefundWorkflow (refundSurroundings cfg (othersCommit cfg)) i l i')
    (h : given i.vars "approvedRefundAmount" = approvedAmount moves) :
    given i'.vars "approvedRefundAmount" = approvedAmount (moves ++ [⟨i, l, i'⟩]) := by
  rw [approvedAmount_snoc]
  cases step with
  | serves hn hs =>
    have htopic := mem_refundTopics hn
    have hnone : ∀ topic ∈ refundTopics, "approvedRefundAmount" ∉ topic.sets := by decide
    exact (given_merge (serveTask_keeps hs htopic (hnone _ htopic))).trans h
  | hears hn hm =>
    obtain ⟨_, m, _, _, _, _, _, _, _, rfl⟩ := hm
    exact (given_merge (by simp [RefundResultMessage.variables])).trans h
  | decides hn hd =>
    obtain ⟨f, rfl⟩ := hd
    simp [given, AdminForm.variables, Vars.merge_cons, Vars.set_apply]
  | begins hn => exact h
  | attempts hn hs => exact h
  | timesOut hn => exact h
  | chooses hn hc => exact h
  | meanwhile hothers => exact h

theorem request_step (step : Step processRefundWorkflow (refundSurroundings cfg (othersCommit cfg)) i l i') :
    paymentIdOf i'.vars = paymentIdOf i.vars ∧ numberOf (i'.vars "amount") = numberOf (i.vars "amount") := by
  have hcarried : ∀ {v : Vars Value} {changes : List (String × Value)}, "paymentId" ∉ changes.map Prod.fst →
      "amount" ∉ changes.map Prod.fst →
        paymentIdOf (v.merge changes) = paymentIdOf v ∧ numberOf (v.merge changes "amount") = numberOf (v "amount") :=
    fun hpayment hamount => ⟨paymentIdOf_merge hpayment, congrArg numberOf (Vars.merge_of_notMem _ hamount)⟩
  cases step with
  | serves hn hs => exact paymentIdOf_task (mem_refundTopics hn) hs
  | hears hn hm =>
    obtain ⟨_, m, _, _, _, _, _, _, _, rfl⟩ := hm
    exact hcarried (by simp [RefundResultMessage.variables]) (by simp [RefundResultMessage.variables])
  | decides hn hd =>
    obtain ⟨f, rfl⟩ := hd
    exact hcarried (by simp [AdminForm.variables]) (by simp [AdminForm.variables])
  | _ => exact ⟨rfl, rfl⟩

/-- The record is reached from the check before it. -/
theorem record_step (step : Step processRefundWorkflow (refundSurroundings cfg (othersCommit cfg)) i l i')
    (h : Amounts payment requested moves i) (hnode : i'.node = .taskCreateRefundRecord) :
    recordedAmount i'.vars = amountDue requested (moves ++ [⟨i, l, i'⟩]) := by
  cases step with
  | @serves n next _ v _ _ out hn hs =>
    obtain rfl : next = .taskCreateRefundRecord := hnode
    rw [amountDue_snoc requested (fun _ => by rintro ⟨⟩)]
    cases n <;> cases hn
    exact (recordedAmount_checked hs).trans h.requestedAmount
  | attempts _ _ =>
    rw [amountDue_snoc requested (fun _ => by rintro ⟨⟩)]
    exact h.record hnode
  | meanwhile _ =>
    rw [amountDue_snoc requested (fun _ => by rintro ⟨⟩)]
    exact h.record hnode
  | @begins n _ _ _ hn =>
    cases n <;> cases hn
    cases hnode
  | @hears n _ _ _ _ _ _ hn _ =>
    cases n <;> cases hn
    cases hnode
  | @timesOut n _ _ _ _ _ hn =>
    cases n <;> cases hn
    cases hnode
  | @decides n _ _ _ _ hn _ =>
    cases n <;> cases hn
    cases hnode
  | @chooses n next _ _ _ hn hc =>
    obtain rfl : next = .taskCreateRefundRecord := hnode
    obtain ⟨c, hmem, _⟩ := choose_mem hc
    cases n <;> cases hn <;> simp at hmem

/-- **The refund that is recorded is over the amount due**, and stays so. -/
theorem works_step (step : Step processRefundWorkflow (refundSurroundings cfg (othersCommit cfg)) i l i')
    (hown : NamesOwnRefund ⟨i, l, i'⟩) (hdue : RecordsDue ⟨i, l, i'⟩) (h : Amounts payment requested moves i)
    (hnode' : i'.node.worksOnRefund = true) : ∃ id paymentId amount, WorksOn i'.vars i'.world id paymentId (numeric amount) ∧
      (amountDue requested (moves ++ [⟨i, l, i'⟩])).hundredths = some amount := by
  rcases worksOnRefund_step step hnode' with hnode | hnode
  · obtain ⟨id, paymentId, amount, hworks, hamount⟩ := h.works hnode
    refine ⟨id, paymentId, amount, worksOn_step step hown hnode hnode' hworks, ?_⟩
    rw [amountDue_snoc requested fun out hl => ?_]
    · exact hamount
    · obtain rfl : l = .decides out := hl
      cases step with
      | @decides n _ _ _ _ hn _ =>
        cases n <;> cases hn
        cases hnode
  · obtain ⟨n, v, s⟩ := i
    obtain rfl : n = .taskCreateRefundRecord := hnode
    have hrecorded : recordedAmount v = amountDue requested moves := h.record rfl
    cases step with
    | serves hn hs =>
      cases hn
      rw [amountDue_snoc requested (fun _ => by rintro ⟨⟩), ← hrecorded]
      obtain ⟨id, p, paymentId, amount, r, rfl, hpayment, hamount, hr, hid, hor⟩ := serveTask_createRefundRecord hs
      have hover : r.amount = numeric amount := by
        rcases hor with ⟨hthere, hanswers⟩ | hnew
        · exact hdue _ rfl amount hamount paymentId id r hpayment hthere hanswers
        · exact hnew
      refine ⟨id, paymentId, amount, ?_, hamount⟩
      rw [← hover]
      exact worksOn_recorded hpayment hr hid
    | attempts _ _ => cases hnode'
    | meanwhile _ => cases hnode'
    | begins hn => cases hn
    | hears hn _ => cases hn
    | timesOut hn => cases hn
    | decides hn _ => cases hn
    | chooses hn _ => cases hn

/-- The refund of a recorded result is the one that the process works on. -/
theorem settled_step (step : Step processRefundWorkflow (refundSurroundings cfg (othersCommit cfg)) i l i')
    (h : Amounts payment requested moves i) (hnode : i'.node.afterResult = true) :
    settledRefund (moves ++ [⟨i, l, i'⟩]) = refundIdOf i'.vars := by
  rw [settledRefund_snoc]
  cases step with
  | @serves n next topic v s s' out hn hs =>
    have hkept : "refundId" ∉ topic.sets → refundIdOf (v.merge out) = refundIdOf v :=
      fun hset => refundIdOf_merge (serveTask_keeps hs (mem_refundTopics hn) hset)
    cases n with
    | taskPersistRefundResultTransaction =>
      cases hn
      exact (hkept (by decide)).symm
    | taskSignalOutboxPublisherRefunded =>
      cases hn
      exact (h.settled rfl).trans (hkept (by decide)).symm
    | taskNotifyCustomerRefunded =>
      cases hn
      exact (h.settled rfl).trans (hkept (by decide)).symm
    | _ => cases hn <;> cases hnode
  | attempts _ _ => exact h.settled hnode
  | meanwhile _ => exact h.settled hnode
  | @begins n _ _ _ hn =>
    cases n <;> cases hn
    cases hnode
  | @hears n _ _ _ _ _ _ hn _ =>
    cases n <;> cases hn
    cases hnode
  | @timesOut n _ _ _ _ _ hn =>
    cases n <;> cases hn
    cases hnode
  | @decides n _ _ _ _ hn _ =>
    cases n <;> cases hn
    cases hnode
  | @chooses n _ _ _ _ hn hc =>
    obtain ⟨c, hmem, _⟩ := choose_mem hc
    cases n with
    | gatewayIsRefundSuccessful => exact h.settled rfl
    | gatewayRefundRoute =>
      cases hn
      simp only [List.mem_cons, Prod.mk.injEq, List.not_mem_nil, or_false] at hmem
      rcases hmem with ⟨_, rfl⟩ | ⟨_, rfl⟩ | ⟨_, rfl⟩ <;> cases hnode
    | gatewayAdminDecision =>
      cases hn
      simp only [List.mem_cons, Prod.mk.injEq, List.not_mem_nil, or_false] at hmem
      rcases hmem with ⟨_, rfl⟩ | ⟨_, rfl⟩ | ⟨_, rfl⟩ <;> cases hnode
    | gatewayRetryRefund =>
      cases hn
      simp only [List.mem_cons, Prod.mk.injEq, List.not_mem_nil, or_false] at hmem
      rcases hmem with ⟨_, rfl⟩ | ⟨_, rfl⟩ <;> cases hnode
    | _ => cases hn

end

/-! ## Every run -/

/-- **A completed refund is over the amount last approved**, or asked for if none was, in the runs where each result names the refund
that the process works on, and where no refund that stands for the request at its record is over another amount. -/
theorem refunds_due (cfg : Config) (v : Vars Value) (s : Db) (hv : given v "approvedRefundAmount" = none)
    {moves : List (Move RefundNode Topic Value Db)} {i : Instance RefundNode Value Db}
    (run : Run processRefundWorkflow (refundSurroundings cfg (othersCommit cfg)) ⟨.startEventRefundRequested, v, s⟩ moves i)
    (hown : ∀ m ∈ moves, NamesOwnRefund m) (hdue : ∀ m ∈ moves, RecordsDue m) :
    RefundsDue (paymentIdOf v) (numberOf (v "amount")) moves i := by
  have hall := run.invariant (fun m => NamesOwnRefund m ∧ RecordsDue m) (Amounts (paymentIdOf v) (numberOf (v "amount")))
    ⟨hv, rfl, rfl, fun h => (by cases h), fun h => (by cases h), fun h => (by cases h)⟩
    (fun moves i l i' _ step hm h => ⟨approved_step step h.approved, (request_step step).1.trans h.payment,
      (request_step step).2.trans h.amount, record_step step h, works_step step hm.1 hm.2 h, settled_step step h⟩)
    fun m hm => ⟨hown m hm, hdue m hm⟩
  intro hnode
  obtain ⟨id, paymentId, amount, hworks, hamount⟩ := hall.works (by rw [hnode]; rfl)
  obtain ⟨r, hr, hpayment, hover⟩ := hworks.row
  refine ⟨id, r, amount, (hall.settled (by rw [hnode]; rfl)).trans hworks.refund, hr, ?_, hamount, hover⟩
  rw [hpayment, ← hall.payment]
  exact hworks.payment

/-! ### A part that is approved -/

/-- `RecordsDue`, computed. -/
def recordsDue (m : Move RefundNode Topic Value Db) : Bool :=
  match m.label with
  | .serves .createRefundRecord _ =>
    match (recordedAmount m.before.vars).hundredths, paymentIdOf m.before.vars with
    | some amount, some paymentId => ((m.before.world.rows Tab.refunds).select fun _ r =>
        r.answers paymentId amount (refundKeyOf m.before.vars)).all fun e => e.2.amount == numeric amount
    | _, _ => true
  | _ => true

theorem recordsDue_of {m : Move RefundNode Topic Value Db} (h : recordsDue m = true) : RecordsDue m := by
  intro out hl amount hamount paymentId k r hpayment hr hanswers
  unfold recordsDue at h
  rw [hl] at h
  dsimp only at h
  rw [hamount, hpayment] at h
  exact beq_iff_eq.1 (List.all_eq_true.1 h ⟨k, r⟩ (AList.mem_select.2 ⟨hr, hanswers⟩))

/-- The administrator approves a part of the sample refund. -/
def approvedPart : AdminForm := ⟨.partialRefund, none, some 40000⟩

/-- A complaint about the delivered sample order, beside the other refund of its payment. -/
def complaint : Instance RefundNode Value Db where
  node := .startEventRefundRequested
  vars := noVars.merge (startRefundWorkflow (Uuid.text 10) (some (Uuid.text 1)) (some (Uuid.text 1)) (.num 60000) "Complaint"
    (some "complaint") false)
  world := besideOther.world

/-- From the review of the complaint to the end of its process. -/
def complaintPaid (carried : List (String × Value)) : List (Act TaskEnv Value Db) :=
  let env := sampleEnv 2 20 100
  let later := sampleEnv 3 22 101
  let last := sampleEnv 3 23 102
  [.go, .serve env, .serve env, .serve env, .go, .decide approvedPart.variables, .go, .serve env, .serve env, .serve env, .hear carried,
    .serve later, .go, .serve last, .serve last]

/-- The refund of the complaint is over the part that was approved. -/
theorem approvedPart_paid : ∃ moves i, Run processRefundWorkflow (refundSurroundings sampleConfig (othersCommit sampleConfig)) complaint
    moves i ∧ i.node = .endEventRefundCompleted ∧ amountDue (.num 60000) moves = .num 40000 ∧ RefundsDue (some 10) (.num 60000) moves i := by
  have hplay : ((successOf 20).variables.bind fun carried =>
      (play processRefundWorkflow (execTask sampleConfig) (complaintPaid carried) [] complaint).map fun r =>
        (r.2.node, amountDue (.num 60000) r.1, r.1.all fun m => namesOwnRefund m && recordsDue m)) =
      some (.endEventRefundCompleted, .num 40000, true) := by
    decide +kernel
  obtain ⟨carried, hcarried, hmap⟩ := Option.bind_eq_some_iff.1 hplay
  obtain ⟨⟨moves, i⟩, hi, hlast⟩ := Option.map_eq_some_iff.1 hmap
  obtain ⟨hnode, hrest⟩ := Prod.mk.inj hlast
  obtain ⟨hdue, hok⟩ := Prod.mk.inj hrest
  have run := play_run (E := refundSurroundings sampleConfig (othersCommit sampleConfig)) (execTask_serves sampleConfig) (fun act hact => by
    simp only [complaintPaid, List.mem_cons, List.not_mem_nil, or_false] at hact
    rcases hact with rfl | rfl | rfl | rfl | rfl | rfl | rfl | rfl | rfl | rfl | rfl | rfl | rfl | rfl | rfl
    case inr.inr.inr.inr.inr.inl => exact fun _ => ⟨approvedPart, rfl⟩
    case inr.inr.inr.inr.inr.inr.inr.inr.inr.inr.inl => exact fun _ _ _ => refundResult_heard hcarried
    all_goals trivial) .nil hi
  have hmoves := fun m hm => Bool.and_eq_true_iff.1 (List.all_eq_true.1 hok m hm)
  exact ⟨moves, i, run, hnode, hdue, refunds_due sampleConfig _ _ rfl run (fun m hm => namesOwnRefund_of (hmoves m hm).1)
    fun m hm => recordsDue_of (hmoves m hm).2⟩

end Balii
