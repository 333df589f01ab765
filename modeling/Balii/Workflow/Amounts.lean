import Balii.Workflow.Outcomes
/-!
# Workflow.Amounts — the amount a callback reports

The callback's amount is read into a variable, and no gateway and no task reads that variable again: whether it is the
payment's amount is for the provider to say when the callback comes.
-/
namespace Balii

open Rowdb Rowdb.System Bpmn Tx

variable {cfg : Config}

/-- The amount the callback reports. -/
def reportedAmount (v : Vars Value) : Option JsNumber :=
  gatewayAmount ((Json.parse ((textOf v "rawPayload").getD "")).getD (.obj []))

/-- An amount in hundredths is the reported one. -/
def Reports (v : Vars Value) (amount : ℤ) : Prop := reportedAmount v = some (.num ((amount : ℚ) / 100))

/-- If the callback reports a success and the process's payment waits, the amount is the payment's. -/
def AmountFits (v : Vars Value) (s : Db) : Prop :=
  reportedResult v = "SUCCESS" → ∀ k p, paymentIdOf v = some k → s.find Tab.payments k = some p → p.status = .pending →
    Reports v p.amount

/-- The process's payment is there. -/
def Held (v : Vars Value) (s : Db) : Prop := ∀ k, paymentIdOf v = some k → ∃ p, s.find Tab.payments k = some p

/-- A payment is paid by a step of the process only if its amount is the reported one. -/
def AmountChecked (m : Move PaymentNode Topic Value Db) : Prop :=
  m.label ≠ .meanwhile → ∀ k p q, m.before.world.find Tab.payments k = some p → m.after.world.find Tab.payments k = some q →
    p.status ≠ .paid → q.status = .paid → Reports m.before.vars q.amount

/-- The callback that is heard reports the amount, if its success can settle the payment. -/
def HearsAmount (m : Move PaymentNode Topic Value Db) : Prop :=
  ∀ name carried, m.label = .hears name carried → AmountFits (m.before.vars.merge carried) m.before.world

/-! ## What lasts -/

section
variable {v : Vars Value} {c : Commit cfg} {Inv : Db → Prop} {G : List (LockKey schema) → Db → Db → Prop}

theorem held_commit (hf : c.Faithful Inv G) (h : Held v c.before) : Held v c.after := by
  intro k hk
  obtain ⟨p, hp⟩ := h k hk
  obtain ⟨q, hq, _⟩ := payment_after hf hp
  exact ⟨q, hq⟩

/-- A payment that waits has waited before, with this amount. -/
theorem PaymentChange.pending {op : Op} {k : Uuid} {p q : Payment} (h : PaymentChange op k p q) (hq : q.status = .pending) :
    p.status = .pending := by
  cases h with
  | noted h => exact h.status.symm.trans hq
  | cancelled _ hp => exact hp
  | settled _ _ _ hp => exact hp
  | expired _ _ => cases hq
  | refunded _ _ _ =>
    unfold Payment.refund at hq
    dsimp only at hq
    split at hq <;> cases hq

theorem amountFits_commit (hf : c.Faithful Inv G) (hheld : Held v c.before) (h : AmountFits v c.before) : AmountFits v c.after := by
  intro hresult k q hk hq hpend
  obtain ⟨p, hp⟩ := hheld k hk
  obtain ⟨q', hq', hchange⟩ := payment_after hf hp
  cases Option.some.inj (hq'.symm.trans hq)
  rw [hchange.amount]
  exact h hresult k p hk hp (hchange.pending hpend)

end

theorem amountFits_merge {v : Vars Value} {s : Db} {changes : List (String × Value)} (h : AmountFits v s)
    (hp : "paymentId" ∉ changes.map Prod.fst) (hr : "rawPayload" ∉ changes.map Prod.fst) : AmountFits (v.merge changes) s := by
  unfold AmountFits Reports reportedAmount paymentIdOf
  rw [reportedResult_merge hr, textOf_merge hp, textOf_merge hr]
  exact h

theorem held_merge {v : Vars Value} {s : Db} {changes : List (String × Value)} (h : Held v s)
    (hp : "paymentId" ∉ changes.map Prod.fst) : Held (v.merge changes) s := by
  unfold Held paymentIdOf
  rw [textOf_merge hp]
  exact h

/-! ## The tasks -/

section
variable {v : Vars Value} {env : TaskEnv} {topic : Topic} {s s' : Db} {r : Except Err (List (String × Value))}

theorem held_task (h : Performs (S := platform cfg) (Regime.alone (platform cfg)) (handler cfg topic v env) s r s')
    (hs : Held v s) : Held v s' :=
  task_keeps (P := Held v) (fun _ _ hc hheld => held_commit hc hheld) h hs

theorem amountFits_task (h : Performs (S := platform cfg) (Regime.alone (platform cfg)) (handler cfg topic v env) s r s')
    (hs : Held v s) (hfits : AmountFits v s) : AmountFits v s' :=
  (task_keeps (P := fun s => Held v s ∧ AmountFits v s) (fun _ _ hc h => ⟨held_commit hc h.1, amountFits_commit hc h.1 h.2⟩)
    h ⟨hs, hfits⟩).2

/-- **A task of the process pays a payment only with its amount reported**: nothing but the callback's result pays one. -/
theorem paid_by_task (h : Performs (S := platform cfg) (Regime.alone (platform cfg)) (handler cfg topic v env) s r s')
    (htopic : topic ≠ .persistReconciledSuccess ∧ topic ≠ .persistReconciledFailed)
    (hfits : topic = .persistResultTransaction →
      textOf v "paymentResult" = some (reportedResult v) ∧ Held v s ∧ AmountFits v s)
    {k : Uuid} {p q : Payment} (hp : s.find Tab.payments k = some p) (hq : s'.find Tab.payments k = some q)
    (hs : p.status ≠ .paid) (hpaid : q.status = .paid) : Reports v q.amount := by
  have hkept := task_keeps (P := fun b => (topic = .persistResultTransaction → Held v b ∧ AmountFits v b) ∧
      ∃ p', b.find Tab.payments k = some p' ∧ (p'.status = .paid → Reports v p'.amount)) ?_ h
    ⟨fun ht => (hfits ht).2, p, hp, fun hpaid => absurd hpaid hs⟩
  · obtain ⟨_, p', hp', hreports⟩ := hkept
    cases Option.some.inj (hp'.symm.trans hq)
    exact hreports hpaid
  · rintro c hop hc ⟨hfit, p', hp', hreports⟩
    refine ⟨fun ht => ⟨held_commit hc (hfit ht).1, amountFits_commit hc (hfit ht).1 (hfit ht).2⟩, ?_⟩
    obtain ⟨q', hq', hchange⟩ := payment_after hc hp'
    refine ⟨q', hq', fun hpaid' => ?_⟩
    cases hchange with
    | noted h =>
      rw [h.amount]
      exact hreports (h.status.symm.trans hpaid')
    | cancelled _ _ => cases hpaid'
    | expired _ _ => cases hpaid'
    | refunded _ _ _ =>
      unfold Payment.refund at hpaid'
      dsimp only at hpaid'
      split at hpaid' <;> cases hpaid'
    | @settled i hset hk ho hpend =>
      rw [hset] at hop
      cases hop with
      | minor h => cases h
      | reconciled h => exact (h.elim htopic.1 htopic.2).elim
      | result ht hk' _ hr =>
        obtain ⟨hcarried, _⟩ := hfits ht
        have hsuccess : i.paymentResult = "SUCCESS" := by
          by_contra hne
          change i.finalStatus = .paid at hpaid'
          rw [PaymentResultInput.finalStatus, if_neg hne] at hpaid'
          cases hpaid'
        rw [hcarried, hsuccess] at hr
        refine (hfit ht).2 hr k p' ?_ hp' hpend
        rw [hk', hk]

end

/-! ## The process's payment -/

section
variable {v : Vars Value} {env : TaskEnv} {s s' : Db}

theorem alone_existedPayment {e : Option (Uuid × Payment)}
    (h : Performs (S := platform cfg) (Regime.alone (platform cfg)) (existedPayment v) s (.ok e) s') :
    s' = s ∧ ∀ x, e = some x → s.find Tab.payments x.1 = some x.2 := by
  unfold existedPayment at h
  dsimp only at h
  split at h
  · obtain ⟨hs, rfl⟩ := alone_read_ok h
    refine ⟨hs, fun x hx => ?_⟩
    have hmem := mem_newestFirst.1 (List.mem_of_mem_head? (show x ∈ findExistedPayment _ _ s from hx))
    exact (AList.mem_select (k := x.1) (r := x.2).1 hmem).1
  · obtain ⟨hs, rfl⟩ := alone_read_ok h
    exact ⟨hs, fun x hx => (AList.find_some (k := x.1) (r := x.2) hx).1⟩
  · obtain ⟨hs, rfl⟩ := Performs.alone_done_ok h
    exact ⟨hs, fun x hx => nomatch hx⟩

theorem alone_createPayment {out : List (String × Value)}
    (h : Performs (S := platform cfg) (Regime.alone (platform cfg)) (createPaymentTask cfg v env) s (.ok out) s') :
    ∃ k merchant, out = [("paymentId", .text (Uuid.text k)), ("merchantTxnId", merchant)] ∧
      ∃ p, s'.find Tab.payments k = some p := by
  obtain ⟨m, _, _, htail⟩ := Performs.of_bind_ok h
  obtain ⟨orderId, _, _, htail₁⟩ := Performs.of_bind_ok htail
  obtain ⟨userId, _, _, htail₂⟩ := Performs.of_bind_ok htail₁
  obtain ⟨amount, _, _, htail₃⟩ := Performs.of_bind_ok htail₂
  obtain ⟨_, s₁, hcreate, hdone⟩ := Performs.of_bind_ok htail₃
  obtain ⟨rfl, rfl⟩ := Performs.alone_done_ok hdone
  refine ⟨env.newId, _, rfl, ?_⟩
  obtain ⟨_, s₀, _, hcreate₁⟩ := Performs.of_bind_ok hcreate
  obtain ⟨_, s₂, htrans, hcreate₂⟩ := Performs.of_bind_ok hcreate₁
  obtain ⟨_, s₃, htold, hdone'⟩ := Performs.of_bind_ok hcreate₂
  obtain ⟨rfl, _⟩ := Performs.alone_done_ok hdone'
  obtain ⟨call, o, hc, _, rfl⟩ := Performs.alone_trans_ok htrans
  have hthere : ∃ p, (written o.writes s₀).find Tab.payments env.newId = some p := by
    obtain ⟨_, _, hw⟩ := exec_createPayment hc
    rw [hw, written_cons, written_nil, find_insert, if_pos rfl]
    exact ⟨_, rfl⟩
  rcases alone_updateOrderPayment htold with ⟨c, _, hcommit, hbefore, rfl⟩ | ⟨rfl, _, _⟩
  · obtain ⟨p, hp⟩ := hthere
    have hp' : c.before.find Tab.payments env.newId = some p := by
      rw [hbefore]
      exact hp
    obtain ⟨q, hq, _⟩ := payment_after hcommit hp'
    exact ⟨q, hq⟩
  · exact hthere

theorem paymentIdOf_created {v : Vars Value} {k k' : Uuid} {merchant : Value}
    (h : paymentIdOf (v.merge [("paymentId", .text (Uuid.text k)), ("merchantTxnId", merchant)]) = some k') : k' = k := by
  have htext : textOf (v.merge [("paymentId", .text (Uuid.text k)), ("merchantTxnId", merchant)]) "paymentId" = some (Uuid.text k) := by
    simp [textOf, Vars.merge_cons, Vars.set_apply]
  rw [paymentIdOf, htext, Option.bind_some, Uuid.ofText_text] at h
  exact (Option.some.inj h).symm

/-- **The task that finds or makes a payment leaves one that is there.** -/
theorem held_createOrReuse {out : List (String × Value)} (h : serveTask cfg .createOrReusePayment v s out s') :
    Held (v.merge out) s' := by
  obtain ⟨_, env, hp⟩ := h
  obtain ⟨existed, s₁, hexisted, hrest⟩ := Performs.of_bind_ok hp
  obtain ⟨rfl, hfound⟩ := alone_existedPayment hexisted
  have hcreated : Performs (S := platform cfg) (Regime.alone (platform cfg)) (createPaymentTask cfg v env) s₁ (.ok out) s' →
      Held (v.merge out) s' := by
    intro hcreate k hk
    obtain ⟨id, merchant, rfl, hthere⟩ := alone_createPayment hcreate
    rw [paymentIdOf_created hk]
    exact hthere
  cases existed with
  | none => exact hcreated hrest
  | some payment =>
    dsimp only at hrest
    split at hrest
    · obtain ⟨rfl, rfl⟩ := Performs.alone_done_ok hrest
      intro k hk
      rw [paymentIdOf_created hk]
      exact ⟨payment.2, hfound payment rfl⟩
    · exact hcreated hrest

end

/-! ## Every step -/

/-- What the process carries of the callback's amount, node by node. -/
def Amounted (i : Instance PaymentNode Value Db) : Prop :=
  match i.node with
  | .taskGenerateProviderPaymentUrl => Held i.vars i.world
  | .eventWaitGatewayCallback => Held i.vars i.world
  | .taskVerifyHmacSignature => Held i.vars i.world ∧ AmountFits i.vars i.world
  | .gatewayIsSignatureValid =>
    textOf i.vars "paymentResult" = some (reportedResult i.vars) ∧ Held i.vars i.world ∧ AmountFits i.vars i.world
  | .taskCheckDuplicateCallback =>
    textOf i.vars "paymentResult" = some (reportedResult i.vars) ∧ Held i.vars i.world ∧ AmountFits i.vars i.world
  | .taskPersistPaymentResultTransaction =>
    textOf i.vars "paymentResult" = some (reportedResult i.vars) ∧ Held i.vars i.world ∧ AmountFits i.vars i.world
  | _ => True

section
variable {i i' : Instance PaymentNode Value Db} {l : Label Topic Value}

theorem amounted_serves {n next : PaymentNode} {topic : Topic} {v : Vars Value} {s s' : Db} {out : List (String × Value)}
    (hn : n.element = .service topic next) (hs : serveTask cfg topic v s out s') (h : Amounted ⟨n, v, s⟩) :
    Amounted ⟨next, v.merge out, s'⟩ := by
  cases n with
  | taskCreateOrReusePayment =>
    cases hn
    exact held_createOrReuse hs
  | taskGenerateProviderPaymentUrl =>
    cases hn
    obtain ⟨_, env, hp⟩ := hs
    have hheld : Held v s' := held_task hp h
    obtain ⟨_, _, _, hp⟩ := Performs.of_bind_ok hp
    obtain ⟨_, _, _, hp⟩ := Performs.of_bind_ok hp
    obtain ⟨_, _, _, hp⟩ := Performs.of_bind_ok hp
    obtain ⟨_, _, _, hp⟩ := Performs.of_bind_ok hp
    obtain rfl := (Performs.alone_done_ok hp).2
    exact held_merge hheld (by simp)
  | taskVerifyHmacSignature =>
    cases hn
    obtain ⟨b, txn, amount, rfl⟩ := serveTask_yields hs (yields_verifySignature cfg v)
    obtain ⟨_, env, hp⟩ := hs
    obtain rfl : s' = s := alone_verifySignature v env hp
    refine ⟨?_, held_merge h.1 (by simp), amountFits_merge h.2 (by simp) (by simp)⟩
    change textOf (v.merge _) "paymentResult" = some (reportedResult (v.merge _))
    rw [reportedResult_merge (by simp)]
    simp [textOf, Vars.merge_cons, Vars.set_apply, reportedResult]
  | taskCheckDuplicateCallback =>
    cases hn
    obtain ⟨b, rfl⟩ := serveTask_yields hs (yields_checkDuplicateCallback cfg v)
    obtain ⟨_, env, hp⟩ := hs
    obtain rfl : s' = s := alone_checkDuplicateCallback v env hp
    refine ⟨?_, held_merge h.2.1 (by simp), amountFits_merge h.2.2 (by simp) (by simp)⟩
    change textOf (v.merge _) "paymentResult" = some (reportedResult (v.merge _))
    rw [reportedResult_merge (by simp), textOf_merge (by simp)]
    exact h.1
  | _ => cases hn <;> trivial

/-- What changes the world alone, a task that is tried or the commit of another. -/
theorem amounted_world {n : PaymentNode} {v : Vars Value} {s s' : Db} (hheld : Held v s → Held v s')
    (hfits : Held v s → AmountFits v s → AmountFits v s') (h : Amounted ⟨n, v, s⟩) : Amounted ⟨n, v, s'⟩ := by
  cases n with
  | taskGenerateProviderPaymentUrl => exact hheld h
  | eventWaitGatewayCallback => exact hheld h
  | taskVerifyHmacSignature => exact ⟨hheld h.1, hfits h.1 h.2⟩
  | gatewayIsSignatureValid => exact ⟨h.1, hheld h.2.1, hfits h.2.1 h.2.2⟩
  | taskCheckDuplicateCallback => exact ⟨h.1, hheld h.2.1, hfits h.2.1 h.2.2⟩
  | taskPersistPaymentResultTransaction => exact ⟨h.1, hheld h.2.1, hfits h.2.1 h.2.2⟩
  | _ => trivial

theorem amounted_step (step : Step processPaymentProcessing (paymentSurroundings cfg (othersCommit cfg)) i l i')
    (hok : HearsAmount ⟨i, l, i'⟩) (h : Amounted i) : Amounted i' := by
  cases step with
  | @begins n _ _ _ hn =>
    cases n <;> cases hn
    trivial
  | serves hn hs => exact amounted_serves hn hs h
  | attempts hn hs =>
    obtain ⟨_, env, r, hp⟩ := hs
    exact amounted_world (fun hheld => held_task hp hheld) (fun hheld hfits => amountFits_task hp hheld hfits) h
  | @hears n _ _ _ v s carried hn hm =>
    cases n <;> cases hn
    have hfits := hok _ _ rfl
    obtain ⟨_, _, _, m, _, rfl⟩ := hm
    exact ⟨held_merge h (by simp [PaymentCallbackMessage.variables]), hfits⟩
  | @timesOut n _ _ _ _ _ hn =>
    cases n <;> cases hn
    trivial
  | @decides n _ _ _ _ hn hd =>
    cases n <;> cases hn
    trivial
  | @chooses n next flows v s hn hc =>
    obtain ⟨c, hmem, _⟩ := choose_mem hc
    cases n with
    | gatewayIsSignatureValid =>
      cases hn
      simp only [List.mem_cons, Prod.mk.injEq, List.not_mem_nil, or_false] at hmem
      rcases hmem with ⟨_, rfl⟩ | ⟨_, rfl⟩
      · exact h
      · trivial
    | gatewayPaymentResult =>
      cases hn
      simp only [List.mem_cons, Prod.mk.injEq, List.not_mem_nil, or_false] at hmem
      rcases hmem with ⟨_, rfl⟩ | ⟨_, rfl⟩ | ⟨_, rfl⟩ <;> trivial
    | gatewayManualReviewDecision =>
      cases hn
      simp only [List.mem_cons, Prod.mk.injEq, List.not_mem_nil, or_false] at hmem
      rcases hmem with ⟨_, rfl⟩ | ⟨_, rfl⟩ | ⟨_, rfl⟩ <;> trivial
    | _ => cases hn
  | @meanwhile n v s s' hothers =>
    obtain ⟨c, hc, rfl, rfl⟩ := hothers
    exact amounted_world (fun hheld => held_commit hc hheld) (fun hheld hfits => amountFits_commit hc hheld hfits) h

/-- A node of the process has no task of the reconciliation, and its result is recorded at one node. -/
theorem paymentTopics {n next : PaymentNode} {topic : Topic} (hn : n.element = .service topic next) :
    (topic ≠ .persistReconciledSuccess ∧ topic ≠ .persistReconciledFailed) ∧
      (topic = .persistResultTransaction → n = .taskPersistPaymentResultTransaction) := by
  cases n <;> cases hn <;> decide

theorem task_amountChecked {n next : PaymentNode} {topic : Topic} {v : Vars Value} {env : TaskEnv} {s s' : Db}
    {r : Except Err (List (String × Value))} (hn : n.element = .service topic next) (h : Amounted ⟨n, v, s⟩)
    (hp : Performs (S := platform cfg) (Regime.alone (platform cfg)) (handler cfg topic v env) s r s') :
    ∀ k p q, s.find Tab.payments k = some p → s'.find Tab.payments k = some q → p.status ≠ .paid → q.status = .paid →
      Reports v q.amount := by
  intro k p q hp' hq hs hpaid
  obtain ⟨htopic, hnode⟩ := paymentTopics hn
  refine paid_by_task hp htopic (fun ht => ?_) hp' hq hs hpaid
  have hhere := hnode ht
  subst hhere
  exact h

theorem step_amountChecked (step : Step processPaymentProcessing (paymentSurroundings cfg (othersCommit cfg)) i l i')
    (h : Amounted i) : AmountChecked ⟨i, l, i'⟩ := by
  intro hlabel
  have hsame : ∀ k p q, i.world.find Tab.payments k = some p → i.world.find Tab.payments k = some q → p.status ≠ .paid →
      q.status = .paid → Reports i.vars q.amount := by
    intro k p q hp hq hs hpaid
    cases Option.some.inj (hp.symm.trans hq)
    exact absurd hpaid hs
  cases step with
  | serves hn hs =>
    obtain ⟨_, env, hp⟩ := hs
    exact task_amountChecked hn h hp
  | attempts hn hs =>
    obtain ⟨_, env, r, hp⟩ := hs
    exact task_amountChecked hn h hp
  | meanwhile _ => exact absurd rfl hlabel
  | begins _ => exact hsame
  | hears _ _ => exact hsame
  | timesOut _ => exact hsame
  | decides _ _ => exact hsame
  | chooses _ _ => exact hsame

end

/-! ## Every run -/

/-- **The process pays a payment only with its amount reported** in the runs where each callback that is heard, if it reports a
success and the process's payment waits, reports the payment's amount. -/
theorem amounts_checked (cfg : Config) (v : Vars Value) (s : Db) {moves : List (Move PaymentNode Topic Value Db)}
    {i : Instance PaymentNode Value Db}
    (run : Run processPaymentProcessing (paymentSurroundings cfg (othersCommit cfg)) ⟨.startEventPaymentRequested, v, s⟩ moves i)
    (hok : ∀ m ∈ moves, HearsAmount m) : ∀ m ∈ moves, AmountChecked m := by
  intro m hm
  obtain ⟨pre, post, rfl, hpre, step⟩ := run.mem hm
  have h := hpre.invariant HearsAmount (fun _ j => Amounted j) (show Amounted ⟨.startEventPaymentRequested, v, s⟩ from trivial)
    (fun _ _ _ _ _ step hm h => amounted_step step hm h) fun m' hm' => hok m' (List.mem_append_left _ hm')
  exact step_amountChecked step h

/-- `AmountFits`, computed. -/
def amountFits (v : Vars Value) (s : Db) : Bool :=
  reportedResult v != "SUCCESS" || ((paymentIdOf v).bind fun k => s.find Tab.payments k).all fun p =>
    p.status != .pending || reportedAmount v == some (.num ((p.amount : ℚ) / 100))

theorem amountFits_iff {v : Vars Value} {s : Db} (h : amountFits v s = true) : AmountFits v s := by
  intro hresult k p hk hp hpend
  unfold amountFits at h
  rw [hresult, hk, Option.bind_some, hp] at h
  simp only [bne_self_eq_false, Bool.false_or, Option.all_some, hpend] at h
  exact beq_iff_eq.1 h

def hearsAmount (m : Move PaymentNode Topic Value Db) : Bool :=
  match m.label with
  | .hears _ carried => amountFits (m.before.vars.merge carried) m.before.world
  | _ => true

theorem hearsAmount_of {m : Move PaymentNode Topic Value Db} (h : hearsAmount m = true) : HearsAmount m := by
  intro name carried hl
  unfold hearsAmount at h
  rw [hl] at h
  exact amountFits_iff h

/-! ### A callback of another amount -/

/-- A signed success with this amount, for the waiting payment of the sample order. -/
def successFields (amount : String) : List (String × Json) := [("status", .str "SUCCESS"), ("amount", .str amount)]

def successPlayed (amount : String) : Option (List (Move PaymentNode Topic Value Db) × Instance PaymentNode Value Db) :=
  play processPaymentProcessing (execTask sampleConfig) (toRecord (successFields amount)) []
    (sampleProcess sampleOrder { samplePayment with status := .pending, paidAt := none })

theorem successPlayed_run {amount : String} {moves : List (Move PaymentNode Topic Value Db)} {i : Instance PaymentNode Value Db}
    (hheard : paymentCallback sampleConfig (callbackVariables (successFields amount)))
    (hi : successPlayed amount = some (moves, i)) :
    Run processPaymentProcessing (paymentSurroundings sampleConfig (othersCommit sampleConfig))
      (sampleProcess sampleOrder { samplePayment with status := .pending, paidAt := none }) moves i := by
  refine play_run (execTask_serves sampleConfig) (fun act hact => ?_) .nil hi
  simp only [toRecord, List.mem_cons, List.not_mem_nil, or_false] at hact
  rcases hact with rfl | rfl | rfl | rfl | rfl | rfl | rfl | rfl | rfl | rfl
  case inr.inr.inr.inr.inr.inl => exact fun _ _ _ => hheard
  all_goals trivial

/-- With the payment's amount the payment is paid, and checked. -/
theorem fullAmount_checked : ∃ moves i, successPlayed "100000" = some (moves, i) ∧
    (i.world.find Tab.payments 10).map (fun p => p.status) = some .paid ∧ ∀ m ∈ moves, AmountChecked m := by
  have hplay : (successPlayed "100000").map (fun r =>
      ((r.2.world.find Tab.payments 10).map fun p => p.status, r.1.all hearsAmount)) = some (some .paid, true) := by
    decide +kernel
  obtain ⟨⟨moves, i⟩, hi, hlast⟩ := Option.map_eq_some_iff.1 hplay
  obtain ⟨hpaid, hok⟩ := Prod.mk.inj hlast
  have run := successPlayed_run (callbackVariables_heard (by decide +kernel)) hi
  exact ⟨moves, i, hi, hpaid, amounts_checked sampleConfig _ _ run fun m hm => hearsAmount_of (List.all_eq_true.1 hok m hm)⟩

/-- Whether the move pays the sample payment. -/
def paysSample (m : Move PaymentNode Topic Value Db) : Bool :=
  (match m.label with | .meanwhile => false | _ => true) &&
    (m.before.world.find Tab.payments 10).any (fun p => p.status != .paid) &&
    (m.after.world.find Tab.payments 10).any (fun q => q.status == .paid && reportedAmount m.before.vars != some (.num ((q.amount : ℚ) / 100)))

/-- A success over one dong pays a payment of 100,000. -/
theorem oneDong_pays : ¬ ∀ v s moves i,
    Run processPaymentProcessing (paymentSurroundings sampleConfig (othersCommit sampleConfig)) ⟨.startEventPaymentRequested, v, s⟩
      moves i → ∀ m ∈ moves, AmountChecked m := by
  intro h
  have hplay : (successPlayed "1").map (fun r => r.1.any paysSample) = some true := by decide +kernel
  obtain ⟨⟨moves, i⟩, hi, hany⟩ := Option.map_eq_some_iff.1 hplay
  have run := successPlayed_run (callbackVariables_heard (by decide +kernel)) hi
  obtain ⟨m, hm, hpays⟩ := List.any_eq_true.1 hany
  have hchecked := h _ _ moves i run m hm
  unfold paysSample at hpays
  simp only [Bool.and_eq_true, Option.any_eq_true, bne_iff_ne, beq_iff_eq] at hpays
  obtain ⟨⟨hlabel, p, hp, hs⟩, q, hq, hpaid, hne⟩ := hpays
  refine hne (hchecked (fun heq => ?_) 10 p q hp hq hs hpaid)
  rw [heq] at hlabel
  cases hlabel

end Balii
