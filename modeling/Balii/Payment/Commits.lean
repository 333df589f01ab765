import Balii.Order.Commits
/-!
# Payment.Commits — what the transactions of the payment service commit to

First what each transaction leaves written, then, said once for all of them, what one commit can make of one payment.
-/
namespace Balii

open Rowdb Tx Sql

section Statements

variable {R : List (LockKey schema) → Db → Db → Prop} {s : Db} {L : List (LockKey schema)} {ws : List (Write schema)}

/-! ## Payments -/

theorem exec_saveWebhook {hash : String} {w : Webhook} {o : Outcome (LockKey schema) (Write schema) Unit}
    (h : Exec R (saveWebhook hash w) s L ws o) :
    ((written ws s).find Tab.webhooks hash = none ∧ o.writes = ws ++ [.insert Tab.webhooks hash w]) ∨
      (∃ x, (written ws s).find Tab.webhooks hash = some x) ∧ o.writes = ws := by
  unfold saveWebhook at h
  simp only [exec_bind, exec_select, exec_ensure] at h
  obtain ⟨m, hm, _, ⟨_, _, rfl⟩, _, rfl⟩ := h
  rcases exec_insertIgnore hm with ⟨hn, rfl⟩ | ⟨x, hx, rfl⟩
  · exact .inl ⟨hn, rfl⟩
  · exact .inr ⟨⟨x, hx⟩, rfl⟩

theorem exec_saveWebhook_tables {hash : String} {w : Webhook} {o : Outcome (LockKey schema) (Write schema) Unit}
    (h : Exec R (saveWebhook hash w) s L ws o) : ∃ vs, o.writes = ws ++ vs ∧ ∀ v ∈ vs, v.tab? = some Tab.webhooks := by
  rcases exec_saveWebhook h with ⟨_, hw⟩ | ⟨_, hw⟩
  · exact ⟨_, hw, fun v hv => by cases List.mem_singleton.1 hv; rfl⟩
  · exact ⟨[], by rw [hw, List.append_nil], fun v hv => nomatch hv⟩

theorem exec_publishEvent {id : Uuid} {e : OutboxEvent} {o : Outcome (LockKey schema) (Write schema) Unit}
    (h : Exec R (publishEvent id e) s L ws o) :
    (written ws s).find Tab.outbox id = none ∧ o.writes = ws ++ [.insert Tab.outbox id e] := by
  obtain ⟨hn, rfl⟩ := exec_insert h
  exact ⟨hn, rfl⟩

theorem exec_settlePayment {i : PaymentResultInput} {order : Order} {payment : Payment}
    {o : Outcome (LockKey schema) (Write schema) PersistedPayment} (h : Exec R (settlePayment i order payment) s L ws o) :
    ¬ (i.finalStatus = .paid ∧ (order.status = .cancelled ∨ order.status = .refunded)) ∧
      (written ws s).find Tab.outbox i.outboxEventId = none ∧
      o.writes = ws ++ [.update Tab.payments i.paymentId i.settle, .insert Tab.outbox i.outboxEventId (i.event payment)] ∧
      o.val = { paymentFinalStatus := i.finalStatus, outboxEventId := some i.outboxEventId, alreadyProcessed := false
                orderId := payment.orderId } := by
  unfold settlePayment at h
  simp only [exec_bind, exec_ensure, exec_update, exec_pure] at h
  obtain ⟨_, ⟨hc, rfl⟩, _, rfl, m, hm, rfl⟩ := h
  obtain ⟨hnone, hw⟩ := exec_publishEvent hm
  rw [written_append, written_cons, written_nil, find_apply _ _ (by simp [Write.tab?])] at hnone
  exact ⟨hc, hnone, by rw [hw, List.append_assoc]; rfl, rfl⟩

/-- **`persistPaymentResultTransaction` commits** with the order and the payment locked; it settles a payment that is still
pending, and leaves any other alone. -/
theorem exec_persistPaymentResult {cfg : Config} {i : PaymentResultInput}
    {o : Outcome (LockKey schema) (Write schema) PersistedPayment} (h : Exec R (persistPaymentResult cfg i) s [] [] o) :
    ∃ order payment vs, s.find Tab.orders i.orderId = some order ∧ s.find Tab.payments i.paymentId = some payment ∧
      payment.orderId = i.orderId ∧ LockKey.row (D := schema) Tab.orders i.orderId ∈ o.locks ∧
      (∀ v ∈ vs, v.tab? = some Tab.webhooks) ∧
      ((payment.status ≠ .pending ∧ o.writes = vs ∧
          o.val = { paymentFinalStatus := payment.status, outboxEventId := none, alreadyProcessed := true
                    orderId := payment.orderId }) ∨
        (payment.status = .pending ∧ ¬ (i.finalStatus = .paid ∧ (order.status = .cancelled ∨ order.status = .refunded)) ∧
          s.find Tab.outbox i.outboxEventId = none ∧
          o.writes = vs ++ [.update Tab.payments i.paymentId i.settle,
            .insert Tab.outbox i.outboxEventId (i.event payment)] ∧
          o.val = { paymentFinalStatus := i.finalStatus, outboxEventId := some i.outboxEventId, alreadyProcessed := false
                    orderId := payment.orderId })) := by
  unfold persistPaymentResult at h
  rw [exec_bind] at h
  obtain ⟨_, h1, h⟩ := h
  obtain ⟨order, ho, rfl⟩ := exec_fetchJoin h1
  rw [exec_bind] at h
  obtain ⟨_, h2, h⟩ := h
  obtain ⟨payment, hp, rfl⟩ := exec_fetchJoin h2
  have hkey := (Exec.locks _ h fun _ h => nomatch h).1 (.row Tab.orders i.orderId) (by simp)
  simp only [exec_bind, exec_ensure] at h
  obtain ⟨_, ⟨hid, rfl⟩, m, hm, h⟩ := h
  obtain ⟨vs, hvs, htab⟩ := exec_saveWebhook_tables hm
  refine ⟨order, payment, vs, ho, hp, hid, hkey, htab, ?_⟩
  split at h
  · rename_i hpend
    obtain ⟨hc, hnone, hw, hv⟩ := exec_settlePayment h
    have hnone' : s.find Tab.outbox i.outboxEventId = none := by
      rw [hvs, List.nil_append] at hnone
      rwa [find_written (D := schema) (t := Tab.outbox) s _ fun v hv ht => by rw [htab v hv] at ht; cases ht] at hnone
    exact .inr ⟨hpend, hc, hnone', by rw [hw, hvs]; rfl, hv⟩
  · rename_i hpend
    cases h
    exact .inl ⟨hpend, hvs, rfl⟩

theorem exec_uniqueOption {α : Type} {value : Option α} {check : α → Trans Unit}
    (hcheck : ∀ a L o, Exec R (check a) s L ws o → o.writes = ws) {o : Outcome (LockKey schema) (Write schema) Unit}
    (h : Exec R (uniqueOption value check) s L ws o) : o.writes = ws := by
  cases value with
  | none => cases h; rfl
  | some a => exact hcheck a L o h

theorem exec_uniqueIn {e : Entry} {t : Tab} {p : t.Key → t.Row → Bool} {err : Err}
    {o : Outcome (LockKey schema) (Write schema) Unit} (h : Exec R (uniqueIn e t p err) s L ws o) : o.writes = ws := by
  obtain ⟨_, rfl⟩ := exec_unique h
  rfl

theorem exec_createPayment {n : NewPayment} {o : Outcome (LockKey schema) (Write schema) Unit}
    (h : Exec R (createPaymentRow n) s [] [] o) :
    s.find Tab.payments n.id = none ∧ 0 ≤ n.row.amount ∧ o.writes = [.insert Tab.payments n.id n.row] := by
  unfold createPaymentRow insertPayment at h
  simp only [exec_bind, exec_ensure] at h
  obtain ⟨_, ⟨hpos, rfl⟩, m₁, h1, m₂, h2, m₃, h3, h4⟩ := h
  have hw1 := exec_uniqueOption (fun _ _ _ => exec_uniqueIn) h1
  have hw2 := exec_uniqueOption (fun _ _ _ => exec_uniqueIn) h2
  have hw3 := exec_uniqueOption (fun _ _ _ => exec_uniqueIn) h3
  obtain ⟨hnone, rfl⟩ := exec_insert h4
  rw [hw3, hw2, hw1] at hnone ⊢
  exact ⟨hnone, hpos, rfl⟩

theorem exec_renewPayment {id : Uuid} {ref : String} {url : Option String} {expiresAt : Option Time} {simulated : Bool}
    {o : Outcome (LockKey schema) (Write schema) Unit} (h : Exec R (renewPayment id ref url expiresAt simulated) s [] [] o) :
    o.writes = [] ∨ ∃ p, s.find Tab.payments id = some p ∧ p.status = .pending ∧
      o.writes = [.update Tab.payments id (Payment.renew ref url expiresAt simulated)] := by
  unfold renewPayment at h
  rw [exec_bind] at h
  obtain ⟨m, hm, h⟩ := h
  rcases exec_updateWhere hm with ⟨hv, hw, _⟩ | ⟨p, hp, hpend, rfl⟩
  · rw [hv] at h
    cases h
    exact .inl hw
  · obtain ⟨_, rfl⟩ := exec_unique h
    exact .inr ⟨p, hp, beq_iff_eq.1 hpend, rfl⟩

theorem exec_markExpired {i : ExpiredInput} {o : Outcome (LockKey schema) (Write schema) Unit}
    (h : Exec R (markExpired i) s [] [] o) : s.find Tab.outbox i.outboxEventId = none ∧
      o.writes = [.update Tab.payments i.paymentId Payment.expire, .insert Tab.outbox i.outboxEventId i.event] := by
  unfold markExpired at h
  simp only [exec_bind, exec_update] at h
  obtain ⟨_, rfl, h⟩ := h
  obtain ⟨hnone, hw⟩ := exec_publishEvent h
  rw [List.nil_append, written_cons, written_nil, find_apply _ _ (by simp [Write.tab?])] at hnone
  refine ⟨hnone, ?_⟩
  rw [hw]
  rfl

theorem exec_increaseAttempt {id : Uuid} {o : Outcome (LockKey schema) (Write schema) ℤ}
    (h : Exec R (increaseReconciliationAttempt id) s [] [] o) :
    ∃ metadata, o.writes = [.update Tab.payments id fun p => { p with metadata := some metadata }] := by
  unfold increaseReconciliationAttempt at h
  simp only [exec_bind, exec_need, exec_ensure, exec_update, exec_pure] at h
  obtain ⟨_, h1, _, ⟨_, _, rfl⟩, _, ⟨_, rfl⟩, _, ⟨metadata, _, rfl⟩, _, rfl, rfl⟩ := h
  obtain ⟨_, _, rfl⟩ := exec_fetch h1
  exact ⟨metadata, rfl⟩

theorem exec_insertNotice {id : Uuid} {n : Notice} {now : Time} {o : Outcome (LockKey schema) (Write schema) Unit}
    (h : Exec R (insertNotice id n now) s [] [] o) :
    ∃ aggregateId, n.aggregateId = some aggregateId ∧ s.find Tab.outbox id = none ∧
      o.writes = [.insert Tab.outbox id (n.event aggregateId now)] := by
  unfold insertNotice at h
  simp only [exec_bind, exec_need] at h
  obtain ⟨_, ⟨aggregateId, ha, rfl⟩, h⟩ := h
  obtain ⟨hnone, hw⟩ := exec_publishEvent h
  exact ⟨aggregateId, ha, hnone, hw⟩

/-! ## Refunds -/

theorem exec_insertRefund {id : Uuid} {r : Refund} {o : Outcome (LockKey schema) (Write schema) Unit}
    (h : Exec R (insertRefund id r) s L ws o) :
    0 < r.amount ∧ (written ws s).find Tab.refunds id = none ∧
      (∃ L' s₀, R L' s₀ s ∧ ((written ws s₀).find Tab.payments r.paymentId).isSome = true) ∧
      o.writes = ws ++ [.insert Tab.refunds id r] := by
  unfold insertRefund at h
  simp only [exec_bind, exec_ensure, exec_select] at h
  obtain ⟨_, ⟨hpos, rfl⟩, m₁, h1, m₂, h2, _, ⟨s₀, hs₀, rfl⟩, _, ⟨hthere, rfl⟩, h3⟩ := h
  have hw1 := exec_uniqueOption (fun _ _ _ => exec_uniqueIn) h1
  have hw2 := exec_uniqueOption (fun _ _ _ => exec_uniqueIn) h2
  obtain ⟨hnone, rfl⟩ := exec_insert h3
  rw [hw2, hw1] at hnone hthere
  refine ⟨hpos, hnone, ⟨_, s₀, hs₀, hthere⟩, ?_⟩
  rw [hw2, hw1]

/-- A refund was opened: its payment's balance, read under the payment's lock, had room for it. -/
structure RefundOpened (R : List (LockKey schema) → Db → Db → Prop) (s : Db) (n : NewRefund) (payment : Payment) : Prop where
  refundable : payment.status.refundable = true
  positive : 0 < n.row.amount
  fresh : s.find Tab.refunds n.id = none
  room : ∃ L s₀, LockKey.row (D := schema) Tab.payments n.paymentId ∈ L ∧ R L s₀ s ∧
    (reservedRefundAmount n.paymentId s₀ : ℚ) + n.amount ≤ payment.amount

/-- **`createRefundRecord` commits** to a new refund, or finds the one the request stands for. -/
theorem exec_createRefundRecord {n : NewRefund} {o : Outcome (LockKey schema) (Write schema) RefundRecord}
    (h : Exec R (createRefundRecord n) s [] [] o) :
    ∃ payment, s.find Tab.payments n.paymentId = some payment ∧ LockKey.row (D := schema) Tab.payments n.paymentId ∈ o.locks ∧
      (o.writes = [] ∨ (RefundOpened R s n payment ∧ o.writes = [.insert Tab.refunds n.id n.row])) := by
  unfold createRefundRecord at h
  simp only [exec_bind, exec_ensure] at h
  obtain ⟨_, ⟨_, rfl⟩, _, ⟨_, rfl⟩, _, h1, h⟩ := h
  obtain ⟨payment, hp, rfl⟩ := exec_fetchJoin h1
  obtain ⟨_, ⟨s₁, _, rfl⟩, h⟩ := h
  have hkey := (Exec.locks _ h fun _ h => nomatch h).1 _ List.mem_cons_self
  refine ⟨payment, hp, hkey, ?_⟩
  split at h
  · cases h
    exact .inl rfl
  · simp only [openRefund, exec_bind, exec_ensure, exec_select, exec_pure] at h
    obtain ⟨_, ⟨hstatus, rfl⟩, _, ⟨s₀, hs₀, rfl⟩, _, ⟨hroom, rfl⟩, m, hm, rfl⟩ := h
    obtain ⟨hpos, hnone, _, hw⟩ := exec_insertRefund hm
    exact .inr ⟨⟨hstatus, hpos, hnone, _, s₀, List.mem_cons_self, hs₀, hroom⟩, hw⟩

theorem exec_requestGatewayRefund {id : Uuid} {ref : String} {o : Outcome (LockKey schema) (Write schema) Unit}
    (h : Exec R (requestGatewayRefund id ref) s [] [] o) :
    o.writes = [] ∨ o.writes = [.update Tab.refunds id fun r =>
      { r with providerRefundId := r.providerRefundId.or (some ref), gatewayStatus := some "REQUESTED" }] := by
  unfold requestGatewayRefund at h
  rw [exec_bind] at h
  obtain ⟨m, hm, h⟩ := h
  have hw : o.writes = m.writes := by
    split at h
    · cases h; rfl
    · exact exec_uniqueIn h
  rw [hw]
  rcases exec_updateWhere hm with ⟨_, hw, _⟩ | ⟨r, _, _, rfl⟩
  · exact .inl hw
  · exact .inr rfl

theorem exec_increaseRetry {id : Uuid} {o : Outcome (LockKey schema) (Write schema) ℕ}
    (h : Exec R (increaseRefundRetryCount id) s [] [] o) :
    o.writes = [.update Tab.refunds id fun r => { r with retryCount := r.retryCount + 1 }] := by
  unfold increaseRefundRetryCount at h
  simp only [exec_bind, exec_need, exec_pure] at h
  obtain ⟨m, hm, _, ⟨r, hr, rfl⟩, rfl⟩ := h
  rcases exec_updateWhere hm with ⟨hv, _⟩ | ⟨_, _, _, rfl⟩
  · rw [hv] at hr
    cases hr
  · rfl

/-! ### The result of a refund -/

/-- What a result makes of its refund. -/
def RefundResultInput.outcome (i : RefundResultInput) (r : Refund) : Refund :=
  if i.refundResult = "SUCCESS" then i.succeed r else i.disappoint r

/-- What a refund counts for in the refunded total of a payment. -/
def Refund.paidTo (paymentId : Uuid) (r : Refund) : ℤ := if r.paymentId = paymentId ∧ r.status = .refunded then r.amount else 0

/-- The total a result reads: at some state before, with its own refund already refunded. -/
def TotalRead (R : List (LockKey schema) → Db → Db → Prop) (s : Db) (i : RefundResultInput) (refund : Refund) (total : ℤ) : Prop :=
  ∃ L s₀, LockKey.row (D := schema) Tab.refunds i.refundId ∈ L ∧ LockKey.row (D := schema) Tab.payments refund.paymentId ∈ L ∧
    R L s₀ s ∧ total = ((s₀.rows Tab.refunds).modify i.refundId i.succeed).total fun _ r => r.paidTo i.paymentId

/-- The payment of the call after `total` went back: its row, or nothing where there is no such payment. -/
def PaymentRefunded (R : List (LockKey schema) → Db → Db → Prop) (s b : Db) (i : RefundResultInput) (refund : Refund)
    (total amount : ℤ) : Prop :=
  (∃ p, s.find Tab.payments i.paymentId = some p ∧ 0 ≤ min total amount ∧ min total amount ≤ p.amount ∧
      b.rows Tab.payments = (s.rows Tab.payments).modify i.paymentId (Payment.refund total amount)) ∨
    (b.rows Tab.payments = s.rows Tab.payments ∧ (s.find Tab.payments i.paymentId = none ∨
      ∃ L s₀, LockKey.row (D := schema) Tab.payments refund.paymentId ∈ L ∧ R L s₀ s ∧ s₀.find Tab.payments i.paymentId = none))

/-- **The result of a refund was recorded**: on the refund, which is locked with its own payment, on the payment of the call
when it was a success, and in an event, whatever was there before. -/
structure RefundRecorded (R : List (LockKey schema) → Db → Db → Prop) (s b : Db) (L : List (LockKey schema))
    (i : RefundResultInput) (refund : Refund) (payment : Payment) : Prop where
  found : s.find Tab.refunds i.refundId = some refund
  own : s.find Tab.payments refund.paymentId = some payment
  locked : LockKey.row (D := schema) Tab.refunds i.refundId ∈ L ∧ LockKey.row (D := schema) Tab.payments refund.paymentId ∈ L
  refunds : b.rows Tab.refunds = (s.rows Tab.refunds).modify i.refundId i.outcome
  payments : (i.refundResult = "SUCCESS" ∧ ∃ total, TotalRead R s i refund total ∧
      PaymentRefunded R s b i refund total payment.amount) ∨
    (i.refundResult ≠ "SUCCESS" ∧ b.rows Tab.payments = s.rows Tab.payments)
  event : s.find Tab.outbox i.outboxEventId = none ∧ ∃ payload, b.rows Tab.outbox = (s.rows Tab.outbox).insertNew i.outboxEventId
    (i.event (if i.refundResult = "SUCCESS" then "payment.refund.completed" else "payment.refund.failed") payload)

theorem exec_recordRefundedAmount {id : Uuid} {total amount : ℤ} {o : Outcome (LockKey schema) (Write schema) Unit}
    (h : Exec R (recordRefundedAmount id total amount) s L ws o) :
    (∃ p, (written ws s).find Tab.payments id = some p ∧ 0 ≤ min total amount ∧ min total amount ≤ p.amount ∧
        o.writes = ws ++ [.update Tab.payments id (Payment.refund total amount)]) ∨
      (o.writes = ws ∧ ((written ws s).find Tab.payments id = none ∨
        ∃ s₀, R L s₀ s ∧ (written ws s₀).find Tab.payments id = none)) := by
  unfold recordRefundedAmount at h
  simp only [exec_bind, exec_ensure] at h
  obtain ⟨m, hm, hcheck, rfl⟩ := h
  rcases exec_updateWhere hm with ⟨_, hw, _, hmiss⟩ | ⟨p, hp, _, rfl⟩
  · refine .inr ⟨hw, ?_⟩
    rcases hmiss with hmiss | ⟨s₀, hs₀, hmiss⟩
    · exact .inl (by simpa using hmiss)
    · exact .inr ⟨s₀, hs₀, by simpa using hmiss⟩
  · obtain ⟨h1, h2⟩ := hcheck p rfl
    exact .inl ⟨p, hp, h1, h2, rfl⟩

theorem exec_checkProviderRefundId {i : RefundResultInput} {o : Outcome (LockKey schema) (Write schema) Unit}
    (h : Exec R (checkProviderRefundId i) s L ws o) : o.writes = ws :=
  exec_uniqueOption (fun _ _ _ => exec_uniqueIn) h

/-- The joined rows, each with its lock. -/
theorem exec_fetchRefund {id : Uuid} {o : Outcome (LockKey schema) (Write schema) (Refund × Payment)}
    (h : Exec R (fetchRefund id) s L ws o) :
    ∃ r p, (written ws s).find Tab.refunds id = some r ∧ (written ws s).find Tab.payments r.paymentId = some p ∧
      o = ⟨(r, p), .entry (.paymentStatus p.status) :: .row Tab.payments r.paymentId :: .row Tab.refunds id :: L, ws⟩ := by
  unfold fetchRefund at h
  simp only [exec_bind, exec_select] at h
  obtain ⟨_, ⟨s₀, _, rfl⟩, _, h1, _, h2, h⟩ := h
  obtain ⟨r, hr, rfl⟩ := exec_fetch h1
  obtain ⟨p, hp, rfl⟩ := exec_fetch h2
  simp only [exec_ensure, Sql.exec_claim, exec_pure] at h
  obtain ⟨_, ⟨_, rfl⟩, _, rfl, rfl⟩ := h
  exact ⟨r, p, hr, hp, rfl⟩

/-- **`persistRefundResultTransaction` commits** to a recorded result. -/
theorem exec_persistRefundResult {cfg : Config} {i : RefundResultInput}
    {o : Outcome (LockKey schema) (Write schema) PersistedRefund} (h : Exec R (persistRefundResult cfg i) s [] [] o) :
    ∃ refund payment, RefundRecorded R s (written o.writes s) o.locks i refund payment := by
  unfold persistRefundResult at h
  rw [exec_bind] at h
  obtain ⟨_, h1, h⟩ := h
  obtain ⟨refund, payment, hr, hp, rfl⟩ := exec_fetchRefund h1
  rw [exec_bind] at h
  obtain ⟨m, hm, h⟩ := h
  obtain ⟨vs, hvs, htab⟩ := exec_saveWebhook_tables hm
  rw [List.nil_append] at hvs
  obtain ⟨hlocksm, hkeysm⟩ := Exec.locks _ hm fun _ h => by cases h
  have hlocks := (Exec.locks _ h hkeysm).1
  have hkr : LockKey.row (D := schema) Tab.refunds i.refundId ∈ m.locks := hlocksm _ (by simp)
  have hkp : LockKey.row (D := schema) Tab.payments refund.paymentId ∈ m.locks := hlocksm _ (by simp)
  have hbefore : ∀ (a : Db) (f : Refund → Refund) (t : Tab), t ≠ Tab.webhooks → t ≠ Tab.refunds →
      (written (m.writes ++ [.update (D := schema) Tab.refunds i.refundId f]) a).rows t = a.rows t := by
    intro a f t hw hr
    rw [written_append, written_cons, written_nil, rows_apply _ (by simp [Write.tab?, Ne.symm hr]), hvs]
    refine rows_written (D := schema) a fun v hv hvt => hw ?_
    exact Option.some.inj (hvt.symm.trans (htab v hv))
  have hrefunds : ∀ (a : Db) (f : Refund → Refund),
      (written (m.writes ++ [.update (D := schema) Tab.refunds i.refundId f]) a).rows Tab.refunds =
        (a.rows Tab.refunds).modify i.refundId f := by
    intro a f
    rw [written_append, written_cons, written_nil, rows_update, hvs]
    refine congrArg (fun t => AList.modify t i.refundId f) (rows_written (D := schema) a fun v hv hvt => ?_)
    rw [htab v hv] at hvt
    cases hvt
  have hlocked := And.intro (hlocks _ hkr) (hlocks _ hkp)
  refine ⟨refund, payment, ?_⟩
  split at h
  · rename_i hsuccess
    have hout : i.outcome = i.succeed := by
      funext r
      exact if_pos hsuccess
    simp only [refundSucceeded, exec_bind, exec_update, exec_select, exec_pure] at h
    obtain ⟨_, rfl, m₁, h3, _, ⟨s₀, hs₀, rfl⟩, m₂, h4, m₃, h5, rfl⟩ := h
    have hw1 := exec_checkProviderRefundId h3
    have hl1 := (Exec.locks _ h3 fun v hv q hq => by
      rcases List.mem_append.1 hv with hv | hv
      · exact List.mem_cons_of_mem _ (hkeysm v hv q hq)
      · cases List.mem_singleton.1 hv
        cases List.mem_singleton.1 hq
        exact List.mem_cons_self).1
    rw [hw1] at h4
    obtain ⟨hfresh, hw3⟩ := exec_publishEvent h5
    have hfoot : ∀ total, Writes (Into [.payments]) (recordRefundedAmount i.paymentId total payment.amount) :=
      fun _ => writes_recordRefundedAmount _ _ _
    have hb : ∀ t : Tab, t ≠ Tab.outbox → (written m₃.writes s).rows t = (written m₂.writes s).rows t := by
      intro t ht
      rw [hw3, written_append, written_cons, written_nil, rows_apply _ (by simp [Write.tab?, Ne.symm ht])]
    have houtbox : (written m₂.writes s).rows Tab.outbox = s.rows Tab.outbox :=
      (rows_of_exec (t := Tab.outbox) h4 (hfoot _) (by decide)).trans (hbefore s _ _ (by decide) (by decide))
    refine ⟨hr, hp, hlocked, ?_, .inl ⟨hsuccess, refundedTotal i.paymentId (written (m.writes ++
      [.update (D := schema) Tab.refunds i.refundId i.succeed]) s₀), ⟨m₁.locks, s₀, ?_, ?_, hs₀, ?_⟩, ?_⟩, ?_, ?_⟩
    · rw [hb _ (by decide), rows_of_exec (t := Tab.refunds) h4 (hfoot _) (by decide), hrefunds, hout]
    · exact hl1 _ List.mem_cons_self
    · exact hl1 _ (List.mem_cons_of_mem _ hkp)
    · unfold refundedTotal
      rw [hrefunds]
      rfl
    · have hpayments : ∀ a : Db, ∀ k, (written (m.writes ++ [.update (D := schema) Tab.refunds i.refundId i.succeed]) a).find
          Tab.payments k = a.find Tab.payments k :=
        fun a => Database.find_of_rows (D := schema) (hbefore a _ _ (by decide) (by decide))
      rcases exec_recordRefundedAmount h4 with ⟨p, hfind, h0, h1, hw2⟩ | ⟨hw2, hmiss⟩
      · rw [hpayments] at hfind
        refine .inl ⟨p, hfind, h0, h1, ?_⟩
        rw [hb _ (by decide), hw2, written_append, written_cons, written_nil, rows_update, hbefore s _ _ (by decide) (by decide)]
      · refine .inr ⟨?_, ?_⟩
        · rw [hb _ (by decide), hw2, hbefore s _ _ (by decide) (by decide)]
        · rcases hmiss with hmiss | ⟨s₁, hs₁, hmiss⟩
          · rw [hpayments] at hmiss
            exact .inl hmiss
          · rw [hpayments] at hmiss
            exact .inr ⟨_, s₁, hl1 _ (List.mem_cons_of_mem _ hkp), hs₁, hmiss⟩
    · unfold Database.find at hfresh
      rwa [houtbox] at hfresh
    · rw [if_pos hsuccess]
      exact ⟨_, by rw [hw3, written_append, written_cons, written_nil, rows_insert, houtbox]⟩
  · rename_i hfailure
    have hout : i.outcome = i.disappoint := by
      funext r
      exact if_neg hfailure
    simp only [refundFailed, exec_bind, exec_update, exec_pure] at h
    obtain ⟨_, rfl, m₁, h3, m₂, h4, rfl⟩ := h
    have hw1 := exec_checkProviderRefundId h3
    rw [hw1] at h4
    obtain ⟨hfresh, hw3⟩ := exec_publishEvent h4
    have hb : ∀ t : Tab, t ≠ Tab.outbox → (written m₂.writes s).rows t =
        (written (m.writes ++ [.update (D := schema) Tab.refunds i.refundId i.disappoint]) s).rows t := by
      intro t ht
      rw [hw3, written_append, written_cons, written_nil, rows_apply _ (by simp [Write.tab?, Ne.symm ht])]
    have houtbox := hbefore s i.disappoint Tab.outbox (by decide) (by decide)
    refine ⟨hr, hp, hlocked, ?_, .inr ⟨hfailure, ?_⟩, ?_, ?_⟩
    · rw [hb _ (by decide), hrefunds, hout]
    · rw [hb _ (by decide), hbefore s _ _ (by decide) (by decide)]
    · unfold Database.find at hfresh
      rwa [houtbox] at hfresh
    · rw [if_neg hfailure]
      exact ⟨_, by rw [hw3, written_append, written_cons, written_nil, rows_insert, houtbox]⟩

end Statements

end Balii
