import Balii.Payment.Ledger
/-!
# Payment.Payouts — one return request, one order, and the two ways money goes back

A return is refunded by the provider, through the payment service's workflow, or by hand, once an administrator confirms the
transfer.  The order service goes over to the second when the first seems to have failed; the workflow does not hear of it.
Each way looks at its own table: the payment service at the refunds of the payment, the order service at its requests.  On the
tables as the migrations leave them the second way is closed: the status it waits in does not fit its column.
-/
namespace Balii

open Rowdb Tx Sql System

variable {cfg : Config}

/-! ## A request is paid out once -/

/-- The refund of a return request went through at the provider. -/
def ReturnRefunded (s : Db) (k : Uuid) : Prop :=
  ∃ id r, s.find Tab.refunds id = some r ∧ r.idempotencyKey = some (.ofReturn k) ∧ r.status = .refunded

/-- No request that was paid out by hand is refunded by the provider too. -/
def PaidOnce (s : Db) : Prop :=
  ∀ k request, s.find Tab.returnRequests k = some request → request.refundStatus = some .manualCompleted → ¬ ReturnRefunded s k

/-- A payout by hand finds no refund of the provider's, and a success of the provider's no payout by hand. -/
structure OneWay (c : Commit cfg) : Prop where
  byHand : ∀ m request, c.op = .completeManualReturnRefund m → c.before.find Tab.returnRequests m.returnRequestId = some request →
    request.status = .manualRefundPending → ¬ ReturnRefunded c.before m.returnRequestId
  byProvider : ∀ i r k request, c.op = .persistRefundResult i → i.refundResult = "SUCCESS" →
    c.before.find Tab.refunds i.refundId = some r → r.idempotencyKey = some (.ofReturn k) →
    c.before.find Tab.returnRequests k = some request → request.refundStatus ≠ some .manualCompleted

section
variable {c : Commit cfg} {Inv : Db → Prop} {G : List (LockKey schema) → Db → Db → Prop}

/-- A refund that is refunded was so before, or its success commits now. -/
theorem refundedBefore (hf : c.Faithful Inv G) {k : Uuid} {q : Refund} (hq : c.after.find Tab.refunds k = some q)
    (hs : q.status = .refunded) : ∃ r, c.before.find Tab.refunds k = some r ∧ r.SameClaim q ∧
      (r.status = .refunded ∨ ∃ i, c.op = .persistRefundResult i ∧ i.refundId = k ∧ i.refundResult = "SUCCESS") := by
  rcases refund_before hf hq with ⟨r, hr, hchange⟩ | ⟨_, _, ⟨n, _, _, rfl⟩ | ⟨i, _, _, rfl⟩⟩
  · refine ⟨r, hr, hchange.sameClaim, ?_⟩
    cases hchange with
    | kept => exact .inl hs
    | requested _ => exact .inl hs
    | retried _ => exact .inl hs
    | rejected _ => cases hs
    | @heard i hop hk =>
      rw [outcome_refunded] at hs
      by_cases hsucc : i.refundResult = "SUCCESS"
      · exact .inr ⟨i, hop, hk, hsucc⟩
      · rw [if_neg hsucc] at hs
        cases hs
  · cases hs
  · cases hs

/-- A request that was paid out by hand was so before and is as it was, or it is confirmed now. -/
theorem manualBefore (hf : c.Faithful Inv G) {k : Uuid} {q : ReturnRequest} (hq : c.after.find Tab.returnRequests k = some q)
    (hs : q.refundStatus = some .manualCompleted) : ∃ r, c.before.find Tab.returnRequests k = some r ∧
      (r.refundStatus = some .manualCompleted ∨ ∃ m, c.op = .completeManualReturnRefund m ∧ m.returnRequestId = k ∧
        r.status = .manualRefundPending ∧ q = r.manuallyRefunded m) := by
  rcases return_change hf hq with ⟨r, hr, hchange⟩ | ⟨_, _, _, _, _, _, _, rfl, _⟩
  · refine ⟨r, hr, ?_⟩
    cases hchange with
    | kept => exact .inl hs
    | reviewed _ _ => exact .inl hs
    | confirmed hop hk hr _ => exact .inr ⟨_, hop, hk, hr, rfl⟩
    | closed _ _ _ => cases hs
    | toManual _ _ _ => cases hs
    | received _ _ _ _ hc =>
      cases hc with
      | notEligible _ => cases hs
      | received _ provider _ => cases provider <;> cases hs
    | @dispatched _ reused => cases reused <;> cases hs
    | dispatchFailed _ _ => cases hs
    | failed _ _ => cases hs
    | completed _ _ => cases hs
  · cases hs

/-- A confirmation leaves its request paid out. -/
theorem confirmed_after (hf : c.Faithful Inv G) {m : ManualRefund} (hop : c.op = .completeManualReturnRefund m) {r : ReturnRequest}
    (hr : c.before.find Tab.returnRequests m.returnRequestId = some r) (hs : r.status = .manualRefundPending) :
    c.after.rows Tab.returnRequests = (c.before.rows Tab.returnRequests).modify m.returnRequestId (ReturnRequest.manuallyRefunded m) := by
  obtain ⟨call, op, s, o⟩ := c
  dsimp only at hop
  subst hop
  obtain ⟨request, _, hreq, _, ⟨hdone, _⟩ | ⟨_, _, hpaid⟩⟩ := exec_completeManual hf
  · cases Option.some.inj (hreq.symm.trans hr)
    rw [hs] at hdone
    cases hdone
  · exact hpaid.returns

theorem paidOnce_commit (h : PaidOnce c.before) (hf : c.Faithful Inv G) (hc : OneWay c) : PaidOnce c.after := by
  rintro k q hq hs ⟨id, r', hr', hkey, hrefunded⟩
  obtain ⟨request, hrequest, hmanual⟩ := manualBefore hf hq hs
  obtain ⟨r, hr, hclaim, hsettled⟩ := refundedBefore hf hr' hrefunded
  have hkey' : r.idempotencyKey = some (.ofReturn k) := by rw [← hclaim.idempotencyKey, hkey]
  rcases hmanual with hmanual | ⟨m, hop, rfl, hpending, _⟩
  · rcases hsettled with hsettled | ⟨i, hop, rfl, hsucc⟩
    · exact h k request hrequest hmanual ⟨id, r, hr, hkey', hsettled⟩
    · exact hc.byProvider i r k request hop hsucc hr hkey' hrequest hmanual
  · rcases hsettled with hsettled | ⟨i, hop', _, _⟩
    · exact hc.byHand m request hop hrequest hpending ⟨id, r, hr, hkey', hsettled⟩
    · rw [hop] at hop'
      cases hop'

/-- **A payout the second way shows.** -/
theorem oneWay_of_paidOnce (hf : c.Faithful Inv G) (h : PaidOnce c.after) : OneWay c := by
  constructor
  · rintro m request hop hrequest hpending ⟨id, r, hr, hkey, hrefunded⟩
    have hafter := (Database.find_of_modify (D := schema) (confirmed_after hf hop hrequest hpending) m.returnRequestId).trans
      (if_pos rfl)
    rw [hrequest] at hafter
    refine h _ _ hafter rfl ⟨id, r, ?_, hkey, hrefunded⟩
    rw [← hr]
    exact find_of_notMem hf (t := Tab.refunds) (by rw [hop]; simp [Op.tables]) id
  · intro i r k request hop hsucc hr hkey hrequest hmanual
    obtain ⟨r', hr', hafter, _⟩ := result_find hf hop
    cases Option.some.inj (hr.symm.trans hr')
    have hsame := find_of_notMem hf (t := Tab.returnRequests) (by rw [hop]; simp [Op.tables]) k
    refine h k request (hsame.trans hrequest) hmanual ⟨_, _, hafter, ?_, by rw [outcome_refunded, if_pos hsucc]⟩
    rw [← hkey]
    have hchange : RefundChange c.op i.refundId r (i.outcome r) := .heard hop rfl
    exact hchange.sameClaim.idempotencyKey

end

/-- **Whatever the columns hold, return requests are paid out once exactly in the runs where neither way comes after the
other.** -/
theorem paidOnce_iff (cfg : Config) (e : Execution (platform cfg) PaidOnce fun _ => True) :
    (∀ c : Commit cfg, .commit c ∈ e.events → OneWay c) ↔ ∀ s ∈ e.history, PaidOnce s := by
  have hk : Keeps (S := platform cfg) PaidOnce (fun _ _ _ => True) (fun _ => True) OneWay := fun c _ h hf hc =>
    ⟨paidOnce_commit h hf hc, trivial⟩
  exact e.iff_history hk (fun _ h => h) (fun _ h => h) fun c _ _ hf hc hgood => hc (oneWay_of_paidOnce hf hgood)

/-! ### On the migrated tables -/

/-- **No request waits for a payout by hand, and none has had one.** -/
def NothingByHand (s : Db) : Prop :=
  ∀ k r, s.find Tab.returnRequests k = some r → r.status ≠ .manualRefundPending ∧ r.refundStatus ≠ some .manualCompleted

theorem ReturnChange.notByHand {op : Op} {k : Uuid} {r r' : ReturnRequest} (h : ReturnChange cfg op k r r')
    (hcols : cfg.columns = .migrated) (hr : r.status ≠ .manualRefundPending ∧ r.refundStatus ≠ some .manualCompleted) :
    r'.status ≠ .manualRefundPending ∧ r'.refundStatus ≠ some .manualCompleted := by
  have hnarrow := Config.not_holdsStatus_manual hcols
  cases h with
  | kept => exact hr
  | @reviewed _ decision _ _ _ => exact ⟨fun h => (by cases decision <;> cases h), hr.2⟩
  | confirmed _ _ hst _ => exact absurd hst hr.1
  | toManual _ _ _ hfits =>
    rw [hnarrow] at hfits
    cases hfits
  | received _ _ _ _ hc =>
    cases hc with
    | notEligible _ => exact ⟨fun h => (by cases h), fun h => (by cases h)⟩
    | received _ provider _ hfits =>
      cases provider with
      | true => exact ⟨fun h => (by cases h), fun h => (by cases h)⟩
      | false =>
        exact absurd (hnarrow.symm.trans hfits) Bool.false_ne_true
  | @dispatched _ reused => exact ⟨fun h => (by cases h), fun h => (by cases reused <;> cases h)⟩
  | _ => exact ⟨fun h => (by cases h), fun h => (by cases h)⟩

/-- **Every commit on the migrated tables leaves it so**: neither the second receipt of a failed refund nor a receipt without a
refundable payment can write its status. -/
theorem nothingByHand_keeps (hcols : cfg.columns = .migrated) :
    Keeps (S := platform cfg) NothingByHand (fun _ _ _ => True) (fun _ => True) fun _ => True := by
  refine fun c _ h hf _ => ⟨fun k r' hr' => ?_, trivial⟩
  rcases return_change hf hr' with ⟨r, hr, hchange⟩ | ⟨_, _, _, _, _, _, _, rfl, _⟩
  · exact hchange.notByHand hcols (h k r hr)
  · exact ⟨fun h => (by cases h), fun h => (by cases h)⟩

/-- **Return requests are paid out once**: on the tables as the migrations leave them, in every state of every run that begins
before anything was paid by hand, whatever order the receipts, confirmations, reports and steps of the refund workflows come
in and whatever answers are lost, no request was paid out by hand and refunded by the provider too. -/
theorem return_paid_once (cfg : Config) (hcols : cfg.columns = .migrated)
    (e : Execution (platform cfg) NothingByHand fun _ => True) : ∀ s ∈ e.history, PaidOnce s := by
  intro s hs k request hrequest hmanual
  have h : NothingByHand s := e.invariant (nothingByHand_keeps hcols) (fun _ h => h) (fun _ _ => trivial) hs
  exact absurd hmanual (h k request hrequest).2

/-! ### A dispatch that was thought lost -/

/-- A return of the sample order, approved. -/
def sampleReturn : ReturnRequest where
  orderId := 1
  userId := 1
  status := .approved
  reason := "Hàng lỗi"
  adminNote := none
  reviewedBy := some 9
  receivedBy := none
  receivedAt := none
  restockedAt := none
  refundMode := none
  refundStatus := none
  refundPaymentId := none
  refundWorkflowStartedAt := none
  completedAt := none
  requestedRefundAmount := 10000000
  approvedRefundAmount := none
  manualRefundAmount := none
  manualRefundReference := none
  manualRefundNote := none
  manualRefundEvidenceUrls := []
  manualRefundCompletedBy := none
  items := [{ id := 31, orderItemId := 1, requestedQuantity := 1, acceptedQuantity := none, disposition := none
              unitPrice := 10000000, grossAmount := 10000000, refundAmount := 0 }]

/-- The shop with the sample order delivered and paid, and its return approved. -/
def shopReturning : Db where
  rows t :=
    match t with
    | .returnRequests => (∅ : Table Uuid ReturnRequest).insert 30 sampleReturn
    | t => (shopPaid { sampleOrder with status := .delivered, inventoryState := .committed }).rows t
  log := []

theorem shopReturning_request {k : Uuid} {r : ReturnRequest} (hr : shopReturning.find Tab.returnRequests k = some r) :
    r = sampleReturn := by
  change ((∅ : Table Uuid ReturnRequest).insert 30 sampleReturn).lookup k = some r at hr
  by_cases hk : k = 30
  · subst hk
    rw [AList.lookup_insert] at hr
    exact (Option.some.inj hr).symm
  · rw [AList.lookup_insert_ne hk] at hr
    cases hr

/-- The goods of the sample return are here. -/
def sampleReceipt (now : Time) : Receipt where
  returnRequestId := 30
  receivedBy := 9
  items := [(31, .damaged)]
  now := now

/-- The whole amount of the sample return, transferred by hand. -/
def sampleTransfer (now : Time) : ManualRefund where
  returnRequestId := 30
  completedBy := 9
  amount := 10000000
  transactionReference := "FT1"
  note := none
  evidenceUrls := ["https://balii.vn/receipt.jpg"]
  now := now

section Schedules
variable {cfg : Config}

/-- The goods are received as session `i`, the refund workflow is started, and its answer is on the way. -/
def dispatchSlow (i : ℕ) (now : Time) : List (Cmd (platform cfg)) :=
  .arrive (Call.receiveReturnRequest (sampleReceipt now)) :: (steps i 2 ++ steps (i + 1) 2 ++ [.answer (i + 1) Answer.workflowStarted] ++
    steps (i + 1) 1)

/-- The same, and the answer is lost. -/
def dispatchLost (i : ℕ) (now : Time) : List (Cmd (platform cfg)) := dispatchSlow i now ++ [.lose i] ++ steps i 2

/-- The goods are received as session `i` once more. -/
def receivedAgain (i : ℕ) (now : Time) : List (Cmd (platform cfg)) :=
  .arrive (Call.receiveReturnRequest (sampleReceipt now)) :: steps i 2

/-- `completeManualReturnRefund` as session `i`. -/
def transferConfirmed (i : ℕ) (now : Time) : List (Cmd (platform cfg)) :=
  .arrive (Call.completeManualReturnRefund (sampleTransfer now)) :: steps i 2

/-- The order service starts the refund workflow and loses the answer; the goods are received again, the money is to go back by
hand, and the workflow, which was never told, refunds it. -/
def lostSchedule : List (Cmd (platform cfg)) :=
  dispatchLost 0 3 ++ receivedAgain 2 4 ++ transferConfirmed 3 5 ++ refundAsked 4 (openedRefund 20 10000000 (.ofReturn 30) 6) ++
    refundReported 5 (providerSays 20 101 "SUCCESS" "done" 7)

end Schedules

/-- On the migrated tables, the second receipt fails and so does the confirmation. -/
def lostDispatch : Execution (platform sampleConfig) NothingByHand fun _ => True :=
  .ofSchedule shopReturning lostSchedule (fun k r hr => by rw [shopReturning_request hr]; exact ⟨by decide, by decide⟩)
    fun _ _ => trivial

/-- The refund went through, and the request was not paid out by hand as well. -/
theorem lostDispatch_paidOnce : ReturnRefunded lostDispatch.final.db 30 ∧ ∀ s ∈ lostDispatch.history, PaidOnce s := by
  refine ⟨?_, return_paid_once sampleConfig rfl lostDispatch⟩
  have hrefunded : (lostDispatch.final.db.find Tab.refunds 20).any
      (fun r => r.idempotencyKey == some (.ofReturn 30) && r.status == .refunded) = true := by decide +kernel
  obtain ⟨r, hr, hchecks⟩ := (Option.any_eq_true _ _).1 hrefunded
  rw [Bool.and_eq_true, beq_iff_eq, beq_iff_eq] at hchecks
  exact ⟨20, r, hr, hchecks.1, hchecks.2⟩

/-- The same shop on a table whose column holds the status of a payout by hand. -/
def wideConfig : Config := { sampleConfig with columns := ⟨false, 21, by decide⟩ }

def lostDispatchWide : Execution (platform wideConfig) PaidOnce fun _ => True :=
  .ofSchedule shopReturning lostSchedule (fun k r hr hs => by rw [shopReturning_request hr] at hs; cases hs) fun _ _ => trivial

/-- Whether the request was paid out by hand and refunded by the provider. -/
def paidBothWays (k refundId : Uuid) (s : Db) : Bool :=
  ((s.find Tab.returnRequests k).any fun r => r.refundStatus == some .manualCompleted) &&
    (s.find Tab.refunds refundId).any fun r => r.idempotencyKey == some (.ofReturn k) && r.status == .refunded

theorem not_paidOnce {k refundId : Uuid} {s : Db} (h : paidBothWays k refundId s = true) : ¬ PaidOnce s := by
  simp only [paidBothWays, Bool.and_eq_true, Option.any_eq_true, beq_iff_eq] at h
  obtain ⟨⟨request, hrequest, hmanual⟩, r, hr, hkey, hrefunded⟩ := h
  exact fun honce => honce k request hrequest hmanual ⟨refundId, r, hr, hkey, hrefunded⟩

/-- **The width of the column is what keeps it**: where the status fits, the same calls pay the request twice. -/
theorem lostDispatchWide_paysTwice : ¬ ∀ s ∈ lostDispatchWide.history, PaidOnce s := by
  intro h
  obtain ⟨s, hs, hp⟩ := List.any_eq_true.1 (show lostDispatchWide.history.any (paidBothWays 30 20) = true by decide +kernel)
  exact not_paidOnce hp (h s hs)

/-! ## An order is paid back no more than its total -/

/-- What a refund sends back on an order: its amount, once refunded, when its payment is the order's. -/
def Refund.sentBack (s : Db) (orderId : Uuid) (r : Refund) : ℤ :=
  if r.status = .refunded ∧ (s.find Tab.payments r.paymentId).any (fun p => p.orderId == orderId) = true then r.amount else 0

section
variable {c : Commit cfg} {Inv : Db → Prop} {G : List (LockKey schema) → Db → Db → Prop}

/-! ### What the provider sent back -/

end

end Balii
