import Balii.Payment.Settlement
/-!
# Payment.RefundResults — results that come twice

The comment of `persistRefundResultTransaction` promises that the webhook row keeps a replayed callback out, but the row is
inserted with `ON CONFLICT DO NOTHING` and nobody looks whether it was new; nor does anybody look at the refund's status.
So a result is processed once exactly in the runs where none comes again and none comes late.
-/
namespace Balii

open Rowdb Tx Sql System

variable {cfg : Config}

/-! ## What is asked of the results -/

/-- Every refunded refund of `a` is refunded in `b`. -/
def StaysRefunded (a b : Db) : Prop :=
  ∀ k r, a.find Tab.refunds k = some r → r.status = .refunded → ∃ q, b.find Tab.refunds k = some q ∧ q.status = .refunded

theorem staysRefunded_trans (a b c : Db) (h : StaysRefunded a b) (h' : StaysRefunded b c) : StaysRefunded a c := by
  intro k r hr hs
  obtain ⟨q, hq, hs'⟩ := h k r hr hs
  exact h' k q hq hs'

/-- The event announces that the refund is completed. -/
def OutboxEvent.Completes (e : OutboxEvent) (refundId : Uuid) : Prop :=
  e.type = "payment.refund.completed" ∧ e.aggregateId = Uuid.text refundId

/-- No refund is announced as completed twice. -/
def CompletedOnce (s : Db) : Prop :=
  ∀ k ev ev' e e', s.find Tab.outbox ev = some e → s.find Tab.outbox ev' = some e' → e.Completes k → e'.Completes k → ev = ev'

/-- The refunds announced as completed are the refunded ones, and each is announced once. -/
structure Announced (s : Db) : Prop where
  once : CompletedOnce s
  event : ∀ k r, s.find Tab.refunds k = some r → r.status = .refunded → ∃ ev e, s.find Tab.outbox ev = some e ∧ e.Completes k
  refund : ∀ k ev e, s.find Tab.outbox ev = some e → e.Completes k → ∃ r, s.find Tab.refunds k = some r ∧ r.status = .refunded

/-- Every transaction but the rejection of a refund. -/
def NoRejection (op : Op) : Prop := ∀ k i, op ≠ .rejectRefund k i

/-- A result, if that is what commits, finds its refund not refunded yet. -/
def TimelyResult (c : Commit cfg) : Prop :=
  ∀ i, c.op = .persistRefundResult i → ∀ r, c.before.find Tab.refunds i.refundId = some r → r.status ≠ .refunded

/-- Two results of one refund with one payload, the second a repetition of the first. -/
def Repetition (a b : System.Event (platform cfg)) : Prop :=
  ∃ (c d : Commit cfg) (i j : RefundResultInput), a = .commit c ∧ b = .commit d ∧ c.op = .persistRefundResult i ∧
    d.op = .persistRefundResult j ∧ i.refundId = j.refundId ∧ i.rawPayload = j.rawPayload

/-- The commit leaves refunds, payments and events exactly as they were. -/
def LeavesResults (c : Commit cfg) : Prop :=
  c.after.rows Tab.refunds = c.before.rows Tab.refunds ∧ c.after.rows Tab.payments = c.before.rows Tab.payments ∧
    c.after.rows Tab.outbox = c.before.rows Tab.outbox

/-! ## One commit -/

theorem EventNew.completes {op : Op} {ev k : Uuid} {e : OutboxEvent} (h : EventNew op ev e) (hc : e.Completes k) :
    ∃ i, op = .persistRefundResult i ∧ i.outboxEventId = ev ∧ i.refundId = k ∧ i.refundResult = "SUCCESS" := by
  obtain ⟨htype, hid⟩ := hc
  cases h with
  | @settled i p _ _ =>
    change (if i.finalStatus = .paid then "payment.success" else "payment.failed") = _ at htype
    split at htype <;> simp at htype
  | expired _ _ => simp [ExpiredInput.event] at htype
  | @heard i payload hop hk =>
    refine ⟨i, hop, hk, Uuid.text_injective hid, ?_⟩
    change (if i.refundResult = "SUCCESS" then "payment.refund.completed" else "payment.refund.failed") = _ at htype
    split at htype
    · assumption
    · simp at htype
  | @noticed n id now _ _ =>
    change n.type = _ at htype
    cases n <;> simp [Notice.type] at htype

section
variable {c : Commit cfg} {Inv : Db → Prop} {G : List (LockKey schema) → Db → Db → Prop}

theorem outcome_refunded (i : RefundResultInput) (r : Refund) :
    (i.outcome r).status = if i.refundResult = "SUCCESS" then .refunded else .failed := by
  unfold RefundResultInput.outcome
  split <;> rfl

/-- A result finds its refund, and leaves its outcome there. -/
theorem result_find (hf : c.Faithful Inv G) {i : RefundResultInput} (hop : c.op = .persistRefundResult i) :
    ∃ r, c.before.find Tab.refunds i.refundId = some r ∧ c.after.find Tab.refunds i.refundId = some (i.outcome r) ∧
      c.before.find Tab.outbox i.outboxEventId = none ∧ ∃ payload, c.after.find Tab.outbox i.outboxEventId =
        some (i.event (if i.refundResult = "SUCCESS" then "payment.refund.completed" else "payment.refund.failed") payload) := by
  obtain ⟨call, op, s, o⟩ := c
  dsimp only at hop
  subst hop
  obtain ⟨r, payment, hr⟩ := exec_persistRefundResult hf
  obtain ⟨hnone, payload, hrows⟩ := hr.event
  refine ⟨r, hr.found, ?_, hnone, payload, ?_⟩
  · change (written o.writes s).find Tab.refunds i.refundId = _
    rw [Database.find_of_modify (D := schema) hr.refunds, if_pos rfl, hr.found, Option.map_some]
  · change ((written o.writes s).rows Tab.outbox).lookup i.outboxEventId = _
    unfold Database.find at hnone
    rw [hrows, AList.lookup_insertNew, if_pos rfl, hnone, Option.getD_none]

/-- What can take a refund out of `refunded`: another result, or a rejection. -/
theorem staysRefunded_commit (hp : NoRejection c.op) (hf : c.Faithful Inv G) (hc : TimelyResult c) :
    StaysRefunded c.before c.after := by
  intro k r hr hs
  obtain ⟨q, hq, hchange⟩ := refund_after hf hr
  refine ⟨q, hq, ?_⟩
  cases hchange with
  | rejected h => exact absurd h (hp _ _)
  | heard h hk => exact absurd hs (hc _ h r (hk ▸ hr))
  | _ => exact hs

/-- A refund that is announced as completed now was so before, or is completed by this very commit. -/
theorem completes_before (hf : c.Faithful Inv G) {k ev : Uuid} {e : OutboxEvent} (he : c.after.find Tab.outbox ev = some e)
    (hc : e.Completes k) : c.before.find Tab.outbox ev = some e ∨
      ∃ i, c.op = .persistRefundResult i ∧ i.outboxEventId = ev ∧ i.refundId = k ∧ i.refundResult = "SUCCESS" := by
  rcases event_before hf he with hbefore | ⟨_, hnew⟩
  · exact .inl hbefore
  · exact .inr (hnew.completes hc)

theorem announced_commit (hp : NoRejection c.op) (h : Announced c.before) (hf : c.Faithful Inv G) (hc : TimelyResult c) :
    Announced c.after := by
  have hstays := staysRefunded_commit hp hf hc
  -- a refund that is completed by this commit was not refunded, so nothing had announced it
  have hfirst : ∀ {i ev e}, c.op = .persistRefundResult i → c.before.find Tab.outbox ev = some e → ¬ e.Completes i.refundId := by
    intro i ev e hop he hcomp
    obtain ⟨r, hr, hs⟩ := h.refund _ ev e he hcomp
    exact hc i hop r hr hs
  refine ⟨fun k ev ev' e e' he he' hk hk' => ?_, fun k r hr hs => ?_, fun k ev e he hk => ?_⟩
  · rcases completes_before hf he hk with hb | ⟨i, hop, hev, rfl, _⟩
    · rcases completes_before hf he' hk' with hb' | ⟨i', hop', _, rfl, _⟩
      · exact h.once k ev ev' e e' hb hb' hk hk'
      · exact absurd hk (hfirst hop' hb)
    · rcases completes_before hf he' hk' with hb' | ⟨i', hop', hev', _, _⟩
      · exact absurd hk' (hfirst hop hb')
      · rw [hop] at hop'
        cases hop'
        exact hev.symm.trans hev'
  · rcases refund_before hf hr with ⟨q, hq, hchange⟩ | ⟨_, _, hnew⟩
    · have hold : q.status = .refunded → ∃ ev e, c.after.find Tab.outbox ev = some e ∧ e.Completes k := by
        intro hq'
        obtain ⟨ev, e, he, hk⟩ := h.event k q hq hq'
        exact ⟨ev, e, event_after hf he, hk⟩
      cases hchange with
      | rejected hop => cases hs
      | @heard i hop hk =>
        subst hk
        obtain ⟨_, _, _, _, payload, he⟩ := result_find hf hop
        rw [outcome_refunded] at hs
        split at hs
        · rename_i hsucc
          exact ⟨_, _, he, if_pos hsucc, rfl⟩
        · cases hs
      | _ => exact hold hs
    · obtain ⟨n, _, _, rfl⟩ | ⟨i, _, _, rfl⟩ := hnew <;> cases hs
  · rcases completes_before hf he hk with hb | ⟨i, hop, hev, rfl, hsucc⟩
    · obtain ⟨r, hr, hs⟩ := h.refund k ev e hb hk
      exact hstays k r hr hs
    · obtain ⟨r, _, hr, _⟩ := result_find hf hop
      refine ⟨_, hr, ?_⟩
      rw [outcome_refunded, if_pos hsucc]

/-- A late result spoils the refund, or announces it a second time. -/
theorem not_timely (h : Announced c.before) (hf : c.Faithful Inv G) (hc : ¬ TimelyResult c) :
    ¬ (StaysRefunded c.before c.after ∧ CompletedOnce c.after) := by
  unfold TimelyResult at hc
  push Not at hc
  obtain ⟨i, hop, r, hr, hs⟩ := hc
  rintro ⟨hstays, honce⟩
  obtain ⟨r', hr', hafter, hnone, payload, he⟩ := result_find hf hop
  by_cases hsucc : i.refundResult = "SUCCESS"
  · obtain ⟨ev, e, hev, hcomp⟩ := h.event _ r hr hs
    rw [if_pos hsucc] at he
    have hsame := honce i.refundId ev i.outboxEventId e _ (event_after hf hev) he hcomp ⟨rfl, rfl⟩
    rw [hsame, hnone] at hev
    cases hev
  · obtain ⟨q, hq, hs'⟩ := hstays _ r hr hs
    rw [hafter] at hq
    cases hq
    rw [outcome_refunded, if_neg hsucc] at hs'
    cases hs'

/-- Every result makes an event, a repeated one as well. -/
theorem not_leavesResults (hf : c.Faithful Inv G) {i : RefundResultInput} (hop : c.op = .persistRefundResult i) :
    ¬ LeavesResults c := by
  rintro ⟨_, _, hrows⟩
  obtain ⟨_, _, _, hnone, payload, he⟩ := result_find hf hop
  unfold Database.find at hnone he
  rw [hrows, hnone] at he
  cases he

end

/-! ## Every run -/

/-- **Every refund result is processed once**: a refunded refund stays so, it is announced once, and a repeated result leaves
everything as it was. -/
structure ResultsOnce (e : Execution (platform cfg) Announced NoRejection) : Prop where
  stays : e.history.Pairwise StaysRefunded
  once : ∀ s ∈ e.history, CompletedOnce s
  replay : e.events.Pairwise fun a b => Repetition a b → ∀ d : Commit cfg, b = .commit d → LeavesResults d

/-- **Results are processed once exactly in the runs where none comes for a refund that is refunded already and none comes
twice.** -/
theorem results_once_iff (cfg : Config) (e : Execution (platform cfg) Announced NoRejection) :
    ((∀ c : Commit cfg, .commit c ∈ e.events → TimelyResult c) ∧ e.events.Pairwise fun a b => ¬ Repetition a b) ↔
      ResultsOnce e := by
  have hk : Keeps (S := platform cfg) Announced (fun _ _ _ => True) NoRejection TimelyResult := fun c hp h hf hc =>
    ⟨announced_commit hp h hf hc, trivial⟩
  have hexact := e.iff_of_spoils hk (fun _ h => h) (P := fun c => StaysRefunded c.before c.after ∧ CompletedOnce c.after)
    (fun c hp h hf hc => ⟨staysRefunded_commit hp hf hc, (announced_commit hp h hf hc).once⟩)
    fun c _ h hf hc => not_timely h hf hc
  have hfaithful := e.commits (keeps_trivial NoRejection fun _ => True) (fun _ _ => trivial) fun _ _ => trivial
  rw [hexact]
  constructor
  · rintro ⟨h, hno⟩
    refine ⟨?_, fun s hs => ?_, hno.imp fun hno hrep => absurd hrep hno⟩
    · rw [e.pairwise_history staysRefunded_trans]
      exact fun c hc => (h c hc).1
    · rcases Execution.mem_history.1 hs with rfl | ⟨c, hc, rfl⟩
      · exact e.starts.once
      · exact (h c hc).2
  · rintro ⟨hstays, honce, hreplay⟩
    refine ⟨fun c hc => ⟨?_, ?_⟩, hreplay.imp_of_mem fun {a b} _ hb hleaves hrep => ?_⟩
    · exact (e.pairwise_history staysRefunded_trans).1 hstays c hc
    · exact honce _ (Execution.mem_history.2 (.inr ⟨c, hc, rfl⟩))
    · have hrep' := hrep
      obtain ⟨_, d, _, j, _, hd, _, hop, _, _⟩ := hrep'
      exact not_leavesResults (hfaithful d (hd ▸ hb)).2.1 hop (hleaves hrep d hd)

/-! ### A result that comes again -/

/-- Whether the operation rejects a refund. -/
def Op.rejects : Op → Bool
  | .rejectRefund .. => true
  | _ => false

theorem noRejection_of {op : Op} (h : (!op.rejects) = true) : NoRejection op := by
  rintro k i rfl
  cases h

/-- A refund of the sample payment is opened. -/
def openedRefund (refundId : Uuid) (amount : ℚ) (key : RefundKey) (now : Time) : NewRefund where
  id := refundId
  providerRefundId := "RF_" ++ Uuid.text refundId
  paymentId := 10
  amount := amount
  reason := "Hàng lỗi"
  idempotencyKey := some key
  now := now

/-- `createRefundRecord` as session `i`. -/
def refundAsked {cfg : Config} (i : ℕ) (n : NewRefund) : List (Cmd (platform cfg)) :=
  .arrive (.createRefundRecord n) :: steps i 2

/-- What the provider says of a refund of the sample payment. -/
def providerSays (refundId outboxEventId : Uuid) (refundResult rawPayload : String) (now : Time) : RefundResultInput where
  refundId := refundId
  paymentId := 10
  rawPayload := rawPayload
  providerRefundId := none
  refundResult := refundResult
  outboxEventId := outboxEventId
  now := now

/-- `persistRefundResultTransaction` as session `i`, up to its commit. -/
def refundReported {cfg : Config} (i : ℕ) (input : RefundResultInput) : List (Cmd (platform cfg)) :=
  .arrive (.persistRefundResultTransaction input) :: steps i 1

/-- A paid payment is refunded in part, and the worker gets to record the provider's answer a second time. -/
def answeredTwice : Execution (platform sampleConfig) Announced NoRejection :=
  .ofSchedule (shopWith sampleOrder)
    (paymentAsked 0 10 .vnpay 1 ++ paymentReported 3 (gatewaySays 10 100 "SUCCESS" "paid" 2) ++
      refundAsked 5 (openedRefund 20 4000000 (.text "k") 3) ++
      refundReported 6 (providerSays 20 101 "SUCCESS" "done" 4) ++ refundReported 7 (providerSays 20 102 "SUCCESS" "done" 5))
    ⟨fun _ _ _ _ _ h => (nomatch h), fun _ _ h => (nomatch h), fun _ _ _ h => (nomatch h)⟩
    fun c hc => noRejection_of
      (forall_commit (S := platform sampleConfig) (p := fun c => !Op.rejects c.op) (by decide +kernel) c hc)

/-- Whether the two events announce the refund as completed. -/
def completesBoth (refundId ev ev' : Uuid) (s : Db) : Bool :=
  [ev, ev'].all fun k => (s.find Tab.outbox k).any fun e =>
    e.type == "payment.refund.completed" && e.aggregateId == Uuid.text refundId

theorem not_completedOnce {k ev ev' : Uuid} {s : Db} (hne : ev ≠ ev') (h : completesBoth k ev ev' s = true) :
    ¬ CompletedOnce s := by
  simp only [completesBoth, List.all_cons, List.all_nil, Bool.and_true, Bool.and_eq_true, Option.any_eq_true, beq_iff_eq] at h
  obtain ⟨⟨e, he, hk⟩, ⟨e', he', hk'⟩⟩ := h
  exact fun honce => hne (honce k ev ev' e e' he he' hk hk')

theorem answeredTwice_not_once : ¬ ResultsOnce answeredTwice := by
  intro h
  obtain ⟨s, hs, hp⟩ := List.any_eq_true.1
    (show answeredTwice.history.any (completesBoth 20 101 102) = true by decide +kernel)
  exact not_completedOnce (by decide) hp (h.once s hs)

end Balii
