import Balii.Order.Stock
import Balii.Payment.Ledger
import Balii.Payment.RefundChecks
/-!
# Payment.Routing — refunds that the order does not take

The refund workflow sends money back for orders that are on their way, by itself or after a person's decision.  The order
service takes a full refund of an order only once that is delivered or cancelled.  In between lies a payment that is refunded
and an order that goes on.
-/
namespace Balii

open Rowdb Tx Sql System

variable {cfg : Config}

/-! ## What the order service accepts -/

/-- `['cancelled', 'delivered', 'refunded'].includes(status)`. -/
def OrderStatus.TakesRefund (status : OrderStatus) : Prop := status = .cancelled ∨ status = .delivered ∨ status = .refunded

instance (status : OrderStatus) : Decidable status.TakesRefund := by
  unfold OrderStatus.TakesRefund
  infer_instance

/-- `updatePaymentStatus(orderId, 'refunded', 'refunded')` is accepted at this state. -/
def AcceptsRefund (s : Db) (orderId : Uuid) (now : Time) : Prop :=
  ∃ out, (updatePaymentStatusTransaction orderId .refunded (some .refunded) now).run s [] [] = .ok out

section
variable {R : List (LockKey schema) → Db → Db → Prop} {s : Db} {orderId : Uuid} {now : Time}

theorem exec_updateRefunded {out : Outcome (LockKey schema) (Write schema) (Uuid × Bool)}
    (h : Exec R (updatePaymentStatusTransaction orderId .refunded (some .refunded) now) s [] [] out) :
    ∃ o, s.find Tab.orders orderId = some o ∧ o.status.TakesRefund := by
  unfold updatePaymentStatusTransaction at h
  rw [exec_bind] at h
  obtain ⟨_, h1, h⟩ := h
  obtain ⟨o, ho, rfl⟩ := exec_fetchJoin h1
  simp only [nextStatusOf, refundedOrder, exec_bind, exec_ensure] at h
  obtain ⟨_, ⟨_, ⟨htakes, _⟩, _⟩, _⟩ := h
  exact ⟨o, ho, htakes⟩

theorem fails_updateRefunded {e : Err} (hR : ∀ L s₀, R L s₀ s → s₀ = s)
    (h : Fails R (updatePaymentStatusTransaction orderId .refunded (some .refunded) now) s [] [] e) {o : Order}
    (ho : s.find Tab.orders orderId = some o) : ¬ o.status.TakesRefund := by
  intro htakes
  unfold updatePaymentStatusTransaction at h
  rw [fails_bind] at h
  rcases h with h | ⟨_, h1, h⟩
  · exact not_fails_fetchJoin hR (show (written (D := schema) [] s).find Tab.orders orderId = some o from ho) h
  · obtain ⟨o', ho', rfl⟩ := exec_fetchJoin h1
    cases Option.some.inj (ho.symm.trans ho')
    simp only [nextStatusOf, refundedOrder, fails_bind, fails_ensure, exec_bind, exec_ensure, exec_pure] at h
    rcases h with (⟨hno, _⟩ | ⟨_, _, h⟩) | ⟨_, ⟨_, ⟨_, rfl⟩, rfl⟩, h⟩
    · exact hno htakes
    · exact h
    · rcases h with ⟨hno, _⟩ | ⟨_, ⟨_, rfl⟩, h⟩
      · exact hno fun s hs n hn => by cases hs; cases hn; rfl
      · -- from here on nothing throws
        rcases h with h | ⟨_, _, h⟩
        · unfold applyNextStatus at h
          dsimp only at h
          split at h
          · exact h
          · rw [fails_bind] at h
            rcases h with h | ⟨_, _, h⟩
            · exact fails_setOrderStatus h
            · exact h
        · rw [if_pos trivial, fails_bind] at h
          rcases h with h | ⟨_, _, h⟩
          · exact fails_completeReturns h
          · exact h

end

/-- **The order service accepts a full refund exactly when the order is cancelled, delivered or refunded.** -/
theorem acceptsRefund_iff {s : Db} {orderId : Uuid} {now : Time} :
    AcceptsRefund s orderId now ↔ ∃ o, s.find Tab.orders orderId = some o ∧ o.status.TakesRefund := by
  have hrun := exec_of_run (R := fun _ a b => a = b) (s := s) (fun _ => rfl)
    (updatePaymentStatusTransaction orderId .refunded (some .refunded) now) [] []
  unfold AcceptsRefund
  cases hcase : (updatePaymentStatusTransaction orderId .refunded (some .refunded) now).run s [] [] with
  | ok out =>
    rw [hcase] at hrun
    exact iff_of_true ⟨out, rfl⟩ (exec_updateRefunded hrun)
  | error e =>
    rw [hcase] at hrun
    refine iff_of_false (fun ⟨out, h⟩ => by cases h) fun ⟨o, ho, htakes⟩ => ?_
    exact fails_updateRefunded (fun _ _ h => h) hrun ho htakes

/-! ## Every run -/

/-- The order service accepts the refund of every payment that is refunded. -/
def RefundsTaken (s : Db) : Prop :=
  ∀ k p, s.find Tab.payments k = some p → p.status = .refunded → ∀ now, AcceptsRefund s p.orderId now

/-- A result that leaves its payment fully refunded, if that is what commits, finds the payment's order cancelled, delivered
or refunded. -/
def MeetsOrder (c : Commit cfg) : Prop :=
  ∀ i, c.op = .persistRefundResult i → i.refundResult = "SUCCESS" → ∀ q, c.after.find Tab.payments i.paymentId = some q →
    q.status = .refunded → ∃ o, c.before.find Tab.orders q.orderId = some o ∧ o.status.TakesRefund

theorem takesRefund_next {status status' : OrderStatus} (h : status.TakesRefund) (hn : status' ∈ status.next) :
    status'.TakesRefund := by
  rcases h with rfl | rfl | rfl
  · exact .inr (.inr (List.mem_singleton.1 hn))
  · exact .inr (.inr (List.mem_singleton.1 hn))
  · exact absurd hn List.not_mem_nil

section
variable {c : Commit cfg} {Inv : Db → Prop} {G : List (LockKey schema) → Db → Db → Prop}

theorem takesRefund_after (hf : c.Faithful Inv G) {id : Uuid} {o : Order} (ho : c.before.find Tab.orders id = some o)
    (h : o.status.TakesRefund) : ∃ o', c.after.find Tab.orders id = some o' ∧ o'.status.TakesRefund := by
  obtain ⟨o', ho', hchange⟩ := order_after hf ho
  refine ⟨o', ho', ?_⟩
  cases hchange with
  | kept => exact h
  | moved hs _ => exact takesRefund_next h hs
  | refunded _ _ => exact .inr (.inr rfl)

/-- A refunded payment was refunded before, or it is refunded by a success that commits now. -/
theorem refunded_before (hf : c.Faithful Inv G) {k : Uuid} {q : Payment} (hq : c.after.find Tab.payments k = some q)
    (hs : q.status = .refunded) : (∃ p, c.before.find Tab.payments k = some p ∧ p.status = .refunded ∧ p.orderId = q.orderId) ∨
      ∃ i, c.op = .persistRefundResult i ∧ i.paymentId = k ∧ i.refundResult = "SUCCESS" := by
  rcases payment_before hf hq with ⟨p, hp, hchange⟩ | ⟨_, n, _, _, rfl, _⟩
  · cases hchange with
    | noted h => exact .inl ⟨p, hp, by rw [← h.status, hs], h.orderId.symm⟩
    | cancelled _ _ => cases hs
    | @settled i _ _ _ _ =>
      change i.finalStatus = .refunded at hs
      unfold PaymentResultInput.finalStatus at hs
      split at hs <;> cases hs
    | expired _ _ => cases hs
    | refunded hop hk hres => exact .inr ⟨_, hop, hk, hres⟩
  · cases hs

theorem refundsTaken_commit (h : RefundsTaken c.before) (hf : c.Faithful Inv G) (hc : MeetsOrder c) : RefundsTaken c.after := by
  intro k q hq hs now
  have hbefore : ∃ o, c.before.find Tab.orders q.orderId = some o ∧ o.status.TakesRefund := by
    rcases refunded_before hf hq hs with ⟨p, hp, hp', horder⟩ | ⟨i, hop, rfl, hres⟩
    · rw [← horder]
      exact acceptsRefund_iff.1 (h k p hp hp' now)
    · exact hc i hop hres q hq hs
  obtain ⟨o, ho, htakes⟩ := hbefore
  exact acceptsRefund_iff.2 (takesRefund_after hf ho htakes)

theorem meetsOrder_of_taken (hf : c.Faithful Inv G) (h : RefundsTaken c.after) : MeetsOrder c := by
  intro i hop _ q hq hs
  obtain ⟨o, ho, htakes⟩ := acceptsRefund_iff.1 (h i.paymentId q hq hs 0)
  refine ⟨o, ?_, htakes⟩
  rw [← ho]
  exact (find_of_notMem hf (t := Tab.orders) (by rw [hop]; simp [Op.tables]) q.orderId).symm

end

/-- **Routing and the order service agree on delivered orders alone**, and in a run every full refund is accepted, at every
moment from then on, exactly when each found its order cancelled, delivered or refunded. -/
theorem refund_routing (cfg : Config) :
    (∀ status : OrderStatus, refundRoute status ≠ .reject ∧ status.TakesRefund ↔ status = .delivered) ∧
    ∀ e : Execution (platform cfg) RefundsTaken fun _ => True,
      (∀ c : Commit cfg, .commit c ∈ e.events → MeetsOrder c) ↔ ∀ s ∈ e.history, RefundsTaken s := by
  refine ⟨fun status => by cases status <;> decide, fun e => ?_⟩
  have hk : Keeps (S := platform cfg) RefundsTaken (fun _ _ _ => True) (fun _ => True) MeetsOrder := fun c _ h hf hc =>
    ⟨refundsTaken_commit h hf hc, trivial⟩
  exact e.iff_history hk (fun _ h => h) (fun _ h => h) fun c _ _ hf hc hgood => hc (meetsOrder_of_taken hf hgood)

/-! ### A full refund of a confirmed order -/

/-- `persistRefundResultTransaction` as session `i`, with a call to the order service that is refused. -/
def refundRefused (i : ℕ) (input : RefundResultInput) : List (Cmd (platform sampleConfig)) :=
  .arrive (.persistRefundResultTransaction input) :: (steps i 2 ++ steps (i + 1) 3 ++ steps i 2)

/-- An administrator has a confirmed order's payment refunded in full, and the worker comes back with the result. -/
def confirmedRefund : Execution (platform sampleConfig) RefundsTaken fun _ => True :=
  .ofSchedule (shopPaid { sampleOrder with status := .confirmed, inventoryState := .committed })
    (refundAsked 0 (openedRefund 20 10000000 (.text "k") 3) ++ refundRefused 1 (providerSays 20 101 "SUCCESS" "done" 4) ++
      refundRefused 3 (providerSays 20 102 "SUCCESS" "done" 5))
    (fun k p hp hs => by rw [shopPaid_payment hp] at hs; cases hs) fun _ _ => trivial

/-- Whether the payment is refunded and its order still confirmed. -/
def leftBehind (k : Uuid) (s : Db) : Bool :=
  (s.find Tab.payments k).any fun p => p.status == .refunded &&
    (s.find Tab.orders p.orderId).any fun o => o.status == .confirmed

theorem not_refundsTaken {k : Uuid} {s : Db} (h : leftBehind k s = true) : ¬ RefundsTaken s := by
  simp only [leftBehind, Option.any_eq_true, Bool.and_eq_true, beq_iff_eq] at h
  obtain ⟨p, hp, hs, o, ho, hst⟩ := h
  intro htaken
  obtain ⟨o', ho', htakes⟩ := acceptsRefund_iff.1 (htaken k p hp hs 0)
  cases Option.some.inj (ho.symm.trans ho')
  rw [hst] at htakes
  exact absurd htakes (by decide)

/-- Whether every call has ended. -/
def quiescent (w : World (platform sampleConfig)) : Bool :=
  w.sessions.all fun p => match p.2 with
    | .finished _ => true
    | _ => false

theorem confirmedRefund_leftBehind : refundRoute .confirmed = .adminReview ∧ quiescent confirmedRefund.final = true ∧
    leftBehind 10 confirmedRefund.final.db = true ∧ ¬ ∀ s ∈ confirmedRefund.history, RefundsTaken s := by
  refine ⟨rfl, by decide +kernel, by decide +kernel, fun h => ?_⟩
  obtain ⟨s, hs, hp⟩ := List.any_eq_true.1 (show confirmedRefund.history.any (leftBehind 10) = true by decide +kernel)
  exact not_refundsTaken hp (h s hs)

end Balii
