import Balii.Payment.RefundResults
/-!
# Payment.Ledger — the refunds of a payment against its amount

`createRefundRecord` opens a refund only when the pending and the refunded ones leave room for it.  But a refund that failed
gives its room away, and a success that comes later takes it all the same; a failure that comes after a success takes
the refund back and leaves the payment as it was.  The books of a payment are right exactly as long as neither happens.
-/
namespace Balii

open Rowdb Tx Sql System

variable {cfg : Config}

/-! ## The books -/

/-- The payment's columns fit the total of its refunded refunds. -/
structure Payment.Balanced (p : Payment) (total : ℤ) : Prop where
  within : total ≤ p.amount
  recorded : total = p.refundedAmount
  refunded : p.status = .refunded ↔ total = p.amount
  partially : p.status = .partiallyRefunded ↔ 0 < total ∧ total < p.amount

/-- The refund ledger of every payment. -/
def Ledger (s : Db) : Prop := ∀ k p, s.find Tab.payments k = some p → p.Balanced (refundedTotal k s)

structure Books (s : Db) : Prop where
  ledger : Ledger s
  positive : ∀ k r, s.find Tab.refunds k = some r → 0 < r.amount
  owner : ∀ k r, s.find Tab.refunds k = some r → (s.find Tab.payments r.paymentId).isSome = true

/-- Where all payments are paid and nothing was refunded, the books are right. -/
theorem Books.of_paid {s : Db} (hpaid : ∀ k p, s.find Tab.payments k = some p → p.status = .paid ∧ p.refundedAmount = 0 ∧ 0 < p.amount)
    (hnone : s.rows Tab.refunds = ∅) : Books s := by
  have htotal : ∀ k, refundedTotal k s = 0 := by
    intro k
    unfold refundedTotal
    rw [hnone]
    rfl
  have hno : ∀ k, s.find Tab.refunds k = none := by
    intro k
    unfold Database.find
    rw [hnone]
    rfl
  refine ⟨fun k p hp => ?_, fun k r hr => ?_, fun k r hr => ?_⟩
  · obtain ⟨hs, hr, ha⟩ := hpaid k p hp
    rw [htotal]
    refine ⟨by omega, hr.symm, ⟨fun h => ?_, fun h => by omega⟩, ⟨fun h => ?_, fun h => by omega⟩⟩
    · rw [hs] at h
      cases h
    · rw [hs] at h
      cases h
  · rw [hno] at hr
    cases hr
  · rw [hno] at hr
    cases hr

/-- The transactions of refunds, and all others that neither make a payment nor let one expire. -/
def LedgerOp (op : Op) : Prop := (∀ n, op ≠ .createPaymentRow n) ∧ ∀ i, op ≠ .markExpired i

/-- **When a commit keeps the books**: a success names its refund's own payment, which has room for the refund unless it is
refunded already; no other result and no rejection hits a refund that is refunded. -/
structure Fits (c : Commit cfg) : Prop where
  own : ∀ i, c.op = .persistRefundResult i → i.refundResult = "SUCCESS" →
    ∀ r, c.before.find Tab.refunds i.refundId = some r → i.paymentId = r.paymentId
  room : ∀ i, c.op = .persistRefundResult i → i.refundResult = "SUCCESS" →
    ∀ r p, c.before.find Tab.refunds i.refundId = some r → c.before.find Tab.payments r.paymentId = some p →
      r.status = .refunded ∨ refundedTotal r.paymentId c.before + r.amount ≤ p.amount
  failure : ∀ i, c.op = .persistRefundResult i → i.refundResult ≠ "SUCCESS" →
    ∀ r, c.before.find Tab.refunds i.refundId = some r → r.status ≠ .refunded
  rejection : ∀ k i, c.op = .rejectRefund k i → ∀ r, c.before.find Tab.refunds k = some r → r.status ≠ .refunded

/-- A success comes again for a refund that is refunded, under the id of another payment. -/
def ForeignRepeat (c : Commit cfg) : Prop :=
  ∃ i r, c.op = .persistRefundResult i ∧ i.refundResult = "SUCCESS" ∧ c.before.find Tab.refunds i.refundId = some r ∧
    r.status = .refunded ∧ i.paymentId ≠ r.paymentId

/-- Others make no payment disappear, and change no total of a payment they do not lock. -/
def KeepsTotals (L : List (LockKey schema)) (a b : Db) : Prop :=
  ∀ k, ((a.find Tab.payments k).isSome = true → (b.find Tab.payments k).isSome = true) ∧
    (LockKey.row (D := schema) Tab.payments k ∉ L → refundedTotal k b = refundedTotal k a)

/-! ## Totals -/

/-- The refund a transaction is about. -/
def Op.refundId? : Op → Option Uuid
  | .createRefundRecord n => some n.id
  | .insertRejectedRefund i => some i.newId
  | .rejectRefund k _ => some k
  | .requestGatewayRefund k _ => some k
  | .persistRefundResult i => some i.refundId
  | .increaseRefundRetryCount k => some k
  | _ => none

theorem paidTo_of_ne {k : Uuid} {r : Refund} (h : r.paymentId ≠ k) : r.paidTo k = 0 := if_neg fun h' => h h'.1

theorem paidTo_of_status {k : Uuid} {r : Refund} (h : r.status ≠ .refunded) : r.paidTo k = 0 := if_neg fun h' => h h'.2

theorem paidTo_refunded {r : Refund} (h : r.status = .refunded) : r.paidTo r.paymentId = r.amount := if_pos ⟨rfl, h⟩

theorem paidTo_outcome (i : RefundResultInput) (r : Refund) (k : Uuid) : (i.outcome r).paidTo k =
    if r.paymentId = k ∧ i.refundResult = "SUCCESS" then r.amount else 0 := by
  unfold RefundResultInput.outcome Refund.paidTo
  by_cases h : i.refundResult = "SUCCESS"
  · rw [if_pos h]
    simp [RefundResultInput.succeed, h]
  · rw [if_neg h]
    simp [RefundResultInput.disappoint, h]

section
variable {c : Commit cfg} {Inv : Db → Prop} {G : List (LockKey schema) → Db → Db → Prop}

theorem refund_kept (hf : c.Faithful Inv G) {k : Uuid} (hk : c.op.refundId? ≠ some k) :
    c.after.find Tab.refunds k = c.before.find Tab.refunds k := by
  have hstep := refund_step hf k
  cases hb : c.before.find Tab.refunds k with
  | none =>
    cases ha : c.after.find Tab.refunds k with
    | none => rfl
    | some q =>
      rw [hb, ha] at hstep
      obtain ⟨_, ⟨n, hop, hn, _⟩ | ⟨i, hop, hn, _⟩⟩ := hstep
      · exact absurd (by rw [hop, ← hn]; rfl) hk
      · exact absurd (by rw [hop, ← hn]; rfl) hk
  | some r =>
    rw [hb] at hstep
    obtain ⟨q, hq, hchange⟩ := hstep.after
    rw [hq]
    cases hchange with
    | kept => rfl
    | requested hop => exact absurd (by rw [hop]; rfl) hk
    | retried hop => exact absurd (by rw [hop]; rfl) hk
    | rejected hop => exact absurd (by rw [hop]; rfl) hk
    | heard hop hid => exact absurd (by rw [hop, ← hid]; rfl) hk

/-- **A total changes by the change of the transaction's own refund.** -/
theorem refundedTotal_step (hf : c.Faithful Inv G) {k : Uuid} (hk : ∀ j, c.op.refundId? = some j → j = k) (p : Uuid) :
    refundedTotal p c.after + (c.before.find Tab.refunds k).elim 0 (Refund.paidTo p) =
      refundedTotal p c.before + (c.after.find Tab.refunds k).elim 0 (Refund.paidTo p) :=
  AList.total_step (fun _ r => Refund.paidTo p r) fun _ hne => refund_kept hf fun h => hne (hk _ h)

/-- Where no refund changes what it counts for, no total changes. -/
theorem refundedTotal_kept (hf : c.Faithful Inv G) {p : Uuid}
    (h : ∀ k r q, c.before.find Tab.refunds k = some r → RefundChange c.op k r q → q.paidTo p = r.paidTo p) :
    refundedTotal p c.after = refundedTotal p c.before := by
  have hsame : ∀ k, (c.after.find Tab.refunds k).elim 0 (Refund.paidTo p) = (c.before.find Tab.refunds k).elim 0 (Refund.paidTo p) := by
    intro k
    cases ha : c.after.find Tab.refunds k with
    | none =>
      cases hb : c.before.find Tab.refunds k with
      | none => rfl
      | some r =>
        obtain ⟨q, hq, _⟩ := refund_after hf hb
        rw [ha] at hq
        cases hq
    | some q =>
      rcases refund_before hf ha with ⟨r, hr, hchange⟩ | ⟨hnone, _, hnew⟩
      · rw [hr]
        exact h k r q hr hchange
      · rw [hnone]
        obtain ⟨n, _, _, rfl⟩ | ⟨i, _, _, rfl⟩ := hnew
        · exact paidTo_of_status fun h => nomatch h
        · exact paidTo_of_status fun h => nomatch h
  cases hid : c.op.refundId? with
  | none =>
    have := refundedTotal_step hf (k := 0) (fun j hj => by rw [hid] at hj; cases hj) p
    have := hsame 0
    omega
  | some k =>
    have := refundedTotal_step hf (k := k) (fun j hj => by rw [hid] at hj; exact (Option.some.inj hj).symm) p
    have := hsame k
    omega

/-- What a result makes of the totals. -/
theorem refundedTotal_result (hf : c.Faithful Inv G) {i : RefundResultInput} (hop : c.op = .persistRefundResult i) {r : Refund}
    (hr : c.before.find Tab.refunds i.refundId = some r) (p : Uuid) :
    refundedTotal p c.after = refundedTotal p c.before - r.paidTo p + (i.outcome r).paidTo p := by
  have hstep := refundedTotal_step hf (k := i.refundId) (fun j hj => by rw [hop] at hj; exact (Option.some.inj hj).symm) p
  obtain ⟨r', hr', ha, _⟩ := result_find hf hop
  cases Option.some.inj (hr.symm.trans hr')
  rw [hr, ha, Option.elim_some, Option.elim_some] at hstep
  omega

theorem le_refundedTotal {s : Db} (h : ∀ k r, s.find Tab.refunds k = some r → 0 < r.amount) {k : Uuid} {r : Refund}
    (hr : s.find Tab.refunds k = some r) (hs : r.status = .refunded) : r.amount ≤ refundedTotal r.paymentId s := by
  have hle := AList.le_total (f := fun _ q => Refund.paidTo r.paymentId q) (t := s.rows Tab.refunds) (fun k' q hq => ?_) hr
  · rwa [paidTo_refunded hs] at hle
  · have := h k' q hq
    unfold Refund.paidTo
    split
    · omega
    · exact le_rfl

end

/-! ## One commit -/

theorem balanced_refund {p : Payment} {total : ℤ} (hpos : 0 < total) :
    (p.refund total p.amount).Balanced total ↔ total ≤ p.amount := by
  refine ⟨fun h => h.within, fun hle => ?_⟩
  unfold Payment.refund
  by_cases hfull : p.amount ≤ total
  · have heq : total = p.amount := by omega
    exact ⟨hle, (min_eq_left hle).symm, iff_of_true (if_pos hfull) heq,
      iff_of_false (by dsimp only; rw [if_pos hfull]; exact fun h => nomatch h) fun h => by dsimp only at h; omega⟩
  · have hne : total ≠ p.amount := by omega
    exact ⟨hle, (min_eq_left hle).symm, iff_of_false (by dsimp only; rw [if_neg hfull]; exact fun h => nomatch h) hne,
      iff_of_true (if_neg hfull) ⟨hpos, by dsimp only; omega⟩⟩

/-- A change that is neither an expiry nor a refund keeps a payment balanced. -/
theorem PaymentChange.balanced {op : Op} {k : Uuid} {p q : Payment} {total : ℤ} (h : PaymentChange op k p q)
    (hexp : ∀ i, op ≠ .markExpired i) (hres : ∀ i, op = .persistRefundResult i → i.refundResult ≠ "SUCCESS")
    (hb : p.Balanced total) : q.Balanced total := by
  have hpending : ∀ {q : Payment}, p.status = .pending → q.amount = p.amount → q.refundedAmount = p.refundedAmount →
      q.status ≠ .refunded → q.status ≠ .partiallyRefunded → q.Balanced total := by
    intro q hp ha hr h1 h2
    have hne : p.status ≠ .refunded := by rw [hp]; decide
    have hnp : p.status ≠ .partiallyRefunded := by rw [hp]; decide
    exact ⟨ha ▸ hb.within, hr ▸ hb.recorded, iff_of_false h1 (ha ▸ fun h => hne (hb.refunded.2 h)),
      iff_of_false h2 (ha ▸ fun h => hnp (hb.partially.2 h))⟩
  cases h with
  | noted h => exact ⟨h.amount ▸ hb.within, h.refundedAmount ▸ hb.recorded, by rw [h.status, h.amount]; exact hb.refunded,
      by rw [h.status, h.amount]; exact hb.partially⟩
  | cancelled _ hp => exact hpending hp rfl rfl (fun h => nomatch h) fun h => nomatch h
  | @settled i _ _ _ hp =>
    refine hpending hp rfl rfl ?_ ?_
    · change i.finalStatus ≠ .refunded
      unfold PaymentResultInput.finalStatus
      split <;> exact fun h => nomatch h
    · change i.finalStatus ≠ .partiallyRefunded
      unfold PaymentResultInput.finalStatus
      split <;> exact fun h => nomatch h
  | expired h => exact absurd h (hexp _)
  | refunded h _ hs => exact absurd hs (hres _ h)

/-- The total a success reads under its locks is the one it commits at, its own refund counted in. -/
theorem totalRead_eq {s : Db} {i : RefundResultInput} {r : Refund} {total : ℤ}
    (h : TotalRead (Rely (S := platform cfg) Books KeepsTotals) s i r total)
    (hr : s.find Tab.refunds i.refundId = some r) (hown : i.paymentId = r.paymentId) :
    total = refundedTotal r.paymentId s - r.paidTo r.paymentId + r.amount := by
  obtain ⟨L, s₀, hkr, hkp, ⟨_, ho⟩, rfl⟩ := h
  have hrow : s₀.find Tab.refunds i.refundId = s.find Tab.refunds i.refundId := get_eq_of_others ho _ hkr
  have htotal : refundedTotal r.paymentId s = refundedTotal r.paymentId s₀ :=
    eq_of_others (S := platform cfg) (f := refundedTotal r.paymentId) (fun K a b hK hg => (hg _).2 fun hmem => hK _ hmem hkp) ho
  have hfound : (s₀.rows Tab.refunds).lookup i.refundId = some r := hrow.trans hr
  have hpaid : (i.succeed r).paidTo i.paymentId = r.amount := if_pos ⟨hown.symm, rfl⟩
  rw [htotal, AList.total_modify _ _ hfound, hpaid, hown]
  unfold refundedTotal Refund.paidTo
  omega

section
variable {c : Commit cfg}

/-- **What a success of its own payment commits to**: the payment's columns are computed from its new total. -/
theorem success_commit (hf : c.Faithful Books KeepsTotals) {i : RefundResultInput} (hop : c.op = .persistRefundResult i)
    (hs : i.refundResult = "SUCCESS") {r : Refund} (hr : c.before.find Tab.refunds i.refundId = some r)
    (hown : i.paymentId = r.paymentId) :
    ∃ p, c.before.find Tab.payments r.paymentId = some p ∧ LockKey.row (D := schema) Tab.payments r.paymentId ∈ c.out.locks ∧
      refundedTotal r.paymentId c.after = refundedTotal r.paymentId c.before - r.paidTo r.paymentId + r.amount ∧
      c.after.rows Tab.payments =
        (c.before.rows Tab.payments).modify r.paymentId (Payment.refund (refundedTotal r.paymentId c.after) p.amount) := by
  have htotal := refundedTotal_result hf hop hr r.paymentId
  rw [paidTo_outcome, if_pos ⟨rfl, hs⟩] at htotal
  rw [htotal]
  obtain ⟨call, op, s, o⟩ := c
  dsimp only at hop
  subst hop
  obtain ⟨refund, p, hrec⟩ := exec_persistRefundResult hf
  cases Option.some.inj (hr.symm.trans hrec.found)
  refine ⟨p, hrec.own, hrec.locked.2, rfl, ?_⟩
  rcases hrec.payments with ⟨_, total, hread, hpay⟩ | ⟨hno, _⟩
  · have hread' := totalRead_eq hread hr hown
    rcases hpay with ⟨_, _, _, _, hrows⟩ | ⟨_, hmiss | ⟨L, s₀, hk, ⟨_, ho⟩, hmiss⟩⟩
    · rw [hread', hown] at hrows
      exact hrows
    · rw [hown, hrec.own] at hmiss
      cases hmiss
    · have hrow : s₀.find Tab.payments r.paymentId = s.find Tab.payments r.paymentId := get_eq_of_others ho _ hk
      rw [hown, hrow, hrec.own] at hmiss
      cases hmiss
  · exact absurd hs hno

theorem payments_stay {Inv : Db → Prop} {G : List (LockKey schema) → Db → Db → Prop} (hf : c.Faithful Inv G) (k : Uuid)
    (h : (c.before.find Tab.payments k).isSome = true) : (c.after.find Tab.payments k).isSome = true := by
  obtain ⟨p, hp⟩ := Option.isSome_iff_exists.1 h
  obtain ⟨q, hq, _⟩ := payment_after hf hp
  rw [hq]
  rfl

theorem refunds_positive {Inv : Db → Prop} {G : List (LockKey schema) → Db → Db → Prop} (hf : c.Faithful Inv G)
    (h : ∀ k r, c.before.find Tab.refunds k = some r → 0 < r.amount) : ∀ k r, c.after.find Tab.refunds k = some r → 0 < r.amount := by
  intro k q hq
  rcases refund_before hf hq with ⟨r, hr, hchange⟩ | ⟨_, hpos, _⟩
  · rw [hchange.sameClaim.amount]
    exact h k r hr
  · exact hpos

/-- Every refund is of a payment that exists, where others make none disappear. -/
theorem refunds_owned {Inv : Db → Prop} {G : List (LockKey schema) → Db → Db → Prop} (hf : c.Faithful Inv G)
    (hG : ∀ L a b, G L a b → ∀ k, (a.find Tab.payments k).isSome = true → (b.find Tab.payments k).isSome = true)
    (h : ∀ k r, c.before.find Tab.refunds k = some r → (c.before.find Tab.payments r.paymentId).isSome = true) :
    ∀ k r, c.after.find Tab.refunds k = some r → (c.after.find Tab.payments r.paymentId).isSome = true := by
  intro k q hq
  refine payments_stay hf _ ?_
  rcases refund_before hf hq with ⟨r, hr, hchange⟩ | ⟨_, _, hnew⟩
  · rw [hchange.sameClaim.paymentId]
    exact h k r hr
  · obtain ⟨call, op, s, o⟩ := c
    obtain ⟨n, hop, _, rfl⟩ | ⟨i, hop, _, rfl⟩ := hnew
    · dsimp only at hop
      subst hop
      obtain ⟨p, hp, _⟩ := exec_createRefundRecord hf
      exact Option.isSome_iff_exists.2 ⟨p, hp⟩
    · dsimp only at hop
      subst hop
      obtain ⟨_, _, ⟨L, s₀, ⟨_, ho⟩, hthere⟩, _⟩ := exec_insertRefund hf
      exact inv_of_others (S := platform cfg) (P := fun s => (s.find Tab.payments i.row.paymentId).isSome = true)
        (fun K a b _ hg ha => hG K a b hg _ ha) ho hthere

/-- Where no success commits, a commit that fits changes no total. -/
theorem refundedTotal_quiet {G : List (LockKey schema) → Db → Db → Prop} (hf : c.Faithful Books G) (hc : Fits c)
    (hres : ∀ i, c.op = .persistRefundResult i → i.refundResult ≠ "SUCCESS") (p : Uuid) :
    refundedTotal p c.after = refundedTotal p c.before := by
  refine refundedTotal_kept hf fun k r q hr hchange => ?_
  cases hchange with
  | kept => rfl
  | requested _ => rfl
  | retried _ => rfl
  | @rejected i hop =>
    have hrejected : (r.reject i).status ≠ .refunded := fun h : PaymentStatus.failed = .refunded => nomatch h
    rw [paidTo_of_status (hc.rejection _ _ hop r hr), paidTo_of_status hrejected]
  | heard hop hk =>
    subst hk
    rw [paidTo_of_status (hc.failure _ hop (hres _ hop) r hr), paidTo_outcome, if_neg fun h => hres _ hop h.2]

/-- **A commit that fits keeps the books.** -/
theorem books_commit (hp : LedgerOp c.op) (h : Books c.before) (hf : c.Faithful Books KeepsTotals) (hc : Fits c) :
    Books c.after ∧ KeepsTotals c.out.locks c.before c.after := by
  have hpositive := refunds_positive hf h.positive
  have howner := refunds_owned hf (fun _ _ _ hg k => (hg k).1) h.owner
  by_cases hsucc : ∃ i, c.op = .persistRefundResult i ∧ i.refundResult = "SUCCESS"
  · obtain ⟨i, hop, hs⟩ := hsucc
    obtain ⟨r, hr, hafter, _⟩ := result_find hf hop
    have hown := hc.own i hop hs r hr
    obtain ⟨p, hpay, hlock, htotal, hrows⟩ := success_commit hf hop hs hr hown
    have hother : ∀ k, k ≠ r.paymentId → refundedTotal k c.after = refundedTotal k c.before := by
      intro k hk
      rw [refundedTotal_result hf hop hr, paidTo_of_ne (Ne.symm hk), paidTo_outcome, if_neg fun h => hk h.1.symm]
      omega
    have hle := le_refundedTotal hpositive hafter (by rw [outcome_refunded, if_pos hs])
    rw [(show (i.outcome r).amount = r.amount by unfold RefundResultInput.outcome; split <;> rfl),
      (show (i.outcome r).paymentId = r.paymentId by unfold RefundResultInput.outcome; split <;> rfl)] at hle
    have hposr := h.positive _ r hr
    refine ⟨⟨fun k q hq => ?_, hpositive, howner⟩, fun k => ⟨payments_stay hf k, fun hk => ?_⟩⟩
    · rw [Database.find_of_modify (D := schema) hrows] at hq
      by_cases hk : k = r.paymentId
      · subst hk
        rw [if_pos rfl, hpay, Option.map_some] at hq
        cases hq
        refine (balanced_refund (by omega)).2 ?_
        have hbefore := (h.ledger _ p hpay).within
        rcases hc.room i hop hs r p hr hpay with hdone | hroom
        · rw [htotal, paidTo_refunded hdone]
          omega
        · rw [htotal]
          have : 0 ≤ r.paidTo r.paymentId := by
            unfold Refund.paidTo
            split
            · omega
            · exact le_rfl
          omega
      · rw [if_neg hk] at hq
        rw [hother k hk]
        exact h.ledger k q hq
    · exact hother k fun heq => hk (heq ▸ hlock)
  · have hres : ∀ i, c.op = .persistRefundResult i → i.refundResult ≠ "SUCCESS" := fun i hop hs => hsucc ⟨i, hop, hs⟩
    have hsame := refundedTotal_quiet hf hc hres
    refine ⟨⟨fun k q hq => ?_, hpositive, howner⟩, fun k => ⟨payments_stay hf k, fun _ => hsame k⟩⟩
    rw [hsame]
    rcases payment_before hf hq with ⟨p, hpay, hchange⟩ | ⟨_, n, hop, _⟩
    · exact hchange.balanced hp.2 hres (h.ledger k p hpay)
    · exact absurd hop (hp.1 n)

/-- Taking back the only thing that changes, a commit leaves the total of a payment it does not write behind. -/
theorem not_ledger (h : Books c.before) {k : Uuid} {p : Payment} (hb : c.before.find Tab.payments k = some p)
    (ha : c.after.find Tab.payments k = some p) (hne : refundedTotal k c.after ≠ refundedTotal k c.before) : ¬ Ledger c.after := by
  intro hl
  have h1 := (h.ledger k p hb).recorded
  have h2 := (hl k p ha).recorded
  omega

/-- A success under the id of another payment leaves the refund's own payment behind. -/
theorem own_of_ledger (h : Books c.before) (hf : c.Faithful Books KeepsTotals) (hforeign : ¬ ForeignRepeat c) (hl : Ledger c.after)
    {i : RefundResultInput} (hop : c.op = .persistRefundResult i) (hs : i.refundResult = "SUCCESS") {r : Refund}
    (hr : c.before.find Tab.refunds i.refundId = some r) : i.paymentId = r.paymentId := by
  by_contra hne
  have hstatus : r.status ≠ .refunded := fun hdone => hforeign ⟨i, r, hop, hs, hr, hdone, hne⟩
  obtain ⟨p, hp⟩ := Option.isSome_iff_exists.1 (h.owner _ r hr)
  have hpos := h.positive _ r hr
  have htotal := refundedTotal_result hf hop hr r.paymentId
  rw [paidTo_of_status hstatus, paidTo_outcome, if_pos ⟨rfl, hs⟩] at htotal
  refine not_ledger h hp ?_ (by omega) hl
  obtain ⟨call, op, s, o⟩ := c
  dsimp only at hop
  subst hop
  obtain ⟨refund, _, hrec⟩ := exec_persistRefundResult hf
  rcases hrec.payments with ⟨_, total, _, ⟨_, _, _, _, hrows⟩ | ⟨hrows, _⟩⟩ | ⟨_, hrows⟩
  · exact (Database.find_of_modify (D := schema) hrows r.paymentId).trans ((if_neg (Ne.symm hne)).trans hp)
  · exact (Database.find_of_rows (D := schema) hrows r.paymentId).trans hp
  · exact (Database.find_of_rows (D := schema) hrows r.paymentId).trans hp

/-- **A commit that does not fit spoils the ledger**, or repeats a success under the id of another payment. -/
theorem fits_of_ledger (h : Books c.before) (hf : c.Faithful Books KeepsTotals) (hforeign : ¬ ForeignRepeat c)
    (hl : Ledger c.after) : Fits c := by
  refine ⟨fun i hop hs r hr => own_of_ledger h hf hforeign hl hop hs hr, fun i hop hs r p hr hp => ?_,
    fun i hop hs r hr hdone => ?_, fun k i hop r hr hdone => ?_⟩
  · obtain ⟨p', hp', _, htotal, hrows⟩ := success_commit hf hop hs hr (own_of_ledger h hf hforeign hl hop hs hr)
    cases Option.some.inj (hp.symm.trans hp')
    have hafter := (Database.find_of_modify (D := schema) hrows r.paymentId).trans (if_pos rfl)
    rw [hp, Option.map_some] at hafter
    have hwithin := (hl _ _ hafter).within
    by_cases hdone : r.status = .refunded
    · exact .inl hdone
    · rw [paidTo_of_status hdone] at htotal
      refine .inr ?_
      change _ ≤ p.amount at hwithin
      omega
  · -- a failure takes the refund back, and its payment does not hear of it
    obtain ⟨p, hp⟩ := Option.isSome_iff_exists.1 (h.owner _ r hr)
    have hpos := h.positive _ r hr
    have htotal := refundedTotal_result hf hop hr r.paymentId
    rw [paidTo_refunded hdone, paidTo_outcome, if_neg fun h => hs h.2] at htotal
    refine not_ledger h hp ?_ (by omega) hl
    obtain ⟨call, op, s, o⟩ := c
    dsimp only at hop
    subst hop
    obtain ⟨refund, _, hrec⟩ := exec_persistRefundResult hf
    rcases hrec.payments with ⟨hsucc, _⟩ | ⟨_, hrows⟩
    · exact absurd hsucc hs
    · exact (Database.find_of_rows (D := schema) hrows r.paymentId).trans hp
  · -- so does a rejection
    obtain ⟨p, hp⟩ := Option.isSome_iff_exists.1 (h.owner _ r hr)
    have hpos := h.positive _ r hr
    have hstep := refundedTotal_step hf (k := k) (fun j hj => by rw [hop] at hj; exact (Option.some.inj hj).symm) r.paymentId
    have hafter : c.after.find Tab.refunds k = some (r.reject i) := by
      obtain ⟨call, op, s, o⟩ := c
      dsimp only at hop
      subst hop
      change (written o.writes s).find Tab.refunds k = _
      rw [show o.writes = _ from congrArg Outcome.writes hf, written_append, written_cons, written_nil, find_update, if_pos rfl]
      exact congrArg (Option.map (Refund.reject i)) hr
    have hrejected : (r.reject i).status ≠ .refunded := fun h : PaymentStatus.failed = .refunded => nomatch h
    rw [hr, hafter, Option.elim_some, Option.elim_some, paidTo_refunded hdone, paidTo_of_status hrejected] at hstep
    refine not_ledger h hp ((find_of_notMem hf (t := Tab.payments) ?_ _).trans hp) (by omega) hl
    rw [hop]
    simp [Op.tables]

end

/-! ## Every run -/

/-- **The ledger of every payment is right in every state of a run exactly when every commit of it fits**, runs apart in which
a success comes again under the id of another payment. -/
theorem refund_ledger (cfg : Config) (e : Execution (platform cfg) Books LedgerOp) :
    (∀ c : Commit cfg, .commit c ∈ e.events → Fits c) ↔
      (∀ c : Commit cfg, .commit c ∈ e.events → ¬ ForeignRepeat c) ∧ ∀ s ∈ e.history, Ledger s := by
  have hk : Keeps (S := platform cfg) Books KeepsTotals LedgerOp Fits := fun c hp h hf hc => books_commit hp h hf hc
  have hown : ∀ c : Commit cfg, Fits c → ¬ ForeignRepeat c := fun c hc ⟨i, r, hop, hs, hr, _, hne⟩ => hne (hc.own i hop hs r hr)
  rw [e.iff_of_spoils hk (fun _ h => h) (P := fun c => ¬ ForeignRepeat c ∧ Ledger c.after)
    (fun c hp h hf hc => ⟨hown c hc, (books_commit hp h hf hc).1.ledger⟩)
    fun c _ h hf hc hgood => hc (fits_of_ledger h hf hgood.1 hgood.2)]
  refine ⟨fun h => ⟨fun c hc => (h c hc).1, fun s hs => ?_⟩, fun h c hc => ⟨h.1 c hc, ?_⟩⟩
  · rcases Execution.mem_history.1 hs with rfl | ⟨c, hc, rfl⟩
    · exact e.starts.ledger
    · exact (h c hc).2
  · exact h.2 _ (Execution.mem_history.2 (.inr ⟨c, hc, rfl⟩))

/-! ### A success after a failure -/

/-- The sample order's payment, paid. -/
def samplePayment : Payment where
  orderId := 1
  userId := 1
  method := .vnpay
  status := .paid
  amount := 10000000
  refundedAmount := 0
  providerRef := some "SIM_PAY"
  providerTxnId := some "TX"
  merchantTxnId := none
  paymentUrl := none
  expiresAt := none
  paidAt := some 1
  idempotencyKey := none
  failureReason := none
  metadata := some (.obj [])
  isSimulated := true
  createdAt := 0

/-- The shop with the sample payment, nothing of it refunded. -/
def shopPaid (order : Order) : Db where
  rows t :=
    match t with
    | .payments => (∅ : Table Uuid Payment).insert 10 samplePayment
    | t => (shopWith order).rows t
  log := []

theorem shopPaid_payment {order : Order} {k : Uuid} {p : Payment} (hp : (shopPaid order).find Tab.payments k = some p) :
    p = samplePayment := by
  change ((∅ : Table Uuid Payment).insert 10 samplePayment).lookup k = some p at hp
  by_cases hk : k = 10
  · subst hk
    rw [AList.lookup_insert] at hp
    exact (Option.some.inj hp).symm
  · rw [AList.lookup_insert_ne hk] at hp
    cases hp

theorem shopPaid_books (order : Order) : Books (shopPaid order) := by
  refine Books.of_paid (fun k p hp => ?_) rfl
  rw [shopPaid_payment hp]
  exact ⟨rfl, rfl, by decide⟩

/-- Whether the operation makes a payment or lets one expire. -/
def Op.makesOrExpires : Op → Bool
  | .createPaymentRow _ => true
  | .markExpired _ => true
  | _ => false

theorem ledgerOp_of {op : Op} (h : (!op.makesOrExpires) = true) : LedgerOp op := by
  constructor
  · rintro n rfl
    cases h
  · rintro i rfl
    cases h

/-- A full refund fails, a second one succeeds, and then the first succeeds after all. -/
def lateSuccess : Execution (platform sampleConfig) Books LedgerOp :=
  .ofSchedule (shopPaid { sampleOrder with status := .delivered, inventoryState := .committed })
    (refundAsked 0 (openedRefund 20 10000000 (.text "a") 3) ++ refundReported 1 (providerSays 20 101 "FAILED" "first" 4) ++
      refundAsked 2 (openedRefund 21 10000000 (.text "b") 5) ++ refundReported 3 (providerSays 21 102 "SUCCESS" "second" 6) ++
      refundReported 4 (providerSays 20 103 "SUCCESS" "third" 7))
    (shopPaid_books _)
    fun c hc => ledgerOp_of
      (forall_commit (S := platform sampleConfig) (p := fun c => !Op.makesOrExpires c.op) (by decide +kernel) c hc)

/-- Whether more was refunded of the payment than it amounts to. -/
def overRefunded (k : Uuid) (s : Db) : Bool := (s.find Tab.payments k).any fun p => decide (p.amount < refundedTotal k s)

theorem lateSuccess_over : ¬ ∀ s ∈ lateSuccess.history, Ledger s := by
  intro h
  obtain ⟨s, hs, hp⟩ := List.any_eq_true.1 (show lateSuccess.history.any (overRefunded 10) = true by decide +kernel)
  obtain ⟨p, hpay, hover⟩ := (Option.any_eq_true _ _).1 hp
  have := (h s hs 10 p hpay).within
  have := of_decide_eq_true hover
  omega

end Balii
