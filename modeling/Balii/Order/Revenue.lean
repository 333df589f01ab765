import Balii.Payment.Ledger
/-!
# Order.Revenue — what the orders have earned, in the admin's summary

`getAdminSummary` asks the database three times and `getMonthlyRevenue` once, and each asks the same: an order counts when it
is delivered or has a payment that is `paid`, with what its refunds leave of its total.  A payment of which a part went back
is no longer `paid` but `partially_refunded`, and its order drops out of the revenue, unless it is delivered.
-/
namespace Balii

open Rowdb System

/-! ## The queries -/

/-- `SUM(payment.refunded_amount)` over the payments of an order. -/
def refundedOf (id : Uuid) (s : Db) : ℤ :=
  (s.rows Tab.payments).total fun _ p => if p.orderId = id then p.refundedAmount else 0

/-- `SUM(rr.manual_refund_amount)` over its return requests that were paid out by hand. -/
def paidOutOf (id : Uuid) (s : Db) : ℤ :=
  (s.rows Tab.returnRequests).total fun _ rr =>
    if rr.orderId = id ∧ rr.refundStatus = some .manualCompleted then rr.manualRefundAmount.getD 0 else 0

/-- `GREATEST(o.total_amount - … - …, 0)`. -/
def netAmount (id : Uuid) (o : Order) (s : Db) : ℤ := max (o.totalAmount - refundedOf id s - paidOutOf id s) 0

/-- `EXISTS (SELECT 1 FROM payments WHERE order_id = o.id AND …)`. -/
def existsPayment (id : Uuid) (p : Payment → Bool) (s : Db) : Bool :=
  ((s.rows Tab.payments).find fun _ q => q.orderId == id && p q).isSome

/-- The condition that all four queries put to an order. -/
def countsAsRevenue (id : Uuid) (o : Order) (s : Db) : Bool :=
  !existsPayment id Payment.isSimulated s && (o.status == .delivered || existsPayment id (fun p => p.status == .paid) s)

def revenueOf (id : Uuid) (o : Order) (s : Db) : ℤ := if countsAsRevenue id o s then netAmount id o s else 0

/-- `COALESCE(SUM(…), 0)` over the orders with `p`. -/
def revenue (p : Order → Bool) (s : Db) : ℤ := (s.rows Tab.orders).total fun id o => if p o then revenueOf id o s else 0

/-- `COUNT(*)` over the same orders. -/
def revenueOrders (p : Order → Bool) (s : Db) : ℤ := (s.rows Tab.orders).count fun id o => p o && countsAsRevenue id o s

/-- Growth in percent, `toFixed(1)`. -/
def calculateGrowth (current previous : ℤ) : ℚ :=
  if previous = 0 then if 0 < current then 100 else 0
  else (numeric (((current : ℚ) - previous) / previous * 100 * 10) : ℚ) / 10

structure AdminSummary where
  totalRevenue : ℤ
  totalOrders : ℤ
  totalCustomers : ℕ
  totalProducts : ℕ
  revenueGrowth : ℚ
  orderGrowth : ℚ
  deriving DecidableEq, Repr

/-- The summary: each of its queries sees the database at its own moment.  `DATE_TRUNC('month', …)` is a count of `month`s; how
many customers and products there are comes from tables of other services. -/
def getAdminSummary (month : Time → ℤ) (today : Time) (customers products : ℕ) (currentMonth previousMonth totals : Db) :
    AdminSummary :=
  let inMonth (m : ℤ) (o : Order) : Bool := month o.createdAt == m
  { totalRevenue := revenue (fun _ => true) totals
    totalOrders := (totals.rows Tab.orders).count fun _ _ => true
    totalCustomers := customers
    totalProducts := products
    revenueGrowth :=
      calculateGrowth (revenue (inMonth (month today)) currentMonth) (revenue (inMonth (month today - 1)) previousMonth)
    orderGrowth :=
      calculateGrowth (revenueOrders (inMonth (month today)) currentMonth)
        (revenueOrders (inMonth (month today - 1)) previousMonth) }

structure RevenuePoint where
  month : String
  revenue : ℤ
  deriving DecidableEq, Repr

/-- One point for every month of the last twelve, the oldest first. -/
def getMonthlyRevenue (month : Time → ℤ) (today : Time) (s : Db) : List RevenuePoint :=
  (List.range 12).map fun i =>
    let m := month today - 11 + i
    { month := "T" ++ toString (m % 12 + 1), revenue := revenue (fun o => month o.createdAt == m) s }

/-! ## What it should be -/

/-- **The money of an order came in**: it is delivered, or a payment of it was received and did not all go back. -/
def moneyReceived (id : Uuid) (o : Order) (s : Db) : Bool :=
  o.status == .delivered || existsPayment id (fun p => p.status.refundable) s

/-- What is left of the money of an order. -/
def contribution (id : Uuid) (o : Order) (s : Db) : ℤ := if moneyReceived id o s then netAmount id o s else 0

def received (p : Order → Bool) (s : Db) : ℤ := (s.rows Tab.orders).total fun id o => if p o then contribution id o s else 0

def Unsimulated (s : Db) : Prop := ∀ k p, s.find Tab.payments k = some p → p.isSimulated = false

/-- The summary and every point of the months are the money received. -/
structure RevenueRight (s : Db) : Prop where
  total : ∀ month today customers products currentMonth previousMonth,
    (getAdminSummary month today customers products currentMonth previousMonth s).totalRevenue = received (fun _ => true) s
  monthly : ∀ month today, (getMonthlyRevenue month today s).map RevenuePoint.revenue =
    (List.range 12).map fun i => received (fun o => month o.createdAt == month today - 11 + i) s

/-- **An order that dropped out**: not delivered, one payment of it went back in part and none is `paid`, and there is money of
it left. -/
structure DroppedOut (id : Uuid) (o : Order) (s : Db) : Prop where
  undelivered : o.status ≠ .delivered
  unpaid : ∀ k p, s.find Tab.payments k = some p → p.orderId = id → p.status ≠ .paid
  partly : ∃ k p, s.find Tab.payments k = some p ∧ p.orderId = id ∧ p.status = .partiallyRefunded
  left : refundedOf id s + paidOutOf id s < o.totalAmount

/-! ## One order -/

theorem existsPayment_iff {id : Uuid} {p : Payment → Bool} {s : Db} :
    existsPayment id p s = true ↔ ∃ k q, s.find Tab.payments k = some q ∧ q.orderId = id ∧ p q = true := by
  unfold existsPayment
  constructor
  · intro h
    obtain ⟨⟨k, q⟩, hq⟩ := Option.isSome_iff_exists.1 h
    obtain ⟨hfind, hmatch⟩ := AList.find_some hq
    rw [Bool.and_eq_true, beq_iff_eq] at hmatch
    exact ⟨k, q, hfind, hmatch⟩
  · rintro ⟨k, q, hfind, hid, hp⟩
    by_contra hnone
    have hmiss := AList.find_eq_none.1 (Option.not_isSome_iff_eq_none.1 hnone) k q hfind
    simp [hid, hp] at hmiss

section
variable {id : Uuid} {o : Order} {s : Db}

theorem netAmount_nonneg : 0 ≤ netAmount id o s := le_max_right _ _

theorem countsAsRevenue_eq (h : Unsimulated s) :
    countsAsRevenue id o s = (o.status == .delivered || existsPayment id (fun p => p.status == .paid) s) := by
  have hno : existsPayment id Payment.isSimulated s = false := by
    rw [Bool.eq_false_iff]
    intro hsome
    obtain ⟨k, q, hq, _, hsim⟩ := existsPayment_iff.1 hsome
    rw [h k q hq] at hsim
    cases hsim
  rw [countsAsRevenue, hno, Bool.not_false, Bool.true_and]

theorem moneyReceived_of_counts (h : countsAsRevenue id o s = true) : moneyReceived id o s = true := by
  unfold countsAsRevenue at h
  unfold moneyReceived
  rw [Bool.and_eq_true, Bool.or_eq_true] at h
  rw [Bool.or_eq_true]
  refine h.2.imp_right fun hpaid => ?_
  obtain ⟨k, p, hp, hid, hs⟩ := existsPayment_iff.1 hpaid
  refine existsPayment_iff.2 ⟨k, p, hp, hid, ?_⟩
  rw [beq_iff_eq.1 hs]
  rfl

theorem revenueOf_le_contribution : revenueOf id o s ≤ contribution id o s := by
  unfold revenueOf contribution
  by_cases hc : countsAsRevenue id o s = true
  · rw [if_pos hc, if_pos (moneyReceived_of_counts hc)]
  · rw [if_neg hc]
    split
    · exact netAmount_nonneg
    · exact le_rfl

/-- **An order counts for its money, unless it dropped out.** -/
theorem revenueOf_eq_iff (h : Unsimulated s) : revenueOf id o s = contribution id o s ↔ ¬ DroppedOut id o s := by
  have hcounts := @countsAsRevenue_eq id o s h
  unfold revenueOf contribution
  by_cases hc : countsAsRevenue id o s = true
  · rw [if_pos hc, if_pos (moneyReceived_of_counts hc)]
    refine ⟨fun _ hdropped => ?_, fun _ => rfl⟩
    rw [hcounts, Bool.or_eq_true, beq_iff_eq] at hc
    rcases hc with hdelivered | hpaid
    · exact hdropped.undelivered hdelivered
    · obtain ⟨k, p, hp, hid, hs⟩ := existsPayment_iff.1 hpaid
      exact hdropped.unpaid k p hp hid (beq_iff_eq.1 hs)
  · rw [if_neg hc]
    rw [hcounts, Bool.or_eq_true, beq_iff_eq, not_or] at hc
    obtain ⟨hundelivered, hunpaid⟩ := hc
    by_cases hm : moneyReceived id o s = true
    · rw [if_pos hm]
      have hdropped : DroppedOut id o s ↔ refundedOf id s + paidOutOf id s < o.totalAmount := by
        refine ⟨fun hd => hd.left, fun hleft => ⟨hundelivered, fun k p hp hid hs => ?_, ?_, hleft⟩⟩
        · exact hunpaid (existsPayment_iff.2 ⟨k, p, hp, hid, beq_iff_eq.2 hs⟩)
        · rw [moneyReceived, Bool.or_eq_true, beq_iff_eq] at hm
          obtain ⟨k, p, hp, hid, hs⟩ := existsPayment_iff.1 (hm.resolve_left hundelivered)
          refine ⟨k, p, hp, hid, ?_⟩
          cases hstatus : p.status with
          | partiallyRefunded => rfl
          | paid => exact (hunpaid (existsPayment_iff.2 ⟨k, p, hp, hid, beq_iff_eq.2 hstatus⟩)).elim
          | pending => rw [hstatus] at hs; cases hs
          | failed => rw [hstatus] at hs; cases hs
          | refunded => rw [hstatus] at hs; cases hs
          | cancelled => rw [hstatus] at hs; cases hs
      rw [hdropped, netAmount]
      omega
    · rw [if_neg hm]
      refine ⟨fun _ hdropped => hm ?_, fun _ => rfl⟩
      obtain ⟨k, p, hp, hid, hs⟩ := hdropped.partly
      rw [moneyReceived, Bool.or_eq_true]
      refine .inr (existsPayment_iff.2 ⟨k, p, hp, hid, ?_⟩)
      rw [hs]
      rfl

end

/-! ## All orders -/

theorem revenue_eq_iff {s : Db} (h : Unsimulated s) (p : Order → Bool) :
    revenue p s = received p s ↔ ∀ id o, s.find Tab.orders id = some o → p o = true → ¬ DroppedOut id o s := by
  unfold revenue received
  rw [AList.total_eq_total_iff]
  · refine forall₃_congr fun id o _ => ?_
    by_cases hp : p o = true
    · rw [if_pos hp, if_pos hp, revenueOf_eq_iff h]
      simp only [hp, true_imp_iff]
    · rw [if_neg hp, if_neg hp]
      simp only [hp, true_iff]
      rintro ⟨⟩
  · intro id o _
    split
    · exact revenueOf_le_contribution
    · exact le_rfl

/-- **The summary is right as long as no order dropped out.** -/
theorem revenueRight_iff {s : Db} (h : Unsimulated s) :
    RevenueRight s ↔ ∀ id o, s.find Tab.orders id = some o → ¬ DroppedOut id o s := by
  constructor
  · intro hr id o ho
    exact (revenue_eq_iff h fun _ => true).1 (hr.total (fun _ => 0) 0 0 0 s s) id o ho rfl
  · intro hno
    have hall : ∀ p, revenue p s = received p s := fun p => (revenue_eq_iff h p).2 fun id o ho _ => hno id o ho
    refine ⟨fun _ _ _ _ _ _ => hall fun _ => true, fun month today => ?_⟩
    rw [getMonthlyRevenue, List.map_map]
    apply List.map_congr_left
    intro i _
    exact hall fun o => month o.createdAt == month today - 11 + i

/-! ## A refund in part -/

section
variable {a b : Db} {k id : Uuid} {p : Payment} {f : Payment → Payment}

/-- An update of one payment changes the refunds of its order. -/
theorem refundedOf_modify (hp : a.find Tab.payments k = some p) (hrows : b.rows Tab.payments = (a.rows Tab.payments).modify k f)
    (hf : (f p).orderId = p.orderId) :
    refundedOf id b = refundedOf id a + if p.orderId = id then (f p).refundedAmount - p.refundedAmount else 0 := by
  unfold refundedOf
  rw [hrows, AList.total_modify f _ hp, hf]
  split <;> simp

/-- No other order has a payment more or less. -/
theorem existsPayment_modify (hp : a.find Tab.payments k = some p)
    (hrows : b.rows Tab.payments = (a.rows Tab.payments).modify k f) (hf : (f p).orderId = p.orderId) (hne : p.orderId ≠ id)
    (g : Payment → Bool) : existsPayment id g b = existsPayment id g a := by
  have hfind : ∀ k' q, q.orderId = id → (b.find Tab.payments k' = some q ↔ a.find Tab.payments k' = some q) := by
    intro k' q hq
    rw [Database.find_of_modify (D := schema) hrows]
    split
    · rename_i hk
      subst hk
      rw [hp, Option.map_some, Option.some_inj, Option.some_inj]
      constructor
      · rintro rfl
        exact absurd (hf.symm.trans hq) hne
      · rintro rfl
        exact absurd hq hne
    · exact Iff.rfl
  rw [Bool.eq_iff_iff, existsPayment_iff, existsPayment_iff]
  constructor
  · rintro ⟨k', q, h, hq, hg⟩
    exact ⟨k', q, (hfind k' q hq).1 h, hq, hg⟩
  · rintro ⟨k', q, h, hq, hg⟩
    exact ⟨k', q, (hfind k' q hq).2 h, hq, hg⟩

end

section
variable {cfg : Config} {c : Commit cfg} {Inv : Db → Prop} {G : List (LockKey schema) → Db → Db → Prop} {id : Uuid} {x : ℤ}

/-- **A commit refunds `x` of an order**, and not the whole payment. -/
def PartialRefund (c : Commit cfg) (id : Uuid) (x : ℤ) : Prop :=
  ∃ k p q, c.before.find Tab.payments k = some p ∧ c.after.find Tab.payments k = some q ∧ p.orderId = id ∧
    q.status = .partiallyRefunded ∧ q.refundedAmount = p.refundedAmount + x ∧ 0 < x

/-- What the commit writes: one payment, and neither an order nor a return request. -/
theorem partialRefund_rows (hf : c.Faithful Inv G) (h : PartialRefund c id x) :
    ∃ k p total amount, c.before.find Tab.payments k = some p ∧ p.orderId = id ∧
      c.after.rows Tab.payments = (c.before.rows Tab.payments).modify k (Payment.refund total amount) ∧
      (p.refund total amount).status = .partiallyRefunded ∧ (p.refund total amount).refundedAmount = p.refundedAmount + x ∧
      c.after.rows Tab.orders = c.before.rows Tab.orders ∧ c.after.rows Tab.returnRequests = c.before.rows Tab.returnRequests := by
  obtain ⟨k, p, q, hp, hq, hid, hs, hx, hpos⟩ := h
  have hsame : q.refundedAmount ≠ p.refundedAmount := by omega
  obtain ⟨q', hq', hchange⟩ := payment_after hf hp
  cases Option.some.inj (hq.symm.trans hq')
  cases hchange with
  | noted h => exact absurd h.refundedAmount hsame
  | cancelled _ _ => exact absurd rfl hsame
  | settled _ _ _ _ => exact absurd rfl hsame
  | expired _ _ => exact absurd rfl hsame
  | @refunded i _ _ hop hk _ =>
    have horders := rows_of_notMem hf (t := Tab.orders) (by rw [hop]; simp [Op.tables])
    have hreturns := rows_of_notMem hf (t := Tab.returnRequests) (by rw [hop]; simp [Op.tables])
    obtain ⟨call, op, s, o⟩ := c
    dsimp only at hop
    subst hop hk
    obtain ⟨refund, payment, hr⟩ := exec_persistRefundResult hf
    have hmoved : (Commit.after ⟨call, .persistRefundResult i, s, o⟩ : Db).rows Tab.payments ≠ s.rows Tab.payments := by
      intro hrows
      have hkept : some _ = some p := hq.symm.trans ((Database.find_of_rows (D := schema) hrows i.paymentId).trans hp)
      exact hsame (by rw [Option.some.inj hkept])
    rcases hr.payments with ⟨_, total, _, ⟨_, _, _, _, hrows⟩ | ⟨hrows, _⟩⟩ | ⟨_, hrows⟩
    · have hrow := (Database.find_of_modify (D := schema) hrows i.paymentId).symm.trans hq
      rw [if_pos rfl, show s.find Tab.payments i.paymentId = some p from hp] at hrow
      have hpq := Option.some.inj hrow
      refine ⟨i.paymentId, p, total, payment.amount, hp, hid, hrows, ?_, ?_, horders, hreturns⟩
      · rw [hpq]
        exact hs
      · rw [hpq]
        exact hx
    · exact absurd hrows hmoved
    · exact absurd hrows hmoved

theorem orders_partialRefund (hf : c.Faithful Inv G) (h : PartialRefund c id x) :
    c.after.rows Tab.orders = c.before.rows Tab.orders := by
  obtain ⟨_, _, _, _, _, _, _, _, _, horders, _⟩ := partialRefund_rows hf h
  exact horders

theorem unsimulated_partialRefund (hf : c.Faithful Inv G) (h : PartialRefund c id x) (hu : Unsimulated c.before) :
    Unsimulated c.after := by
  obtain ⟨k, p, total, amount, _, _, hrows, _⟩ := partialRefund_rows hf h
  intro k' q hq
  rw [Database.find_of_modify (D := schema) hrows] at hq
  split at hq
  · obtain ⟨p', hp', rfl⟩ := Option.map_eq_some_iff.1 hq
    exact hu k' p' hp'
  · exact hu k' q hq

/-- **A refund in part takes what it refunds from the revenue**, where the order has not dropped out before or after. -/
theorem revenue_partialRefund (hf : c.Faithful Inv G) (h : PartialRefund c id x) {o : Order}
    (ho : c.before.find Tab.orders id = some o) (hu : Unsimulated c.before) (hbefore : ¬ DroppedOut id o c.before)
    (hafter : ¬ DroppedOut id o c.after) :
    revenue (fun _ => true) c.after = revenue (fun _ => true) c.before - min x (contribution id o c.before) := by
  have hpos : 0 < x := by
    obtain ⟨_, _, _, _, _, _, _, _, hpos⟩ := h
    exact hpos
  obtain ⟨k, p, total, amount, hp, hid, hrows, hs, hx, horders, hreturns⟩ := partialRefund_rows hf h
  have hfind := fun k' => Database.find_of_modify (D := schema) hrows k'
  have hq : c.after.find Tab.payments k = some (p.refund total amount) := by
    rw [hfind, if_pos rfl, hp, Option.map_some]
  have hu' := unsimulated_partialRefund hf h hu
  have hpaidOut : ∀ id', paidOutOf id' c.after = paidOutOf id' c.before := fun _ => by rw [paidOutOf, hreturns, paidOutOf]
  have hother : ∀ id' o', id' ≠ id → revenueOf id' o' c.after = revenueOf id' o' c.before := by
    intro id' o' hne
    have hne' : p.orderId ≠ id' := fun heq => hne (heq.symm.trans hid)
    have hrefunded := @refundedOf_modify _ _ _ id' _ _ hp hrows rfl
    rw [if_neg hne', add_zero] at hrefunded
    have hexists := existsPayment_modify hp hrows rfl hne'
    rw [revenueOf, countsAsRevenue, netAmount, hexists, hexists, hrefunded, hpaidOut, revenueOf, countsAsRevenue, netAmount]
  have hnet : netAmount id o c.after = max (o.totalAmount - refundedOf id c.before - x - paidOutOf id c.before) 0 := by
    rw [netAmount, refundedOf_modify hp hrows rfl, if_pos hid, hx, hpaidOut]
    congr 2
    omega
  have hchange : revenue (fun _ => true) c.after =
      revenue (fun _ => true) c.before + (revenueOf id o c.after - revenueOf id o c.before) := by
    unfold revenue
    rw [horders]
    exact AList.total_change ho fun id' o' hne => by simp only [hother id' o' hne]
  rw [hchange]
  by_cases hm : moneyReceived id o c.before = true
  · have hm' : moneyReceived id o c.after = true := by
      rw [moneyReceived, Bool.or_eq_true]
      refine .inr (existsPayment_iff.2 ⟨k, _, hq, hid, ?_⟩)
      rw [hs]
      rfl
    rw [(revenueOf_eq_iff hu).2 hbefore, (revenueOf_eq_iff hu').2 hafter, contribution, contribution, if_pos hm, if_pos hm', hnet,
      netAmount]
    omega
  · have hno : countsAsRevenue id o c.after ≠ true := by
      intro hc
      refine hm ?_
      rw [countsAsRevenue_eq hu', Bool.or_eq_true] at hc
      rw [moneyReceived, Bool.or_eq_true]
      refine hc.imp_right fun hpaid => ?_
      obtain ⟨k', q, hq', hqid, hqs⟩ := existsPayment_iff.1 hpaid
      rw [hfind] at hq'
      split at hq'
      · rename_i hk
        subst hk
        rw [hp, Option.map_some, Option.some_inj] at hq'
        rw [← hq', hs] at hqs
        cases hqs
      · refine existsPayment_iff.2 ⟨k', q, hq', hqid, ?_⟩
        rw [beq_iff_eq.1 hqs]
        rfl
    have hno' : countsAsRevenue id o c.before ≠ true := fun hc => hm (moneyReceived_of_counts hc)
    rw [revenueOf, revenueOf, contribution, if_neg hno, if_neg hno', if_neg hm]
    omega

end

/-! ## Runs -/

/-- **The revenue follows the money**: in every state of a run without simulated payments it is what was received, and a refund
in part lowers it by what it refunds, as far as there is something left. -/
structure RevenueFollows {cfg : Config} (e : Execution (platform cfg) (fun _ => True) fun _ => True) : Prop where
  right : ∀ s ∈ e.history, Unsimulated s → RevenueRight s
  partialRefund : ∀ c : Commit cfg, .commit c ∈ e.events → Unsimulated c.before → ∀ id o x,
    c.before.find Tab.orders id = some o → PartialRefund c id x →
      revenue (fun _ => true) c.after = revenue (fun _ => true) c.before - min x (contribution id o c.before)

/-- **The revenue follows the money in exactly the runs in which no order drops out.** -/
theorem revenueFollows_iff (cfg : Config) (e : Execution (platform cfg) (fun _ => True) fun _ => True) :
    RevenueFollows e ↔
      ∀ s ∈ e.history, Unsimulated s → ∀ id o, s.find Tab.orders id = some o → ¬ DroppedOut id o s := by
  constructor
  · intro h s hs hu
    exact (revenueRight_iff hu).1 (h.right s hs hu)
  · intro hno
    refine ⟨fun s hs hu => (revenueRight_iff hu).2 (hno s hs hu), fun c hc hu id o x ho hx => ?_⟩
    have hf := e.faithful c hc
    refine revenue_partialRefund hf hx ho hu (hno _ (e.before_mem_history hc) hu id o ho) ?_
    refine hno _ (Execution.mem_history.2 (.inr ⟨c, hc, rfl⟩)) (unsimulated_partialRefund hf hx hu) id o ?_
    exact (Database.find_of_rows (D := schema) (orders_partialRefund hf hx) id).trans ho

/-! ### A refund before the delivery -/

/-- The shop with the sample payment, of real money. -/
def shopSold (order : Order) : Db where
  rows t :=
    match t with
    | .payments => (∅ : Table Uuid Payment).insert 10 { samplePayment with isSimulated := false }
    | t => (shopWith order).rows t
  log := []

/-- Two fifths of a paid payment go back, before the order is on its way. -/
def refundedEarly : Execution (platform sampleConfig) (fun _ => True) fun _ => True :=
  .ofSchedule (shopSold { sampleOrder with status := .confirmed, inventoryState := .committed })
    (refundAsked 0 (openedRefund 20 4000000 (.text "k") 3) ++ refundReported 1 (providerSays 20 101 "SUCCESS" "done" 4))
    trivial fun _ _ => trivial

/-- Whether there is money that the revenue leaves out, and no payment is simulated. -/
def leftOut (s : Db) : Bool :=
  decide (revenue (fun _ => true) s < received (fun _ => true) s) && (s.rows Tab.payments).entries.all fun e => !e.2.isSimulated

theorem refundedEarly_leftOut : ¬ RevenueFollows refundedEarly := by
  intro h
  obtain ⟨s, hs, hp⟩ := List.any_eq_true.1 (show refundedEarly.history.any leftOut = true by decide +kernel)
  rw [leftOut, Bool.and_eq_true, decide_eq_true_eq, List.all_eq_true] at hp
  have hu : Unsimulated s := by
    intro k p hfind
    simpa using hp.2 ⟨k, p⟩ (AList.mem_lookup_iff.1 hfind)
  have htotal := (h.right s hs hu).total (fun _ => 0) 0 0 0 s s
  exact absurd htotal hp.1.ne

end Balii
