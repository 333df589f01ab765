import Balii.Order.ReturnRefunds
import Balii.Payment.Settlement
/-!
# Order.ReturnAllocations — the approved amount of a return, shared out over its items

Every item but the last gets its own price less the discount, rounded, and the last gets what is left.  So the shares always
add up; but what the roundings leave over can be more than the last item cost.
-/
namespace Balii

section
variable {amount allocated : ℤ} {ratio : ℚ} {items : List (Uuid × ℤ)}

theorem discountedGross_bounds (hratio : 0 ≤ ratio ∧ ratio ≤ 1) {gross : ℤ} (h : 0 ≤ gross) :
    0 ≤ roundMoney (gross * (1 - ratio)) ∧ roundMoney (gross * (1 - ratio)) ≤ gross := by
  have hgross : (0 : ℚ) ≤ gross := Int.cast_nonneg h
  have hrest : 0 ≤ 1 - ratio := by linarith [hratio.2]
  have hle : (gross : ℚ) * (1 - ratio) ≤ gross := by nlinarith [hratio.1]
  exact ⟨roundMoney_nonneg (mul_nonneg hgross hrest), roundMoney_le hle⟩

theorem discountRatio_bounds (subtotal discount : ℤ) : 0 ≤ discountRatio subtotal discount ∧ discountRatio subtotal discount ≤ 1 := by
  unfold discountRatio
  split
  · exact ⟨le_min (le_max_right _ _) zero_le_one, min_le_right _ _⟩
  · exact ⟨le_rfl, zero_le_one⟩

/-- The share of an item that is not the last. -/
def shareOf (amount allocated : ℤ) (ratio : ℚ) (gross : ℤ) : ℤ :=
  min (roundMoney (gross * (1 - ratio))) (max (amount - allocated) 0)

theorem shareOf_bounds (hratio : 0 ≤ ratio ∧ ratio ≤ 1) (hle : allocated ≤ amount) {gross : ℤ} (h : 0 ≤ gross) :
    0 ≤ shareOf amount allocated ratio gross ∧ shareOf amount allocated ratio gross ≤ gross ∧
      allocated + shareOf amount allocated ratio gross ≤ amount := by
  obtain ⟨h0, hgross⟩ := discountedGross_bounds hratio h
  unfold shareOf
  omega

theorem allocate_cons_cons (i j : Uuid × ℤ) (rest : List (Uuid × ℤ)) :
    allocateReturnItemRefunds amount ratio allocated (i :: j :: rest) =
      (i.1, shareOf amount allocated ratio i.2) ::
        allocateReturnItemRefunds amount ratio (allocated + shareOf amount allocated ratio i.2) (j :: rest) := rfl

theorem allocate_nonneg (hratio : 0 ≤ ratio ∧ ratio ≤ 1) (hle : allocated ≤ amount) (h : ∀ i ∈ items, 0 ≤ i.2) :
    ∀ e ∈ allocateReturnItemRefunds amount ratio allocated items, 0 ≤ e.2 := by
  induction items generalizing allocated with
  | nil => exact fun e he => (nomatch he)
  | cons i rest ih =>
    cases rest with
    | nil =>
      intro e he
      cases List.mem_singleton.1 he
      exact le_max_right _ _
    | cons j rest =>
      obtain ⟨h0, _, hsum⟩ := shareOf_bounds hratio hle (h i List.mem_cons_self)
      intro e he
      rw [allocate_cons_cons] at he
      rcases List.mem_cons.1 he with rfl | he
      · exact h0
      · exact ih hsum (fun i hi => h i (List.mem_cons_of_mem _ hi)) e he

/-- **The shares add up** to what is left to share out. -/
theorem allocate_sum (hratio : 0 ≤ ratio ∧ ratio ≤ 1) (hle : allocated ≤ amount) (h : ∀ i ∈ items, 0 ≤ i.2) (hne : items ≠ []) :
    ((allocateReturnItemRefunds amount ratio allocated items).map fun e => e.2).sum = amount - allocated := by
  induction items generalizing allocated with
  | nil => exact absurd rfl hne
  | cons i rest ih =>
    cases rest with
    | nil =>
      simp only [allocateReturnItemRefunds, List.map_cons, List.map_nil, List.sum_cons, List.sum_nil]
      omega
    | cons j rest =>
      obtain ⟨_, _, hsum⟩ := shareOf_bounds hratio hle (h i List.mem_cons_self)
      have hrest := ih hsum (fun i hi => h i (List.mem_cons_of_mem _ hi)) (List.cons_ne_nil _ _)
      rw [allocate_cons_cons, List.map_cons, List.sum_cons, hrest]
      omega

/-- What the items before the last are given back, if the amount suffices. -/
def discountedBeforeLast (ratio : ℚ) (items : List (Uuid × ℤ)) : ℤ :=
  (items.dropLast.map fun i => roundMoney (i.2 * (1 - ratio))).sum

theorem discountedBeforeLast_nonneg (hratio : 0 ≤ ratio ∧ ratio ≤ 1) (h : ∀ i ∈ items, 0 ≤ i.2) :
    0 ≤ discountedBeforeLast ratio items := by
  refine List.sum_nonneg fun x hx => ?_
  obtain ⟨i, hi, rfl⟩ := List.mem_map.1 hx
  exact (discountedGross_bounds hratio (h i (List.mem_of_mem_dropLast hi))).1

/-- **No share is more than its item cost** exactly if the last one is not. -/
theorem allocate_within_iff (hratio : 0 ≤ ratio ∧ ratio ≤ 1) (hle : allocated ≤ amount) (h : ∀ i ∈ items, 0 ≤ i.2) :
    List.Forall₂ (fun (e i : Uuid × ℤ) => e.1 = i.1 ∧ e.2 ≤ i.2) (allocateReturnItemRefunds amount ratio allocated items) items ↔
      ∀ last ∈ items.getLast?, amount - allocated ≤ last.2 + discountedBeforeLast ratio items := by
  induction items generalizing allocated with
  | nil => exact ⟨fun _ _ hlast => (nomatch hlast), fun _ => .nil⟩
  | cons i rest ih =>
    have hi := h i List.mem_cons_self
    cases rest with
    | nil =>
      have hlast : discountedBeforeLast ratio [i] = 0 := rfl
      simp only [allocateReturnItemRefunds, List.forall₂_cons, List.Forall₂.nil, and_true, true_and, List.getLast?_singleton,
        Option.mem_def, Option.some.injEq, forall_eq', hlast]
      omega
    | cons j rest =>
      have hrest : ∀ i ∈ j :: rest, 0 ≤ i.2 := fun i hi => h i (List.mem_cons_of_mem _ hi)
      obtain ⟨_, hshare, hsum⟩ := shareOf_bounds hratio hle hi
      have hbefore : discountedBeforeLast ratio (i :: j :: rest) =
          roundMoney (i.2 * (1 - ratio)) + discountedBeforeLast ratio (j :: rest) := rfl
      rw [allocate_cons_cons, List.forall₂_cons, ih hsum hrest, List.getLast?_cons_cons, hbefore]
      refine ⟨fun ⟨_, hall⟩ last hlast => ?_, fun hall => ⟨⟨rfl, hshare⟩, fun last hlast => ?_⟩⟩
      · have hthis := hall last hlast
        unfold shareOf at hthis
        omega
      · -- when the amount runs out before the last item, nothing is left for it
        have hthis := hall last hlast
        have hlast0 := hrest last (List.mem_of_getLast? hlast)
        have hbefore0 := discountedBeforeLast_nonneg hratio hrest
        unfold shareOf
        omega

end

/-! ## A receipt -/

/-- What a receipt gives back for each item it accepts. -/
def Receipt.allocations (rc : Receipt) (order : Order) (items : List ReturnItem) (prior : ℤ) : List (Uuid × ℤ) :=
  allocateReturnItemRefunds (rc.approvedRefundAmount order items prior) (discountRatio order.subtotal order.discountAmount) 0
    ((rc.accepted items).map fun i => (i.id, i.grossAmount))

/-- Shares that are not negative, add up to the approved amount, and are no more than what the items cost. -/
structure Receipt.SharesOut (rc : Receipt) (order : Order) (items : List ReturnItem) (prior : ℤ) : Prop where
  nonneg : ∀ e ∈ rc.allocations order items prior, 0 ≤ e.2
  sum : ((rc.allocations order items prior).map fun e => e.2).sum = rc.approvedRefundAmount order items prior
  within : List.Forall₂ (fun (e : Uuid × ℤ) (i : ReturnItem) => e.1 = i.id ∧ e.2 ≤ i.grossAmount) (rc.allocations order items prior)
    (rc.accepted items)

theorem approvedRefundAmount_nonneg (rc : Receipt) (order : Order) (items : List ReturnItem) (prior : ℤ) :
    0 ≤ rc.approvedRefundAmount order items prior :=
  le_min (calculateReturnRefund_nonneg _ _ _) (le_max_right _ _)

/-- **When the approved amount is shared out well**: exactly when what the last item is left with is no more than it cost. -/
theorem sharesOut_iff (rc : Receipt) (order : Order) (items : List ReturnItem) (prior : ℤ)
    (h : ∀ i ∈ rc.accepted items, 0 ≤ i.grossAmount) :
    rc.SharesOut order items prior ↔
      ∀ last ∈ (rc.accepted items).getLast?, rc.approvedRefundAmount order items prior ≤ last.grossAmount +
        ((rc.accepted items).dropLast.map fun i =>
          roundMoney (i.grossAmount * (1 - discountRatio order.subtotal order.discountAmount))).sum := by
  have hratio := discountRatio_bounds order.subtotal order.discountAmount
  have hamount := approvedRefundAmount_nonneg rc order items prior
  have hgross : ∀ i ∈ (rc.accepted items).map fun i => (i.id, i.grossAmount), 0 ≤ i.2 := by
    intro e he
    obtain ⟨i, hi, rfl⟩ := List.mem_map.1 he
    exact h i hi
  have hwithin := allocate_within_iff hratio hamount hgross
  rw [List.forall₂_map_right_iff, List.getLast?_map, sub_zero] at hwithin
  unfold discountedBeforeLast at hwithin
  rw [← List.map_dropLast, List.map_map] at hwithin
  constructor
  · intro hshares last hlast
    exact hwithin.1 hshares.within _ (Option.mem_map_of_mem _ hlast)
  · intro hlast
    refine ⟨allocate_nonneg hratio hamount hgross, ?_, hwithin.2 fun e he => ?_⟩
    · by_cases hne : rc.accepted items = []
      · -- nothing was accepted, and nothing is approved
        have hzero : rc.approvedRefundAmount order items prior = 0 := by
          unfold Receipt.approvedRefundAmount
          rw [hne]
          exact min_eq_left (le_max_right _ _)
        rw [hzero]
        unfold Receipt.allocations
        rw [hne]
        rfl
      · have hsum := allocate_sum hratio hamount hgross (by simpa using hne)
        rwa [sub_zero] at hsum
    · obtain ⟨last, hmem, rfl⟩ := Option.mem_map.1 he
      exact hlast last hmem

/-- An order of 2000.05 dong, three fifths of it taken off. -/
def discountedOrder : Order := { sampleOrder with subtotal := 200005, discountAmount := 120003, totalAmount := 80002 }

/-- An item that was bought or given for this price. -/
def returnedItem (id : Uuid) (unitPrice : ℤ) : ReturnItem where
  id := id
  orderItemId := id
  requestedQuantity := 1
  acceptedQuantity := none
  disposition := none
  unitPrice := unitPrice
  grossAmount := unitPrice
  refundAmount := 0

/-- Everything goes back on the shelf. -/
def restockedReceipt (items : List ReturnItem) : Receipt where
  returnRequestId := 1
  receivedBy := 2
  items := items.map fun i => (i.id, .restock)
  now := 3

def shirts : List ReturnItem := [returnedItem 1 100001, returnedItem 2 100001]

theorem shirts_sharesOut : (restockedReceipt shirts).SharesOut discountedOrder shirts 0 :=
  (sharesOut_iff _ _ _ _ (by decide +kernel)).2 (by decide +kernel)

/-- A free gift comes back with them, after them. -/
def shirtsAndGift : List ReturnItem := shirts ++ [returnedItem 3 0]

/-- The two shirts are given 400.00 dong each, and the gift the hundredth that the roundings left over. -/
theorem gift_refunded : ¬ (restockedReceipt shirtsAndGift).SharesOut discountedOrder shirtsAndGift 0 := by
  intro h
  have hgift : (restockedReceipt shirtsAndGift).allocations discountedOrder shirtsAndGift 0 = [(1, 40000), (2, 40000), (3, 1)] := by
    decide +kernel
  have hitems : (restockedReceipt shirtsAndGift).accepted shirtsAndGift =
      [returnedItem 1 100001, returnedItem 2 100001, returnedItem 3 0] := by decide +kernel
  have hwithin := h.within
  rw [hgift, hitems] at hwithin
  simp only [List.forall₂_cons, List.Forall₂.nil, and_true] at hwithin
  exact absurd hwithin.2.2.2 (by decide)

end Balii
