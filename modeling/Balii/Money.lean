import Balii.Schema
import Balii.Text
import Mathlib.Data.Rat.Floor
import Mathlib.Tactic.Linarith
/-!
# Money — rounding and the return arithmetic of the order service

Amounts are whole numbers of hundredths.  What the code computes in between, products with a discount ratio, is a
rational number of hundredths, and `roundMoney` brings it back; the `Number.EPSILON` it adds only makes up for binary
fractions, which are exact here.  A value that is a whole number already is not rounded again.  Where the last digit of a
double matters, in the discount of a voucher, the numbers are doubles and `roundNumber` is the same rounding of them.
-/
namespace Balii

/-- `Math.round((value + Number.EPSILON) * 100) / 100`: to the nearest hundredth, halves up. -/
def roundMoney (value : ℚ) : ℤ := ⌊value + 1 / 2⌋

theorem roundMoney_intCast (n : ℤ) : roundMoney (n : ℚ) = n := by
  unfold roundMoney
  have hhalf : ⌊(1 / 2 : ℚ)⌋ = 0 := by decide +kernel
  rw [Int.floor_intCast_add, hhalf, add_zero]

theorem roundMoney_le {x : ℚ} {n : ℤ} (h : x ≤ n) : roundMoney x ≤ n := by
  unfold roundMoney
  rw [← Int.lt_add_one_iff, Int.floor_lt]
  push_cast
  linarith

theorem roundMoney_nonneg {x : ℚ} (h : 0 ≤ x) : 0 ≤ roundMoney x := by
  unfold roundMoney
  rw [Int.floor_nonneg]
  linarith

/-- How PostgreSQL stores a number in a `NUMERIC(12,2)` column: to the nearest hundredth, halves away from zero. -/
def numeric (value : ℚ) : ℤ := if 0 ≤ value then ⌊value + 1 / 2⌋ else -⌊-value + 1 / 2⌋

theorem numeric_intCast (n : ℤ) : numeric (n : ℚ) = n := by
  have hhalf : ⌊(1 / 2 : ℚ)⌋ = 0 := by decide +kernel
  unfold numeric
  split
  · rw [Int.floor_intCast_add, hhalf, add_zero]
  · rw [← Int.cast_neg, Int.floor_intCast_add, hhalf, add_zero, neg_neg]

/-- `Number(amount)` of what a `NUMERIC(12,2)` column holds. -/
def amountNumber (n : ℤ) : ℚ := Double.nearest ((n : ℚ) / 100)

/-- What such a column keeps of a number: the query carries its text. -/
def storedAmount : JsNumber → ℤ
  | .num q => numeric (JsNumber.shown q * 100)
  | _ => 0

/-- `(orderAmount * discountValue) / 100`. -/
def percentOf (orderAmount discountValue : ℚ) : JsNumber := (JsNumber.double (orderAmount * discountValue)).after fun q => .double (q / 100)

/-- `if (maxDiscountAmount != null) discountAmount = Math.min(discountAmount, maxDiscountAmount)`. -/
def cappedAt (maxDiscountAmount : Option ℤ) (discountAmount : JsNumber) : JsNumber :=
  match maxDiscountAmount with
  | none => discountAmount
  | some m => discountAmount.min (.num (amountNumber m))

/-- `roundMoney` as it computes. -/
def roundNumber (value : JsNumber) : JsNumber :=
  (((value.after fun q => .double (q + 1 / 2 ^ 52)).after fun q => .double (q * 100)).after fun q => .num ⌊q + 1 / 2⌋).after fun q =>
    .double (q / 100)

section Doubles
variable {d x : ℚ} {n : ℕ}

theorem amountNumber_error (n : ℕ) : |amountNumber n - n / 100| ≤ n / 100 / 2 ^ 53 := by
  unfold amountNumber
  rw [Int.cast_natCast]
  rcases n.eq_zero_or_pos with rfl | hpos
  · simp [Double.nearest_zero]
  · have hn : (1 : ℚ) ≤ n := by exact_mod_cast hpos
    exact Double.nearest_error_part (by linarith)

/-- `Math.round(Number(amount))` is the amount to whole units: no rounding carries it over a half. -/
theorem floor_amountNumber (hn : n ≤ 2 ^ 50) : ⌊amountNumber n + 1 / 2⌋ = ⌊(n : ℚ) / 100 + 1 / 2⌋ := by
  have herror := abs_le.1 (amountNumber_error n)
  have hcast : (n : ℚ) ≤ 2 ^ 50 := by exact_mod_cast hn
  generalize hk : ⌊(n : ℚ) / 100 + 1 / 2⌋ = k
  obtain ⟨hle, hlt⟩ := Int.floor_eq_iff.1 hk
  have hnonneg : 0 ≤ k := hk ▸ Int.floor_nonneg.2 (by positivity)
  have hhundredths : (n : ℤ) < 100 * k + 50 := by
    have : ((n : ℤ) : ℚ) < ((100 * k + 50 : ℤ) : ℚ) := by push_cast; linarith
    exact_mod_cast this
  have habove : (n : ℚ) ≤ 100 * k + 49 := by exact_mod_cast Int.lt_add_one_iff.1 (by omega : (n : ℤ) < (100 * k + 49) + 1)
  rw [Int.floor_eq_iff]
  refine ⟨?_, by linarith⟩
  -- a half is a double, and nothing above it is rounded below it
  rcases hnonneg.eq_or_lt with rfl | hpos
  · have : 0 ≤ amountNumber n := Double.nearest_nonneg (by positivity)
    push_cast
    linarith
  · have hsmall : k ≤ 2 ^ 50 := by
      have : (k : ℚ) ≤ (2 ^ 50 : ℤ) := by push_cast; linarith
      exact_mod_cast this
    have hhalf : Double.nearest ((2 * k - 1 : ℤ) * 2 ^ (-1 : ℤ)) = (2 * k - 1 : ℤ) * 2 ^ (-1 : ℤ) :=
      Double.nearest_digits (abs_le.2 ⟨by omega, by omega⟩) (by decide)
    have hvalue : ((2 * k - 1 : ℤ) : ℚ) * 2 ^ (-1 : ℤ) = k - 1 / 2 := by
      push_cast
      ring
    rw [hvalue] at hhalf
    have hone : (1 : ℚ) ≤ k := by exact_mod_cast hpos
    have hmono := Double.nearest_mono (x := (k : ℚ) - 1 / 2) (y := ((n : ℤ) : ℚ) / 100) (by linarith) (by push_cast; linarith)
    rw [hhalf] at hmono
    unfold amountNumber
    linarith

theorem double_of_le (h0 : 0 ≤ x) (h : x ≤ 2 ^ 64) : JsNumber.double x = .num (Double.nearest x) := by
  have hlimit : ((2 ^ 64 : ℕ) : ℚ) < doubleLimit := Nat.cast_lt.2 (by decide +kernel)
  rw [Nat.cast_pow, Nat.cast_ofNat] at hlimit
  unfold JsNumber.double JsNumber.within
  rw [if_neg (by linarith), if_neg (by linarith)]

/-- What `Math.round` is given. -/
def inRound (d : ℚ) : ℚ := Double.nearest (Double.nearest (d + 1 / 2 ^ 52) * 100)

/-- **The two steps before it** lose less than half of a hundredth. -/
theorem inRound_error (h0 : 0 ≤ d) (hd : d ≤ 2 ^ 43) (hn : |d - n / 100| ≤ n / 100 / 2 ^ 53) : |inRound d - n| < 1 / 2 := by
  unfold inRound
  have hsum := abs_le.1 (Double.nearest_error_part (x := d + 1 / 2 ^ 52) (by linarith))
  generalize Double.nearest (d + 1 / 2 ^ 52) = sum at hsum ⊢
  have hproduct := abs_le.1 (Double.nearest_error_part (x := sum * 100) (by linarith))
  have hamount := abs_le.1 hn
  rw [abs_lt]
  constructor <;> linarith

theorem roundNumber_num (h0 : 0 ≤ d) (hd : d ≤ 2 ^ 43) : roundNumber (.num d) = .num (amountNumber ⌊inRound d + 1 / 2⌋) := by
  unfold inRound amountNumber
  show (((JsNumber.double (d + 1 / 2 ^ 52)).after fun q => .double (q * 100)).after fun q => .num ⌊q + 1 / 2⌋).after (fun q =>
    .double (q / 100)) = _
  have hsum := abs_le.1 (Double.nearest_error_part (x := d + 1 / 2 ^ 52) (by linarith))
  rw [double_of_le (by linarith) (by linarith)]
  generalize Double.nearest (d + 1 / 2 ^ 52) = sum at hsum ⊢
  show ((JsNumber.double (sum * 100)).after fun q => .num ⌊q + 1 / 2⌋).after (fun q => .double (q / 100)) = _
  have hproduct := abs_le.1 (Double.nearest_error_part (x := sum * 100) (by linarith))
  rw [double_of_le (by linarith) (by linarith)]
  generalize Double.nearest (sum * 100) = product at hproduct ⊢
  have hfloor : (0 : ℚ) ≤ ⌊product + 1 / 2⌋ := Int.cast_nonneg (Int.floor_nonneg.2 (by linarith))
  have hle := Int.floor_le (product + 1 / 2)
  exact double_of_le (by positivity) (by linarith)

/-- **Up to 2^43 rounding leaves the numbers of whole hundredths**, and no others. -/
theorem roundNumber_eq_iff (h0 : 0 ≤ d) (hd : d ≤ 2 ^ 43) : roundNumber (.num d) = .num d ↔ ∃ n : ℕ, d = amountNumber n := by
  rw [roundNumber_num h0 hd]
  constructor
  · intro h
    have hnonneg : 0 ≤ inRound d := Double.nearest_nonneg (mul_nonneg (Double.nearest_nonneg (by linarith)) (by norm_num))
    obtain ⟨n, hn⟩ := Int.eq_ofNat_of_zero_le (Int.floor_nonneg.2 (by linarith : 0 ≤ inRound d + 1 / 2))
    rw [hn] at h
    exact ⟨n, (JsNumber.num.inj h).symm⟩
  · rintro ⟨n, rfl⟩
    have herror := abs_lt.1 (inRound_error h0 hd (amountNumber_error n))
    have hfloor : ⌊inRound (amountNumber n) + 1 / 2⌋ = n := by
      rw [Int.floor_eq_iff]
      push_cast
      constructor <;> linarith
    rw [hfloor]

end Doubles

/-- `Math.min(Math.max(discount / subtotal, 0), 1)`, and 0 for an order without a subtotal. -/
def discountRatio (orderSubtotal orderDiscount : ℤ) : ℚ :=
  if 0 < orderSubtotal then min (max ((orderDiscount : ℚ) / orderSubtotal) 0) 1 else 0

def calculateReturnRefund (grossAmount orderSubtotal orderDiscount : ℤ) : ℤ :=
  if grossAmount ≤ 0 then 0
  else roundMoney (max ((grossAmount : ℚ) - grossAmount * discountRatio orderSubtotal orderDiscount) 0)

/-- The approved amount shared out over the accepted items, the last one taking what is left. -/
def allocateReturnItemRefunds (approvedRefundAmount : ℤ) (ratio : ℚ) : ℤ → List (Uuid × ℤ) → List (Uuid × ℤ)
  | _, [] => []
  | allocated, [(id, _)] => [(id, max (approvedRefundAmount - allocated) 0)]
  | allocated, (id, grossAmount) :: rest =>
    let amount := min (roundMoney (grossAmount * (1 - ratio))) (max (approvedRefundAmount - allocated) 0)
    (id, amount) :: allocateReturnItemRefunds approvedRefundAmount ratio (allocated + amount) rest

/-- `Math.max(subtotal - discount, 0)`: what can be refunded for the goods of an order. -/
def merchandiseTotal (o : Order) : ℤ := max (o.subtotal - o.discountAmount) 0

end Balii
