import Mathlib.Algebra.Order.Field.Power
import Mathlib.Algebra.Order.Field.Rat
import Mathlib.Data.Int.Log
import Mathlib.Data.Rat.Floor
import Mathlib.Tactic.Linarith
import Mathlib.Tactic.Positivity
import Mathlib.Tactic.Ring
/-!
# Double — rational numbers to double precision

What is left of a rational number in 53 binary digits: the nearest such number, of two the one whose last digit is even.  An exponent
has no upper limit here; who rounds decides what is too large.
-/
namespace Double

/-- To the nearest integer, from halfway to the even one. -/
def roundEven (x : ℚ) : ℤ :=
  if x - ⌊x⌋ < 1 / 2 ∨ (x - ⌊x⌋ = 1 / 2 ∧ ⌊x⌋ % 2 = 0) then ⌊x⌋ else ⌊x⌋ + 1

/-- The exponent of the last digit: 53 digits, and none below the least number there is. -/
def place (x : ℚ) : ℤ := max (Int.log 2 |x| - 52) (-1074)

/-- **The nearest double.** -/
def nearest (x : ℚ) : ℚ := roundEven (x / 2 ^ place x) * 2 ^ place x

section Integers
variable {x y : ℚ} {n : ℤ}

theorem roundEven_cases (x : ℚ) : (roundEven x = ⌊x⌋ ∧ x - ⌊x⌋ ≤ 1 / 2) ∨ (roundEven x = ⌊x⌋ + 1 ∧ 1 / 2 ≤ x - ⌊x⌋) := by
  unfold roundEven
  split
  · rename_i h
    exact .inl ⟨rfl, h.elim le_of_lt fun h => h.1.le⟩
  · rename_i h
    exact .inr ⟨rfl, not_lt.1 fun hlt => h (.inl hlt)⟩

theorem roundEven_le (h : x ≤ n) : roundEven x ≤ n := by
  rcases roundEven_cases x with ⟨heq, _⟩ | ⟨heq, hhalf⟩
  · rw [heq]
    exact Int.floor_le_iff.2 (by linarith)
  · rw [heq, Int.add_one_le_iff]
    have hlt : ((⌊x⌋ : ℤ) : ℚ) < n := by linarith
    exact_mod_cast hlt

theorem le_roundEven (h : n ≤ x) : n ≤ roundEven x := by
  have hfloor : n ≤ ⌊x⌋ := Int.le_floor.2 h
  rcases roundEven_cases x with ⟨heq, _⟩ | ⟨heq, _⟩ <;> omega

theorem roundEven_intCast (n : ℤ) : roundEven n = n := le_antisymm (roundEven_le le_rfl) (le_roundEven le_rfl)

theorem roundEven_mono (h : x ≤ y) : roundEven x ≤ roundEven y := by
  rcases (Int.floor_le_floor h).lt_or_eq with hlt | heq
  · have hx : roundEven x ≤ ⌊x⌋ + 1 := by rcases roundEven_cases x with ⟨h, _⟩ | ⟨h, _⟩ <;> omega
    have hy : ⌊y⌋ ≤ roundEven y := le_roundEven (Int.floor_le y)
    omega
  · -- between the same two integers the one further up is not rounded down alone
    unfold roundEven
    rw [heq]
    split_ifs with hx hy hy
    · exact le_rfl
    · omega
    · refine absurd ?_ hx
      rcases hy with hy | ⟨hy, heven⟩
      · exact .inl (by linarith)
      · rcases h.lt_or_eq with hlt | rfl
        · exact .inl (by linarith)
        · exact .inr ⟨hy, heven⟩
    · exact le_rfl

theorem roundEven_error (x : ℚ) : |roundEven x - x| ≤ 1 / 2 := by
  have hle := Int.floor_le x
  have hlt := Int.lt_floor_add_one x
  rcases roundEven_cases x with ⟨heq, h⟩ | ⟨heq, h⟩
  · rw [heq, abs_le]
    constructor <;> linarith
  · rw [heq, abs_le]
    push_cast
    constructor <;> linarith

end Integers

section Doubles
variable {x y : ℚ}

theorem unit_pos (x : ℚ) : (0 : ℚ) < 2 ^ place x := by positivity

/-- **The error is at most half of the last digit's unit.** -/
theorem nearest_error (x : ℚ) : |nearest x - x| ≤ 2 ^ place x / 2 := by
  have hunit := unit_pos x
  have hsplit : nearest x - x = (roundEven (x / 2 ^ place x) - x / 2 ^ place x) * 2 ^ place x := by
    unfold nearest
    rw [sub_mul, div_mul_cancel₀ _ hunit.ne']
  rw [hsplit, abs_mul, abs_of_pos hunit]
  have herror := roundEven_error (x / 2 ^ place x)
  nlinarith

/-- Above the least normal number the unit is a small part of the number. -/
theorem unit_le (h : (2 : ℚ) ^ (-1022 : ℤ) ≤ |x|) : 2 ^ place x ≤ |x| / 2 ^ 52 := by
  have hpos : 0 < |x| := lt_of_lt_of_le (by positivity) h
  have hlog : -1022 ≤ Int.log 2 |x| := (Int.zpow_le_iff_le_log (b := 2) (by decide) hpos).1 h
  have hplace : place x = Int.log 2 |x| - 52 := max_eq_left (by omega)
  have hlower : (2 : ℚ) ^ Int.log 2 |x| ≤ |x| := Int.zpow_log_le_self (b := 2) (by decide) hpos
  rw [hplace, zpow_sub₀ (by norm_num)]
  exact div_le_div_of_nonneg_right hlower (by positivity)

theorem nearest_error_le (h : (2 : ℚ) ^ (-1022 : ℤ) ≤ |x|) : |nearest x - x| ≤ |x| / 2 ^ 53 := by
  have herror := nearest_error x
  have hunit := unit_le h
  calc |nearest x - x| ≤ 2 ^ place x / 2 := herror
    _ ≤ |x| / 2 ^ 52 / 2 := by linarith
    _ = |x| / 2 ^ 53 := by ring

/-- **Of a number that is not too small** the error is a small part. -/
theorem nearest_error_part (h : 1 / 2 ^ 52 ≤ x) : |nearest x - x| ≤ x / 2 ^ 53 := by
  have hpos : |x| = x := abs_of_nonneg (le_trans (by positivity) h)
  have hnormal : (2 : ℚ) ^ (-1022 : ℤ) ≤ |x| := calc
    (2 : ℚ) ^ (-1022 : ℤ) ≤ 2 ^ (-52 : ℤ) := zpow_le_zpow_right₀ (by norm_num) (by norm_num)
    _ = 1 / 2 ^ 52 := by norm_num
    _ ≤ |x| := h.trans_eq hpos.symm
  have herror := nearest_error_le hnormal
  rwa [hpos] at herror

/-- A number whose last digit stands further up is a whole number of units. -/
theorem digits_div {m j k : ℤ} (h : j ≤ k) : ∃ n : ℤ, (m * 2 ^ k : ℚ) / 2 ^ j = n := by
  obtain ⟨d, hd⟩ := Int.eq_ofNat_of_zero_le (sub_nonneg.2 h)
  refine ⟨m * 2 ^ d, ?_⟩
  rw [mul_div_assoc, ← zpow_sub₀ (by norm_num), hd, zpow_natCast]
  push_cast
  rfl

theorem nearest_of_place {m k : ℤ} (h : place (m * 2 ^ k) ≤ k) : nearest (m * 2 ^ k) = m * 2 ^ k := by
  obtain ⟨n, hn⟩ := digits_div (m := m) h
  have hunit := unit_pos ((m : ℚ) * 2 ^ k)
  unfold nearest
  rw [hn, roundEven_intCast, ← hn, div_mul_cancel₀ _ hunit.ne']

theorem nearest_le {m k : ℤ} (h : x ≤ m * 2 ^ k) (hk : place x ≤ k) : nearest x ≤ m * 2 ^ k := by
  obtain ⟨n, hn⟩ := digits_div (m := m) hk
  have hunit := unit_pos x
  have hle : x / 2 ^ place x ≤ n := by
    rw [← hn]
    exact div_le_div_of_nonneg_right h hunit.le
  have hround : (roundEven (x / 2 ^ place x) : ℚ) ≤ n := by exact_mod_cast roundEven_le hle
  rw [← div_mul_cancel₀ ((m : ℚ) * 2 ^ k) hunit.ne', hn]
  exact mul_le_mul_of_nonneg_right hround hunit.le

theorem le_nearest {m k : ℤ} (h : m * 2 ^ k ≤ x) (hk : place x ≤ k) : m * 2 ^ k ≤ nearest x := by
  obtain ⟨n, hn⟩ := digits_div (m := m) hk
  have hunit := unit_pos x
  have hle : n ≤ x / 2 ^ place x := by
    rw [← hn]
    exact div_le_div_of_nonneg_right h hunit.le
  have hround : (n : ℚ) ≤ roundEven (x / 2 ^ place x) := by exact_mod_cast le_roundEven hle
  rw [← div_mul_cancel₀ ((m : ℚ) * 2 ^ k) hunit.ne', hn]
  exact mul_le_mul_of_nonneg_right hround hunit.le

theorem place_le_of_abs_lt {k : ℤ} (hx : x ≠ 0) (hk : -1074 ≤ k) (h : |x| < 2 ^ (k + 53)) : place x ≤ k := by
  have hlog : Int.log 2 |x| < k + 53 := (Int.lt_zpow_iff_log_lt (b := 2) (by decide) (abs_pos.2 hx)).1 (by exact_mod_cast h)
  exact max_le (by omega) hk

/-- **A number of 53 digits is a double.** -/
theorem nearest_digits {m k : ℤ} (hm : |m| ≤ 2 ^ 53) (hk : -1074 ≤ k) : nearest (m * 2 ^ k) = m * 2 ^ k := by
  have habs : ∀ {m k : ℤ}, |(m * 2 ^ k : ℚ)| = |m| * 2 ^ k := by
    intro m k
    rw [abs_mul, abs_of_pos (by positivity : (0 : ℚ) < 2 ^ k)]
    push_cast
    rfl
  have hbelow : ∀ {m k : ℤ}, |m| < 2 ^ 53 → -1074 ≤ k → nearest (m * 2 ^ k) = m * 2 ^ k := by
    intro m k hm hk
    rcases eq_or_ne m 0 with rfl | hne
    · simp [nearest, roundEven]
    · refine nearest_of_place (place_le_of_abs_lt (by positivity) hk ?_)
      have hlt : ((|m| : ℤ) : ℚ) < 2 ^ 53 := by exact_mod_cast hm
      rw [habs, add_comm, zpow_add₀ (by norm_num)]
      exact mul_lt_mul_of_pos_right (by exact_mod_cast hlt) (by positivity)
  rcases hm.lt_or_eq with hlt | heq
  · exact hbelow hlt hk
  · -- the greatest has a digit less, one place further up
    obtain ⟨m', rfl⟩ : ∃ m', m = m' * 2 := by
      rcases abs_choice m with h | h
      · exact ⟨2 ^ 52, by omega⟩
      · exact ⟨-2 ^ 52, by omega⟩
    have hup : ((m' * 2 : ℤ) : ℚ) * 2 ^ k = m' * 2 ^ (k + 1) := by
      rw [zpow_add₀ (by norm_num)]
      push_cast
      ring
    rw [hup]
    refine hbelow ?_ (by omega)
    rw [abs_mul] at heq
    norm_num at heq ⊢
    omega

theorem nearest_intCast {n : ℤ} (h : |n| ≤ 2 ^ 53) : nearest n = n := by
  simpa using nearest_digits (k := 0) h (by decide)

theorem nearest_zero : nearest 0 = 0 := by simpa using nearest_intCast (n := 0) (by decide)

theorem nearest_nonneg (h : 0 ≤ x) : 0 ≤ nearest x := by
  have hround : (0 : ℤ) ≤ roundEven (x / 2 ^ place x) := le_roundEven (by rw [Int.cast_zero]; positivity)
  have hcast : (0 : ℚ) ≤ roundEven (x / 2 ^ place x) := by exact_mod_cast hround
  exact mul_nonneg hcast (unit_pos x).le

/-- **A greater number has no smaller double.** -/
theorem nearest_mono (hx : 0 ≤ x) (h : x ≤ y) : nearest x ≤ nearest y := by
  rcases hx.eq_or_lt with rfl | hpos
  · rw [nearest_zero]
    exact nearest_nonneg h
  · have hypos : 0 < y := hpos.trans_le h
    have hlog : Int.log 2 |x| ≤ Int.log 2 |y| := by
      rw [abs_of_pos hpos, abs_of_pos hypos]
      exact Int.log_mono_right hpos h
    rcases (max_le_max_right (-1074) (sub_le_sub_right hlog 52)).eq_or_lt with heq | hlt
    · change place x = place y at heq
      have hround : roundEven (x / 2 ^ place x) ≤ roundEven (y / 2 ^ place x) :=
        roundEven_mono (div_le_div_of_nonneg_right h (unit_pos x).le)
      unfold nearest
      rw [← heq]
      exact mul_le_mul_of_nonneg_right (by exact_mod_cast hround) (unit_pos x).le
    · -- a power of two lies between them
      change place x < place y at hlt
      have hfloor : Int.log 2 |x| - 52 ≤ place x := le_max_left ..
      have hleast : -1074 ≤ place x := le_max_right ..
      have hplace : place y = Int.log 2 |y| - 52 := (max_choice _ _).resolve_right (by unfold place at hlt hleast; omega)
      have hexp : Int.log 2 |y| = 52 + place y := by omega
      have hpower : ((2 : ℤ) ^ 52 : ℤ) * (2 : ℚ) ^ place y = 2 ^ Int.log 2 |y| := by
        rw [hexp, zpow_add₀ (by norm_num)]
        norm_cast
      have hbelow : x < 2 ^ Int.log 2 |y| := by
        have := (Int.lt_zpow_iff_log_lt (R := ℚ) (b := 2) (by decide) (abs_pos.2 hpos.ne')).2 (show Int.log 2 |x| < Int.log 2 |y| by omega)
        rw [abs_of_pos hpos] at this
        exact_mod_cast this
      have habove : (2 : ℚ) ^ Int.log 2 |y| ≤ y := by
        have := Int.zpow_log_le_self (R := ℚ) (b := 2) (by decide) (abs_pos.2 hypos.ne')
        rw [abs_of_pos hypos] at this ⊢
        exact_mod_cast this
      rw [← hpower] at hbelow habove
      exact (nearest_le hbelow.le hlt.le).trans (le_nearest habove le_rfl)

theorem nearest_nonpos (h : x ≤ 0) : nearest x ≤ 0 := by
  have hround : roundEven (x / 2 ^ place x) ≤ 0 := roundEven_le (by rw [Int.cast_zero]; exact div_nonpos_of_nonpos_of_nonneg h (unit_pos x).le)
  have hcast : (roundEven (x / 2 ^ place x) : ℚ) ≤ 0 := by exact_mod_cast hround
  exact mul_nonpos_of_nonpos_of_nonneg hcast (unit_pos x).le

theorem nearest_le_natCast {n : ℕ} (hn : n ≤ 2 ^ 53) (h : x ≤ n) : nearest x ≤ n := by
  rcases le_total x 0 with hneg | hpos
  · exact (nearest_nonpos hneg).trans n.cast_nonneg
  · have hint : nearest ((n : ℤ) : ℚ) = (n : ℤ) := nearest_intCast (by rw [Nat.abs_cast]; exact_mod_cast hn)
    rw [Int.cast_natCast] at hint
    exact (nearest_mono hpos h).trans_eq hint

theorem natCast_le_nearest {n : ℕ} (hn : n ≤ 2 ^ 53) (h : n ≤ x) : n ≤ nearest x := by
  have hint : nearest ((n : ℤ) : ℚ) = (n : ℤ) := nearest_intCast (by rw [Nat.abs_cast]; exact_mod_cast hn)
  rw [Int.cast_natCast] at hint
  exact hint.symm.trans_le (nearest_mono n.cast_nonneg h)

end Doubles

end Double
