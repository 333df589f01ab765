import Balii.Text
import Mathlib.Algebra.Order.Field.Rat
import Mathlib.Data.List.Induction
import Mathlib.Data.List.TakeWhile
import Mathlib.Tactic.Linarith
/-!
# Numerals — what `Number` reads in a decimal fraction

Digits, a point and digits are read as the fraction they write; whatever follows the point, what is read is less than the power of
ten that the digits before it cannot reach.
-/
namespace Balii

section Digits
variable {ds es : List Char}

theorem trim_ofList (h : ∀ c ∈ ds, isJsSpace c = false) : trim (String.ofList ds) = String.ofList ds := by
  have hkeep : ∀ l : List Char, (∀ c ∈ l, isJsSpace c = false) → l.dropWhile isJsSpace = l := by
    intro l hl
    cases l with
    | nil => rfl
    | cons c l => simp [hl c List.mem_cons_self]
  unfold trim
  rw [String.toList_ofList, hkeep ds h, hkeep ds.reverse fun c hc => h c (List.mem_reverse.1 hc), List.reverse_reverse]

theorem toNat_of_isDigit {c : Char} (h : c.isDigit = true) : 48 ≤ c.toNat ∧ c.toNat ≤ 57 := by
  simp only [Char.isDigit, Bool.and_eq_true, decide_eq_true_eq, ge_iff_le, UInt32.le_iff_toNat_le] at h
  exact h

theorem isJsSpace_of_isDigit {c : Char} (h : c.isDigit = true) : isJsSpace c = false := by
  have hrange := toNat_of_isDigit h
  simp only [isJsSpace, Bool.or_eq_false_iff, Bool.and_eq_false_iff, decide_eq_false_iff_not, beq_eq_false_iff_ne]
  omega

theorem digitValue_of_isDigit {c : Char} (h : c.isDigit = true) : digitValue c = c.toNat - '0'.toNat ∧ digitValue c < 10 := by
  have hvalue : digitValue c = c.toNat - 48 := by
    unfold digitValue
    rw [if_pos h]
  have hrange := toNat_of_isDigit h
  exact ⟨hvalue, by omega⟩

theorem parseDigits_of_digits (hne : ds ≠ []) (h : ∀ c ∈ ds, c.isDigit = true) :
    parseDigits 10 ds = some (Nat.ofDigitChars 10 ds 0) := by
  have hany : (ds.any fun c => decide (10 ≤ digitValue c)) = false := by
    refine List.any_eq_false.2 fun c hc => ?_
    have := (digitValue_of_isDigit (h c hc)).2
    simpa using this
  have hfold : ∀ (l : List Char) (n : ℕ), (∀ c ∈ l, c.isDigit = true) →
      l.foldl (fun n c => n * 10 + digitValue c) n = Nat.ofDigitChars 10 l n := by
    intro l
    induction l with
    | nil => exact fun n _ => rfl
    | cons c l ih =>
      intro n hl
      rw [List.foldl_cons, Nat.ofDigitChars_cons, ih _ fun c hc => hl c (List.mem_cons_of_mem _ hc),
        (digitValue_of_isDigit (hl c List.mem_cons_self)).1, Nat.mul_comm]
  unfold parseDigits
  rw [hany, List.isEmpty_eq_false_iff.2 hne, hfold ds 0 h]
  rfl

theorem ofDigitChars_lt (h : ∀ c ∈ ds, c.isDigit = true) : Nat.ofDigitChars 10 ds 0 < 10 ^ ds.length := by
  induction ds using List.reverseRecOn with
  | nil => decide
  | append_singleton ds c ih =>
    have hds := ih fun c hc => h c (List.mem_append_left _ hc)
    obtain ⟨hvalue, hlt⟩ := digitValue_of_isDigit (h c (List.mem_append_right _ List.mem_cons_self))
    rw [Nat.ofDigitChars_append, Nat.ofDigitChars_cons, Nat.ofDigitChars_nil, ← hvalue, List.length_append, List.length_singleton, pow_succ]
    omega

end Digits

section Fractions
variable {w ds : List Char}

theorem split_at_point (hw : ∀ c ∈ w, c.isDigit = true) :
    (w ++ '.' :: ds).takeWhile Char.isDigit = w ∧ (w ++ '.' :: ds).dropWhile Char.isDigit = '.' :: ds := by
  constructor
  · rw [List.takeWhile_append_of_pos hw, List.takeWhile_cons_of_neg (by decide), List.append_nil]
  · rw [List.dropWhile_append_of_pos hw, List.dropWhile_cons_of_neg (by decide)]

theorem parseDecimal_point (hw : ∀ c ∈ w, c.isDigit = true) : parseDecimal (w ++ '.' :: ds) =
    match parseDigits 10 (w ++ ds.takeWhile Char.isDigit), (ds.dropWhile Char.isDigit).head?.all (fun c => c == 'e' || c == 'E'),
      parseExponent (ds.dropWhile Char.isDigit) with
    | some n, true, some e => .num ((n : ℚ) * (10 : ℚ) ^ (e - (ds.takeWhile Char.isDigit).length))
    | _, _, _ => .nan := by
  unfold parseDecimal
  rw [(split_at_point hw).1, (split_at_point hw).2]
  rfl

/-- **Digits, a point and digits** are the fraction they write. -/
theorem parseDecimal_fraction (hne : w ≠ []) (hw : ∀ c ∈ w, c.isDigit = true) (hds : ∀ c ∈ ds, c.isDigit = true) :
    parseDecimal (w ++ '.' :: ds) = .num ((Nat.ofDigitChars 10 (w ++ ds) 0 : ℚ) / 10 ^ ds.length) := by
  have htake : ds.takeWhile Char.isDigit = ds := List.takeWhile_eq_self_iff.2 hds
  have hdrop : ds.dropWhile Char.isDigit = [] := List.dropWhile_eq_nil_iff.2 hds
  have hall : ∀ c ∈ w ++ ds, c.isDigit = true := fun c hc => (List.mem_append.1 hc).elim (hw c) (hds c)
  rw [parseDecimal_point hw, htake, hdrop, parseDigits_of_digits (by simp [hne]) hall]
  simp [parseExponent, div_eq_mul_inv, zpow_neg]

/-- **Whatever follows the point**, an exponent apart, the number is below the power of ten of the digits before it. -/
theorem parseDecimal_lt {q : ℚ} (hw : ∀ c ∈ w, c.isDigit = true) (hds : 'e' ∉ ds ∧ 'E' ∉ ds)
    (h : parseDecimal (w ++ '.' :: ds) = .num q) : q < 10 ^ w.length := by
  rw [parseDecimal_point hw] at h
  have hfraction : ∀ c ∈ w ++ ds.takeWhile Char.isDigit, c.isDigit = true := fun c hc =>
    (List.mem_append.1 hc).elim (hw c) fun hc => List.mem_takeWhile_imp hc
  have htail : (ds.dropWhile Char.isDigit).head?.all (fun c => c == 'e' || c == 'E') = true → ds.dropWhile Char.isDigit = [] := by
    intro hhead
    cases hrest : ds.dropWhile Char.isDigit with
    | nil => rfl
    | cons c rest =>
      have hc : c ∈ ds := (List.dropWhile_sublist _).subset (hrest ▸ List.mem_cons_self)
      rw [hrest] at hhead
      simp only [List.head?_cons, Option.all_some, Bool.or_eq_true, beq_iff_eq] at hhead
      rcases hhead with rfl | rfl
      · exact absurd hc hds.1
      · exact absurd hc hds.2
  split at h
  · rename_i n e hn hhead he
    rw [htail hhead] at he
    cases he
    cases h
    have hne : w ++ ds.takeWhile Char.isDigit ≠ [] := by
      intro hnil
      rw [hnil] at hn
      cases hn
    rw [parseDigits_of_digits hne hfraction] at hn
    have hlt := ofDigitChars_lt hfraction
    rw [Option.some.inj hn, List.length_append, pow_add] at hlt
    have hcast : (n : ℚ) < 10 ^ w.length * 10 ^ (ds.takeWhile Char.isDigit).length := by exact_mod_cast hlt
    rw [zero_sub, zpow_neg, zpow_natCast, ← div_eq_mul_inv, div_lt_iff₀ (by positivity)]
    exact hcast
  · cases h

theorem numericLiteral_point (hne : w ≠ []) (hw : ∀ c ∈ w, c.isDigit = true) :
    numericLiteral (w ++ '.' :: ds) = parseDecimal (w ++ '.' :: ds) := by
  cases w with
  | nil => exact absurd rfl hne
  | cons c w =>
    have hc := hw c List.mem_cons_self
    have hunsigned : unsignedNumber (c :: w ++ '.' :: ds) = parseDecimal (c :: w ++ '.' :: ds) := by
      unfold unsignedNumber
      rw [if_neg]
      intro h
      rw [show "Infinity".toList = 'I' :: "nfinity".toList from rfl] at h
      cases (List.cons.inj h).1
      cases hc
    have hsecond : ∀ d rest, w ++ '.' :: ds = d :: rest → d.isDigit = true ∨ d = '.' := by
      intro d rest h
      cases w with
      | nil => exact .inr (List.cons.inj h).1.symm
      | cons e w =>
        cases (List.cons.inj h).1
        exact .inl (hw _ (List.mem_cons_of_mem _ List.mem_cons_self))
    rw [← hunsigned]
    unfold numericLiteral
    split
    · rename_i h
      cases h
    all_goals first
      | rfl
      | (rename_i ds' h
         obtain ⟨rfl, htail⟩ := List.cons.inj h
         first
         | (rcases hsecond _ _ htail with h | h <;> cases h)
         | cases hc)

theorem doubleLimit_pos : 0 < doubleLimit := by
  unfold doubleLimit
  apply Nat.sub_pos_of_lt
  apply Nat.pow_lt_pow_right
  · decide
  · decide

theorem literal_point (hne : w ≠ []) (hw : ∀ c ∈ w, c.isDigit = true) (hds : ∀ c ∈ ds, isJsSpace c = false) :
    numericLiteral (trim (String.ofList (w ++ '.' :: ds))).toList = parseDecimal (w ++ '.' :: ds) := by
  have hspace : ∀ c ∈ w ++ '.' :: ds, isJsSpace c = false := by
    intro c hc
    rcases List.mem_append.1 hc with hc | hc
    · exact isJsSpace_of_isDigit (hw c hc)
    · rcases List.mem_cons.1 hc with rfl | hc
      · rfl
      · exact hds c hc
  rw [trim_ofList hspace, String.toList_ofList, numericLiteral_point hne hw]

end Fractions

end Balii
