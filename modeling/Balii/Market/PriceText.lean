import Balii.Json
import Balii.Numerals
import Balii.Lib.Grouping
import Mathlib.Tactic.Positivity
import Mathlib.Tactic.Ring
/-!
# Market.PriceText — the amount in the text of a price

`normalizeNumber` keeps the digits and separators of a text and decides by the separators which of them is the decimal one.  Where
both occur it is the comma: a Vietnamese price is read as it is meant, an American one is not.
-/
namespace Balii.Market

open Grouping

/-! ## Reading -/

/-- `[0-9.,-]`. -/
def isPriceChar (c : Char) : Bool := c.isDigit || c == '.' || c == ',' || c == '-'

/-- `.replace(/c/g, '')`. -/
def without (c : Char) (cs : List Char) : List Char := cs.filter (· ≠ c)

/-- `.replace(a, b)`: the first one only. -/
def replaceFirst (a b : Char) : List Char → List Char
  | [] => []
  | c :: cs => if c = a then b :: cs else c :: replaceFirst a b cs

/-- `normalized` of what is left of the text. -/
def normalizedNumber (cleaned : List Char) : List Char :=
  let hasComma := cleaned.contains ','
  let hasDot := cleaned.contains '.'
  if hasComma && hasDot then replaceFirst ',' '.' (without '.' cleaned)
  else if hasComma && !hasDot then
    let parts := cleaned.splitOn ','
    if 2 < parts.length then without ',' cleaned
    else if parts[1]?.map List.length = some 3 then without ',' cleaned
    else replaceFirst ',' '.' cleaned
  else if !hasComma && hasDot then
    let parts := cleaned.splitOn '.'
    if 2 < parts.length then without '.' cleaned
    else if parts[1]?.map List.length = some 3 then without '.' cleaned
    else cleaned
  else without ',' cleaned

/-- `Number.isFinite(x) ? x : null`. -/
def finite : JsNumber → Option ℚ
  | .num q => some q
  | _ => none

def normalizeNumber (value : Option Json) : Option ℚ :=
  match value with
  | some (.num n) => finite (jsNumber n.text)
  | some (.str s) =>
    let cleaned := trim (String.ofList (s.toList.filter isPriceChar))
    if cleaned = "" then none else finite (jsNumber (String.ofList (normalizedNumber cleaned.toList)))
  | _ => none

/-! ## Writing -/

inductive PriceStyle
  /-- `1,234,567.89`. -/
  | enUS
  /-- `1.234.567,89`. -/
  | viVN
  deriving DecidableEq

def PriceStyle.groupMark : PriceStyle → Char
  | .enUS => ','
  | .viVN => '.'

def PriceStyle.decimalMark : PriceStyle → Char
  | .enUS => '.'
  | .viVN => ','

/-- An amount of at least a thousand, written in one of the styles, with a currency or words around it. -/
structure Price where
  style : PriceStyle
  whole : ℕ
  cents : ℕ
  before : String
  after : String
  whole_ge : 1000 ≤ whole
  cents_lt : cents < 100
  before_plain : before.toList.all (fun c => !isPriceChar c) = true
  after_plain : after.toList.all (fun c => !isPriceChar c) = true

namespace Price

def amount (p : Price) : ℚ := p.whole + p.cents / 100

/-- The two decimals. -/
def decimals (p : Price) : List Char := [Nat.digitChar (p.cents / 10), Nat.digitChar (p.cents % 10)]

def formatted (p : Price) : List Char := group p.style.groupMark (Nat.toDigits 10 p.whole) ++ p.style.decimalMark :: p.decimals

def text (p : Price) : String := p.before ++ String.ofList p.formatted ++ p.after

end Price

/-! ## What is read of a price -/

theorem replaceFirst_append {a b : Char} {l r : List Char} (h : a ∉ l) : replaceFirst a b (l ++ a :: r) = l ++ b :: r := by
  induction l with
  | nil => simp [replaceFirst]
  | cons c l ih =>
    rw [List.mem_cons, not_or] at h
    rw [List.cons_append, replaceFirst, if_neg (Ne.symm h.1), ih h.2, List.cons_append]

section Prices
variable {p : Price}

theorem digits_isDigit {c : Char} (hc : c ∈ Nat.toDigits 10 p.whole) : c.isDigit = true :=
  Nat.isDigit_of_mem_toDigits (by decide) (by decide) hc

theorem decimals_isDigit {c : Char} (hc : c ∈ p.decimals) : c.isDigit = true := by
  have hcents := p.cents_lt
  simp only [Price.decimals, List.mem_cons, List.not_mem_nil, or_false] at hc
  rcases hc with rfl | rfl
  · rw [Nat.isDigit_digitChar, decide_eq_true_eq]
    omega
  · rw [Nat.isDigit_digitChar, decide_eq_true_eq]
    omega

theorem ne_of_isDigit {c d : Char} (hc : c.isDigit = true) (hd : d.isDigit = false) : c ≠ d := by
  rintro rfl
  rw [hc] at hd
  cases hd

theorem four_digits : 4 ≤ (Nat.toDigits 10 p.whole).length := by
  have hwhole := p.whole_ge
  by_contra hshort
  have := (Nat.length_toDigits_le_iff (b := 10) (n := p.whole) (k := 3) (by decide) (by decide)).1 (by omega)
  omega

theorem filter_text : p.text.toList.filter isPriceChar = p.formatted := by
  have hplain : ∀ s : String, s.toList.all (fun c => !isPriceChar c) = true → s.toList.filter isPriceChar = [] := by
    intro s hs
    refine List.filter_eq_nil_iff.2 fun c hc => ?_
    simpa using List.all_eq_true.1 hs c hc
  have hmarks : isPriceChar p.style.groupMark = true ∧ isPriceChar p.style.decimalMark = true := by
    cases p.style <;> decide
  have hdigit : ∀ c : Char, c.isDigit = true → isPriceChar c = true := by
    intro c hc
    simp [isPriceChar, hc]
  have hkept : ∀ c ∈ p.formatted, isPriceChar c = true := by
    intro c hc
    rcases List.mem_append.1 hc with hc | hc
    · rcases mem_group hc with hc | rfl
      · exact hdigit c (digits_isDigit hc)
      · exact hmarks.1
    · rcases List.mem_cons.1 hc with rfl | hc
      · exact hmarks.2
      · exact hdigit c (decimals_isDigit hc)
  unfold Price.text
  rw [String.toList_append, String.toList_append, String.toList_ofList, List.filter_append, List.filter_append,
    hplain _ p.before_plain, hplain _ p.after_plain, List.nil_append, List.append_nil, List.filter_eq_self.2 hkept]

theorem formatted_plain {c : Char} (hc : c ∈ p.formatted) : isJsSpace c = false ∧ c ≠ 'e' ∧ c ≠ 'E' := by
  have hchar : isPriceChar c = true := by
    rw [← filter_text] at hc
    exact (List.mem_filter.1 hc).2
  simp only [isPriceChar, Bool.or_eq_true, beq_iff_eq] at hchar
  rcases hchar with ((hdigit | rfl) | rfl) | rfl
  · exact ⟨isJsSpace_of_isDigit hdigit, ne_of_isDigit hdigit rfl, ne_of_isDigit hdigit rfl⟩
  · decide
  · decide
  · decide

theorem normalizeNumber_text :
    normalizeNumber (some (.str p.text)) = finite (jsNumber (String.ofList (normalizedNumber p.formatted))) := by
  have hspace : trim (String.ofList p.formatted) = String.ofList p.formatted := trim_ofList fun c hc => (formatted_plain hc).1
  have hne : String.ofList p.formatted ≠ "" := by
    intro h
    have := congrArg String.toList h
    rw [String.toList_ofList] at this
    simp [Price.formatted] at this
  unfold normalizeNumber
  dsimp only
  rw [filter_text, hspace, if_neg hne, String.toList_ofList]

theorem normalizedNumber_formatted : normalizedNumber p.formatted = replaceFirst ',' '.' (without '.' p.formatted) := by
  obtain ⟨first, rest, hgroup, -⟩ := group_split p.style.groupMark (four_digits (p := p))
  have hboth : p.formatted.contains ',' = true ∧ p.formatted.contains '.' = true := by
    unfold Price.formatted
    rw [hgroup]
    cases p.style <;> simp [PriceStyle.groupMark, PriceStyle.decimalMark]
  unfold normalizedNumber
  dsimp only
  rw [hboth.1, hboth.2]
  rfl

theorem digit_ne {c : Char} (hc : c ∈ Nat.toDigits 10 p.whole ∨ c ∈ p.decimals) : c ≠ '.' ∧ c ≠ ',' := by
  have hdigit : c.isDigit = true := hc.elim digits_isDigit decimals_isDigit
  exact ⟨ne_of_isDigit hdigit rfl, ne_of_isDigit hdigit rfl⟩

theorem normalizedNumber_viVN (h : p.style = .viVN) :
    normalizedNumber p.formatted = Nat.toDigits 10 p.whole ++ '.' :: p.decimals := by
  have hwithout : without '.' p.formatted = Nat.toDigits 10 p.whole ++ ',' :: p.decimals := by
    unfold without Price.formatted
    rw [h, List.filter_append, PriceStyle.groupMark, PriceStyle.decimalMark,
      filter_group (by decide) fun c hc => by simpa using (digit_ne (.inl hc)).1, List.filter_eq_self.2]
    intro c hc
    rcases List.mem_cons.1 hc with rfl | hc
    · decide
    · simpa using (digit_ne (.inr hc)).1
  rw [normalizedNumber_formatted, hwithout, replaceFirst_append fun hc => (digit_ne (.inl hc)).2 rfl]

theorem normalizedNumber_enUS (h : p.style = .enUS) : ∃ first rest, normalizedNumber p.formatted = first ++ '.' :: rest ∧
    first ≠ [] ∧ first.length ≤ 3 ∧ 10 ^ (first.length + 2) ≤ p.whole ∧ (∀ c ∈ first, c.isDigit = true) ∧ ∀ c ∈ rest, c ∈ p.formatted := by
  obtain ⟨first, rest, hgroup, hne, hlen, hshorter, hmem⟩ := group_split ',' (four_digits (p := p))
  have hwithout : without '.' p.formatted = first ++ ',' :: (rest ++ p.decimals) := by
    unfold without Price.formatted
    rw [h, PriceStyle.groupMark, PriceStyle.decimalMark, List.filter_append, List.filter_eq_self.2, List.filter_cons_of_neg (by decide),
      List.filter_eq_self.2, hgroup, List.append_assoc, List.cons_append]
    · intro c hc
      simpa using (digit_ne (.inr hc)).1
    · intro c hc
      rcases mem_group hc with hc | rfl
      · simpa using (digit_ne (.inl hc)).1
      · decide
  have hwhole : 10 ^ (first.length + 2) ≤ p.whole := by
    by_contra hsmall
    have := (Nat.length_toDigits_le_iff (b := 10) (n := p.whole) (k := first.length + 2) (by decide) (by omega)).2 (by omega)
    omega
  refine ⟨first, rest ++ p.decimals, ?_, hne, hlen, hwhole, fun c hc => digits_isDigit (hmem c hc), fun c hc => ?_⟩
  · rw [normalizedNumber_formatted, hwithout, replaceFirst_append fun hc => (digit_ne (.inl (hmem _ hc))).2 rfl]
  · have hin : c ∈ without '.' p.formatted := by
      rw [hwithout]
      exact List.mem_append_right _ (List.mem_cons_of_mem _ hc)
    exact (List.mem_filter.1 hin).1

theorem ofDigitChars_price : Nat.ofDigitChars 10 (Nat.toDigits 10 p.whole ++ p.decimals) 0 = p.whole * 100 + p.cents := by
  have hcents := p.cents_lt
  rw [Nat.ofDigitChars_append, Nat.ofDigitChars_ten_toDigits, Price.decimals,
    Nat.ofDigitChars_cons_digitChar_of_lt_ten (by omega), Nat.ofDigitChars_cons_digitChar_of_lt_ten (by omega), Nat.ofDigitChars_nil]
  omega

theorem amount_nonneg : (0 : ℚ) ≤ p.amount := by
  unfold Price.amount
  positivity

/-- **A Vietnamese price is read as it is meant**, to double precision. -/
theorem normalizeNumber_viVN (h : p.style = .viVN) :
    normalizeNumber (some (.str p.text)) = if (doubleLimit : ℚ) ≤ p.amount then none else some (Double.nearest p.amount) := by
  have hread : parseDecimal (Nat.toDigits 10 p.whole ++ '.' :: p.decimals) = .num p.amount := by
    rw [parseDecimal_fraction Nat.toDigits_ne_nil (fun c => digits_isDigit) fun c => decimals_isDigit, ofDigitChars_price]
    congr 1
    push_cast [Price.amount, Price.decimals]
    simp
    ring
  have hspace : ∀ c ∈ p.decimals, isJsSpace c = false := fun c hc => isJsSpace_of_isDigit (decimals_isDigit hc)
  rw [normalizeNumber_text, normalizedNumber_viVN h]
  unfold jsNumber readNumber
  rw [literal_point Nat.toDigits_ne_nil (fun c => digits_isDigit) hspace, hread]
  show finite (JsNumber.double p.amount) = _
  unfold JsNumber.double JsNumber.within
  by_cases hlimit : (doubleLimit : ℚ) ≤ p.amount
  · rw [if_pos hlimit, if_pos hlimit]
    rfl
  · have hneg : ¬ p.amount ≤ -(doubleLimit : ℚ) := by
      have hpos : (0 : ℚ) < doubleLimit := Nat.cast_pos.2 doubleLimit_pos
      have := amount_nonneg (p := p)
      linarith
    rw [if_neg hlimit, if_neg hneg, if_neg hlimit]
    rfl

theorem nearest_lt_amount {digits : ℕ} {q : ℚ} (hlen : digits ≤ 3) (hwhole : 10 ^ (digits + 2) ≤ p.whole) (hq : q < 10 ^ digits) :
    Double.nearest q < Double.nearest p.amount := by
  have hsmall : 10 ^ digits ≤ 10 ^ 3 := pow_le_pow_right₀ (by decide) hlen
  have hread : Double.nearest q ≤ (10 ^ digits : ℕ) := Double.nearest_le_natCast (by omega) (by push_cast; exact hq.le)
  have hamount : ((10 ^ (digits + 2) : ℕ) : ℚ) ≤ p.amount := by
    have hcast : ((10 ^ (digits + 2) : ℕ) : ℚ) ≤ p.whole := by exact_mod_cast hwhole
    have hcents : (0 : ℚ) ≤ p.cents / 100 := by positivity
    unfold Price.amount
    linarith
  have hlarge : 10 ^ (digits + 2) ≤ 2 ^ 53 := by rw [pow_add]; omega
  have hgrows : ((10 ^ digits : ℕ) : ℚ) < (10 ^ (digits + 2) : ℕ) := by exact_mod_cast Nat.pow_lt_pow_right (by decide) (by omega)
  exact hread.trans_lt (hgrows.trans_le (Double.natCast_le_nearest hlarge hamount))

/-- **What is read of an American price is less than the price.** -/
theorem normalizeNumber_enUS_lt (h : p.style = .enUS) {q : ℚ} (hq : normalizeNumber (some (.str p.text)) = some q) :
    q < Double.nearest p.amount := by
  obtain ⟨first, rest, hnormal, hne, hlen, hwhole, hdigits, hrest⟩ := normalizedNumber_enUS h
  rw [normalizeNumber_text, hnormal] at hq
  unfold jsNumber readNumber at hq
  rw [literal_point hne hdigits fun c hc => (formatted_plain (hrest c hc)).1] at hq
  have hexponent : 'e' ∉ rest ∧ 'E' ∉ rest :=
    ⟨fun hc => (formatted_plain (hrest _ hc)).2.1 rfl, fun hc => (formatted_plain (hrest _ hc)).2.2 rfl⟩
  cases hparse : parseDecimal (first ++ '.' :: rest) with
  | num r =>
    have hlt := parseDecimal_lt hdigits hexponent hparse
    rw [hparse] at hq
    change finite (JsNumber.double r) = some q at hq
    unfold JsNumber.double JsNumber.within at hq
    split at hq
    · cases hq
    · split at hq
      · cases hq
      · cases hq
        exact nearest_lt_amount hlen hwhole hlt
  | nan =>
    rw [hparse] at hq
    cases hq
  | posInfinity =>
    rw [hparse] at hq
    cases hq
  | negInfinity =>
    rw [hparse] at hq
    cases hq

end Prices

/-- **A price is read right, to the nearest double, exactly if it is written in the Vietnamese style** and does not overflow. -/
theorem normalizeNumber_iff (p : Price) :
    normalizeNumber (some (.str p.text)) = some (Double.nearest p.amount) ↔ p.style = .viVN ∧ p.amount < doubleLimit := by
  cases hstyle : p.style with
  | enUS =>
    refine iff_of_false (fun hread => ?_) fun h => nomatch h.1
    exact absurd (normalizeNumber_enUS_lt hstyle hread) (lt_irrefl _)
  | viVN =>
    rw [normalizeNumber_viVN hstyle]
    by_cases hlimit : (doubleLimit : ℚ) ≤ p.amount
    · rw [if_pos hlimit]
      exact iff_of_false (fun h => nomatch h) fun h => absurd h.2 (not_lt.2 hlimit)
    · rw [if_neg hlimit]
      exact iff_of_true rfl ⟨rfl, not_le.1 hlimit⟩

/-- `$1,234.56`. -/
def dollarPrice : Price where
  style := .enUS
  whole := 1234
  cents := 56
  before := "$"
  after := ""
  whole_ge := by decide
  cents_lt := by decide
  before_plain := by decide
  after_plain := by decide

/-- It is read as 1.23456. -/
theorem dollarPrice_misread : ¬ ∀ p : Price, normalizeNumber (some (.str p.text)) = some (Double.nearest p.amount) := by
  intro hall
  have hread : normalizeNumber (some (.str dollarPrice.text)) = some (Double.nearest (123456 / 100000)) := by decide +kernel
  have hright := hread.symm.trans (hall dollarPrice)
  revert hright
  decide +kernel

end Balii.Market
