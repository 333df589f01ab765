import Balii.Text
/-!
# Json — JSON values, their text, and how JavaScript reads them

`stringify` writes a value as `JSON.stringify` does, `parse` reads a text as `JSON.parse` does, and what was written is read
back (`parse_stringify`).  A number is kept as the text JavaScript prints it as; the fields of an object are in the order
JavaScript lists them in, and of two with one name the last is read.
-/
namespace Balii

/-! ## Values -/

def isNumberChar (c : Char) : Bool := c.isDigit || c == '-' || c == '+' || c == '.' || c == 'e' || c == 'E'

/-- A number of the JSON grammar, its sign aside: digits without a leading zero, a fraction, an exponent. -/
def isUnsignedJsonNumber (cs : List Char) : Bool :=
  cs.head?.any Char.isDigit && (cs.takeWhile Char.isDigit == ['0'] || cs.head? != some '0') && parseDecimal cs != .nan &&
    cs.all isNumberChar

def isJsonNumber : List Char → Bool
  | '-' :: cs => isUnsignedJsonNumber cs
  | cs => isUnsignedJsonNumber cs

structure JsonNumber where
  text : String
  valid : isJsonNumber text.toList = true
  deriving DecidableEq, Repr

def JsonNumber.ofText (s : String) : Option JsonNumber := if h : isJsonNumber s.toList = true then some ⟨s, h⟩ else none

inductive Json
  | null
  | bool (b : Bool)
  | num (n : JsonNumber)
  | str (s : String)
  | arr (items : List Json)
  | obj (fields : List (String × Json))
  deriving Repr

namespace Json

mutual
def decEq : (a b : Json) → Decidable (a = b)
  | null, null => .isTrue rfl
  | bool a, bool b => decidable_of_iff (a = b) ⟨congrArg bool, bool.inj⟩
  | num a, num b => decidable_of_iff (a = b) ⟨congrArg num, num.inj⟩
  | str a, str b => decidable_of_iff (a = b) ⟨congrArg str, str.inj⟩
  | arr a, arr b => @decidable_of_iff _ _ ⟨congrArg arr, arr.inj⟩ (decEqItems a b)
  | obj a, obj b => @decidable_of_iff _ _ ⟨congrArg obj, obj.inj⟩ (decEqFields a b)
  | null, bool _ | null, num _ | null, str _ | null, arr _ | null, obj _ => .isFalse nofun
  | bool _, null | bool _, num _ | bool _, str _ | bool _, arr _ | bool _, obj _ => .isFalse nofun
  | num _, null | num _, bool _ | num _, str _ | num _, arr _ | num _, obj _ => .isFalse nofun
  | str _, null | str _, bool _ | str _, num _ | str _, arr _ | str _, obj _ => .isFalse nofun
  | arr _, null | arr _, bool _ | arr _, num _ | arr _, str _ | arr _, obj _ => .isFalse nofun
  | obj _, null | obj _, bool _ | obj _, num _ | obj _, str _ | obj _, arr _ => .isFalse nofun

def decEqItems : (a b : List Json) → Decidable (a = b)
  | [], [] => .isTrue rfl
  | [], _ :: _ | _ :: _, [] => .isFalse nofun
  | a :: as, b :: bs => @decidable_of_iff _ _ List.cons_eq_cons.symm (@instDecidableAnd _ _ (decEq a b) (decEqItems as bs))

def decEqFields : (a b : List (String × Json)) → Decidable (a = b)
  | [], [] => .isTrue rfl
  | [], _ :: _ | _ :: _, [] => .isFalse nofun
  | (k, a) :: as, (l, b) :: bs =>
    @decidable_of_iff _ _ (by rw [List.cons_eq_cons, Prod.mk.injEq, and_assoc])
      (@instDecidableAnd (k = l) _ inferInstance (@instDecidableAnd _ _ (decEq a b) (decEqFields as bs)))
end

instance : DecidableEq Json := decEq

/-! ## Text -/

/-- One character of a JSON string. -/
def escape (c : Char) : List Char :=
  match c.toNat with
  | 34 => ['\\', '"']
  | 92 => ['\\', '\\']
  | 8 => ['\\', 'b']
  | 9 => ['\\', 't']
  | 10 => ['\\', 'n']
  | 12 => ['\\', 'f']
  | 13 => ['\\', 'r']
  | n => if n < 32 then ['\\', 'u', '0', '0', hexLower (n / 16), hexLower (n % 16)] else [c]

def quote (s : String) : List Char := '"' :: (s.toList.flatMap escape ++ ['"'])

mutual
def chars : Json → List Char
  | null => ['n', 'u', 'l', 'l']
  | bool true => ['t', 'r', 'u', 'e']
  | bool false => ['f', 'a', 'l', 's', 'e']
  | num n => n.text.toList
  | str s => quote s
  | arr [] => ['[', ']']
  | arr (j :: js) => '[' :: (chars j ++ itemChars js)
  | obj [] => ['{', '}']
  | obj ((k, j) :: fs) => '{' :: (quote k ++ ':' :: (chars j ++ fieldChars fs))

/-- The items after the first, and the end of the array. -/
def itemChars : List Json → List Char
  | [] => [']']
  | j :: js => ',' :: (chars j ++ itemChars js)

def fieldChars : List (String × Json) → List Char
  | [] => ['}']
  | (k, j) :: fs => ',' :: (quote k ++ ':' :: (chars j ++ fieldChars fs))
end

/-- `JSON.stringify(j)`. -/
def stringify (j : Json) : String := String.ofList j.chars

/-! ## Reading -/

def isJsonSpace (c : Char) : Bool := c == ' ' || c == '\t' || c == '\n' || c == '\r'

def skipSpace (cs : List Char) : List Char := cs.dropWhile isJsonSpace

/-- The character of a `\u` escape; halves of a surrogate pair are not read, as no Lean string holds one. -/
def unescapeUnit (a b c d : Char) : Option Char :=
  match parseDigits 16 [a, b, c, d] with
  | some n => if n.isValidChar then some (Char.ofNat n) else none
  | none => none

def unescape : Char → Option Char
  | '"' => some '"'
  | '\\' => some '\\'
  | '/' => some '/'
  | 'b' => some (Char.ofNat 8)
  | 't' => some '\t'
  | 'n' => some '\n'
  | 'f' => some (Char.ofNat 12)
  | 'r' => some '\r'
  | _ => none

/-- The rest of a string, after its opening quote. -/
def parseString : List Char → Option (List Char × List Char)
  | '"' :: cs => some ([], cs)
  | '\\' :: 'u' :: a :: b :: c :: d :: cs =>
    match unescapeUnit a b c d, parseString cs with
    | some x, some (s, rest) => some (x :: s, rest)
    | _, _ => none
  | '\\' :: c :: cs =>
    match unescape c, parseString cs with
    | some x, some (s, rest) => some (x :: s, rest)
    | _, _ => none
  | c :: cs =>
    if c == '\\' || c.toNat < 32 then none
    else match parseString cs with
      | some (s, rest) => some (c :: s, rest)
      | none => none
  | [] => none

def parseNumber (cs : List Char) : Option (Json × List Char) :=
  if h : isJsonNumber (String.ofList (cs.takeWhile isNumberChar)).toList = true then
    some (num ⟨String.ofList (cs.takeWhile isNumberChar), h⟩, cs.dropWhile isNumberChar)
  else none

/-- A field's name and the colon after it. -/
def parseName (cs : List Char) : Option (String × List Char) :=
  match skipSpace cs with
  | '"' :: cs =>
    match parseString cs with
    | some (k, cs) =>
      match skipSpace cs with
      | ':' :: cs => some (String.ofList k, cs)
      | _ => none
    | none => none
  | _ => none

mutual
def parseValue : ℕ → List Char → Option (Json × List Char)
  | 0, _ => none
  | fuel + 1, cs =>
    match skipSpace cs with
    | 'n' :: 'u' :: 'l' :: 'l' :: cs => some (null, cs)
    | 't' :: 'r' :: 'u' :: 'e' :: cs => some (bool true, cs)
    | 'f' :: 'a' :: 'l' :: 's' :: 'e' :: cs => some (bool false, cs)
    | '"' :: cs => (parseString cs).map fun r => (str (String.ofList r.1), r.2)
    | '[' :: cs =>
      match skipSpace cs with
      | ']' :: cs => some (arr [], cs)
      | cs =>
        match parseValue fuel cs with
        | some (j, cs) => (parseItems fuel cs).map fun r => (arr (j :: r.1), r.2)
        | none => none
    | '{' :: cs =>
      match skipSpace cs with
      | '}' :: cs => some (obj [], cs)
      | cs => (parseField fuel cs).map fun r => (obj r.1, r.2)
    | cs => parseNumber cs

def parseItems : ℕ → List Char → Option (List Json × List Char)
  | 0, _ => none
  | fuel + 1, cs =>
    match skipSpace cs with
    | ']' :: cs => some ([], cs)
    | ',' :: cs =>
      match parseValue fuel cs with
      | some (j, cs) => (parseItems fuel cs).map fun r => (j :: r.1, r.2)
      | none => none
    | _ => none

/-- A field, and the fields after it. -/
def parseField : ℕ → List Char → Option (List (String × Json) × List Char)
  | 0, _ => none
  | fuel + 1, cs =>
    match parseName cs with
    | some (k, cs) =>
      match parseValue fuel cs with
      | some (j, cs) => (parseFields fuel cs).map fun r => ((k, j) :: r.1, r.2)
      | none => none
    | none => none

def parseFields : ℕ → List Char → Option (List (String × Json) × List Char)
  | 0, _ => none
  | fuel + 1, cs =>
    match skipSpace cs with
    | '}' :: cs => some ([], cs)
    | ',' :: cs => parseField fuel cs
    | _ => none
end

/-- `JSON.parse(text)`; none where it throws. -/
def parse (text : String) : Option Json :=
  match parseValue (text.toList.length + 1) text.toList with
  | some (j, cs) => if skipSpace cs = [] then some j else none
  | none => none

/-! ## What was written is read back -/

/-- The one character that a piece of a string stands for. -/
def unescaped : List Char → Option Char
  | [c] => if c = '"' ∨ c = '\\' ∨ c.toNat < 32 then none else some c
  | [e, c] => if e = '\\' ∧ c ≠ 'u' then unescape c else none
  | [e, u, a, b, c, d] => if e = '\\' ∧ u = 'u' then unescapeUnit a b c d else none
  | _ => none

theorem unescaped_escape_control : ∀ n : Fin 32, unescaped (escape (Char.ofNat n)) = some (Char.ofNat n) := by decide

theorem unescaped_escape (c : Char) : unescaped (escape c) = some c := by
  by_cases h : c.toNat < 32
  · have hc := unescaped_escape_control ⟨c.toNat, h⟩
    rwa [Char.ofNat_toNat] at hc
  · by_cases h34 : c = '"'
    · rw [h34]
      rfl
    · by_cases h92 : c = '\\'
      · rw [h92]
        rfl
      · have hself : escape c = [c] := by
          have h34' : c.toNat ≠ 34 := fun hn => h34 (Char.toNat_inj.1 hn)
          have h92' : c.toNat ≠ 92 := fun hn => h92 (Char.toNat_inj.1 hn)
          unfold escape
          split <;> first | omega | rw [if_neg h]
        rw [hself]
        rw [unescaped, if_neg (not_or.2 ⟨h34, not_or.2 ⟨h92, h⟩⟩)]

theorem parseString_unescaped {e : List Char} {c : Char} (he : unescaped e = some c) (cs : List Char) :
    parseString (e ++ cs) = (parseString cs).map fun r => (c :: r.1, r.2) := by
  unfold unescaped at he
  split at he
  · rename_i c'
    split at he
    · cases he
    · rename_i hc
      cases he
      push Not at hc
      obtain ⟨h34, h92, h32⟩ := hc
      rw [List.cons_append, List.nil_append, parseString]
      · rw [if_neg (by simp [h92, h32])]
        cases parseString cs <;> rfl
      all_goals grind
  · rename_i e c'
    split at he
    · rename_i hu
      obtain ⟨rfl, hu⟩ := hu
      rw [List.cons_append, List.cons_append, List.nil_append, parseString, he]
      · cases parseString cs <;> rfl
      · rintro a b c d cs rfl
        exact fun _ => hu rfl
    · cases he
  · rename_i e u a b c' d
    split at he
    · rename_i hu
      obtain ⟨rfl, rfl⟩ := hu
      rw [List.cons_append, List.cons_append, List.cons_append, List.cons_append, List.cons_append, List.cons_append, List.nil_append,
        parseString, he]
      cases parseString cs <;> rfl
    · cases he
  · cases he

theorem parseString_escaped (s rest : List Char) :
    parseString (s.flatMap escape ++ '"' :: rest) = some (s, rest) := by
  induction s with
  | nil => rfl
  | cons c s ih => rw [List.flatMap_cons, List.append_assoc, parseString_unescaped (unescaped_escape c), ih, Option.map_some]

theorem skipSpace_cons {c : Char} {cs : List Char} (h : isJsonSpace c = false) : skipSpace (c :: cs) = c :: cs := by
  unfold skipSpace
  rw [List.dropWhile_cons, h]
  rfl

theorem quote_append (s : String) (rest : List Char) : quote s ++ rest = '"' :: (s.toList.flatMap escape ++ '"' :: rest) := by
  unfold quote
  rw [List.cons_append, List.append_assoc, List.singleton_append]

theorem parseName_quote (k : String) (rest : List Char) : parseName (quote k ++ ':' :: rest) = some (k, rest) := by
  rw [quote_append]
  unfold parseName
  rw [skipSpace_cons (by decide)]
  simp only [parseString_escaped]
  rw [skipSpace_cons (by decide)]
  simp only [String.ofList_toList]

theorem numberText (n : JsonNumber) : ∃ c cs, n.text.toList = c :: cs ∧ (c.isDigit = true ∨ c = '-') ∧
    ∀ d ∈ n.text.toList, isNumberChar d = true := by
  have hall : ∀ cs, isUnsignedJsonNumber cs = true → (∃ c cs', cs = c :: cs' ∧ c.isDigit = true) ∧ ∀ d ∈ cs, isNumberChar d = true := by
    intro cs h
    unfold isUnsignedJsonNumber at h
    rw [Bool.and_eq_true, Bool.and_eq_true, Bool.and_eq_true] at h
    obtain ⟨⟨⟨h1, _⟩, _⟩, h2⟩ := h
    cases cs with
    | nil => cases h1
    | cons c cs => exact ⟨⟨c, cs, rfl, h1⟩, List.all_eq_true.1 h2⟩
  have hv := n.valid
  generalize n.text.toList = cs at hv ⊢
  unfold isJsonNumber at hv
  split at hv
  · rename_i cs
    obtain ⟨_, h2⟩ := hall cs hv
    refine ⟨'-', cs, rfl, .inr rfl, fun d hd => ?_⟩
    rcases List.mem_cons.1 hd with rfl | hd
    · rfl
    · exact h2 d hd
  · obtain ⟨⟨c, cs', rfl, hc⟩, h2⟩ := hall _ hv
    exact ⟨c, cs', rfl, .inl hc, h2⟩

/-- No number goes on with the character that comes next. -/
def Ends (rest : List Char) : Prop := ∀ c ∈ rest.head?, isNumberChar c = false

theorem takeWhile_number {cs rest : List Char} (hcs : ∀ d ∈ cs, isNumberChar d = true) (hrest : Ends rest) :
    (cs ++ rest).takeWhile isNumberChar = cs ∧ (cs ++ rest).dropWhile isNumberChar = rest := by
  rw [List.takeWhile_append_of_pos hcs, List.dropWhile_append_of_pos hcs]
  cases rest with
  | nil => simp
  | cons c rest =>
    have hc := hrest c rfl
    rw [List.takeWhile_cons, List.dropWhile_cons, hc]
    simp

theorem parseNumber_num (n : JsonNumber) {rest : List Char} (hrest : Ends rest) :
    parseNumber (n.text.toList ++ rest) = some (num n, rest) := by
  obtain ⟨_, _, _, _, hchars⟩ := numberText n
  obtain ⟨h1, h2⟩ := takeWhile_number hchars hrest
  unfold parseNumber
  rw [h1, h2]
  simp only [String.ofList_toList]
  rw [dif_pos n.valid]

theorem ends_of_itemChars (js : List Json) (rest : List Char) : Ends (itemChars js ++ rest) := by
  intro c hc
  cases js with
  | nil => cases hc; rfl
  | cons j js => cases hc; rfl

theorem ends_of_fieldChars (fs : List (String × Json)) (rest : List Char) : Ends (fieldChars fs ++ rest) := by
  intro c hc
  cases fs with
  | nil => cases hc; rfl
  | cons f fs => cases hc; rfl

theorem chars_head (j : Json) : ∃ c cs, j.chars = c :: cs ∧ isJsonSpace c = false ∧ c ≠ ']' ∧ c ≠ '}' := by
  cases j with
  | null => exact ⟨_, _, rfl, by decide⟩
  | bool b => cases b <;> exact ⟨_, _, rfl, by decide⟩
  | num n =>
    obtain ⟨c, cs, hcs, hc, _⟩ := numberText n
    refine ⟨c, cs, hcs, ?_⟩
    rcases hc with hc | rfl
    · refine ⟨?_, ?_, ?_⟩
      · unfold isJsonSpace
        simp only [Bool.or_eq_false_iff, beq_eq_false_iff_ne, ne_eq]
        refine ⟨⟨⟨?_, ?_⟩, ?_⟩, ?_⟩ <;> rintro rfl <;> cases hc
      · rintro rfl
        cases hc
      · rintro rfl
        cases hc
    · decide
  | str s => exact ⟨_, _, rfl, by decide⟩
  | arr items => cases items <;> exact ⟨_, _, rfl, by decide⟩
  | obj fields => cases fields <;> exact ⟨_, _, rfl, by decide⟩

theorem parseValue_num (fuel : ℕ) (n : JsonNumber) {rest : List Char} (hrest : Ends rest) :
    parseValue (fuel + 1) (n.text.toList ++ rest) = some (num n, rest) := by
  obtain ⟨c, cs, hcs, hspace, _⟩ := chars_head (num n)
  obtain ⟨c', cs', hcs', hc, _⟩ := numberText n
  have hnum := parseNumber_num n hrest
  change n.text.toList = c :: cs at hcs
  rw [hcs] at hcs' hnum ⊢
  cases hcs'
  rw [List.cons_append] at hnum ⊢
  unfold parseValue
  rw [skipSpace_cons hspace]
  split
  all_goals first | exact hnum | skip
  all_goals
    rename_i heq
    obtain rfl := (List.cons.inj heq).1
    rcases hc with hc | hc <;> cases hc

mutual
/-- **What was written is read back**, whatever comes after it. -/
theorem parseValue_chars : ∀ (j : Json) (fuel : ℕ) (rest : List Char), Ends rest → j.chars.length < fuel →
    parseValue fuel (j.chars ++ rest) = some (j, rest)
  | _, 0, _, _, h => absurd h (Nat.not_lt_zero _)
  | null, fuel + 1, rest, _, _ => rfl
  | bool true, fuel + 1, rest, _, _ => rfl
  | bool false, fuel + 1, rest, _, _ => rfl
  | num n, fuel + 1, rest, hrest, _ => parseValue_num fuel n hrest
  | str s, fuel + 1, rest, _, _ => by
    rw [chars, quote_append, parseValue, skipSpace_cons (by decide)]
    simp only [parseString_escaped, Option.map_some, String.ofList_toList]
  | arr [], fuel + 1, rest, _, _ => rfl
  | arr (j :: js), fuel + 1, rest, hrest, h => by
    rw [chars, List.length_cons, List.length_append] at h
    rw [chars, List.cons_append, List.append_assoc]
    have hj := parseValue_chars j fuel (itemChars js ++ rest) (ends_of_itemChars js rest) (by omega)
    have hjs := parseItems_chars js fuel rest hrest (by omega)
    obtain ⟨c, cs, hcs, hspace, hc, _⟩ := chars_head j
    rw [hcs, List.cons_append] at hj ⊢
    rw [parseValue, skipSpace_cons (by decide)]
    simp only
    rw [skipSpace_cons hspace]
    split
    · rename_i heq
      cases heq
      exact absurd rfl hc
    · rw [hj]
      simp only
      rw [hjs, Option.map_some]
  | obj [], fuel + 1, rest, _, _ => rfl
  | obj ((k, j) :: fs), fuel + 1, rest, hrest, h => by
    rw [chars, List.length_cons, List.length_append, List.length_cons, List.length_append] at h
    rw [chars, List.cons_append]
    have hf := parseField_chars k j fs fuel rest hrest (by omega)
    rw [List.append_assoc, List.cons_append, List.append_assoc] at hf ⊢
    rw [quote_append] at hf ⊢
    rw [parseValue, skipSpace_cons (by decide)]
    simp only
    rw [skipSpace_cons (by decide)]
    exact congrArg (Option.map fun r => (obj r.1, r.2)) hf

theorem parseItems_chars : ∀ (js : List Json) (fuel : ℕ) (rest : List Char), Ends rest → (itemChars js).length < fuel →
    parseItems fuel (itemChars js ++ rest) = some (js, rest)
  | _, 0, _, _, h => absurd h (Nat.not_lt_zero _)
  | [], fuel + 1, rest, _, _ => rfl
  | j :: js, fuel + 1, rest, hrest, h => by
    rw [itemChars, List.length_cons, List.length_append] at h
    have hj := parseValue_chars j fuel (itemChars js ++ rest) (ends_of_itemChars js rest) (by omega)
    have hjs := parseItems_chars js fuel rest hrest (by omega)
    rw [itemChars, List.cons_append, List.append_assoc, parseItems, skipSpace_cons (by decide)]
    simp only
    rw [hj]
    simp only
    rw [hjs, Option.map_some]

theorem parseField_chars : ∀ (k : String) (j : Json) (fs : List (String × Json)) (fuel : ℕ) (rest : List Char), Ends rest →
    (quote k).length + (j.chars.length + (fieldChars fs).length) < fuel →
    parseField fuel (quote k ++ ':' :: (j.chars ++ fieldChars fs) ++ rest) = some ((k, j) :: fs, rest)
  | _, _, _, 0, _, _, h => absurd h (Nat.not_lt_zero _)
  | k, j, fs, fuel + 1, rest, hrest, h => by
    have hq : 0 < (quote k).length := by simp [quote]
    have hj := parseValue_chars j fuel (fieldChars fs ++ rest) (ends_of_fieldChars fs rest) (by omega)
    have hfs := parseFields_chars fs fuel rest hrest (by omega)
    rw [List.append_assoc, List.cons_append, List.append_assoc, parseField, parseName_quote]
    simp only
    rw [hj]
    simp only
    rw [hfs, Option.map_some]

theorem parseFields_chars : ∀ (fs : List (String × Json)) (fuel : ℕ) (rest : List Char), Ends rest →
    (fieldChars fs).length < fuel → parseFields fuel (fieldChars fs ++ rest) = some (fs, rest)
  | _, 0, _, _, h => absurd h (Nat.not_lt_zero _)
  | [], fuel + 1, rest, _, _ => rfl
  | (k, j) :: fs, fuel + 1, rest, hrest, h => by
    rw [fieldChars, List.length_cons, List.length_append, List.length_cons, List.length_append] at h
    have hf := parseField_chars k j fs fuel rest hrest (by omega)
    rw [fieldChars, List.cons_append, parseFields, skipSpace_cons (by decide)]
    simp only
    rw [hf]
end

/-- **Every value is read back from its text.** -/
@[simp] theorem parse_stringify (j : Json) : parse (stringify j) = some j := by
  have h := parseValue_chars j (j.chars.length + 1) [] (fun c hc => nomatch hc) (Nat.lt_succ_self _)
  rw [List.append_nil] at h
  unfold parse stringify
  rw [String.toList_ofList, h]
  rfl

/-- Two values with one text are one value. -/
theorem stringify_injective {j j' : Json} (h : stringify j = stringify j') : j = j' := by
  have hj := parse_stringify j
  rw [h, parse_stringify] at hj
  exact (Option.some.inj hj).symm

/-! ## What JavaScript makes of a value -/

/-- `value.key`; none is `undefined`. -/
def get (j : Json) (key : String) : Option Json :=
  match j with
  | obj fields => (fields.reverse.find? fun f => f.1 == key).map fun f => f.2
  | _ => none

mutual
/-- `String(value)`. -/
def text : Json → String
  | null => "null"
  | bool b => toString b
  | num n => n.text
  | str s => s
  | arr items => ",".intercalate (itemTexts items)
  | obj _ => "[object Object]"

def itemTexts : List Json → List String
  | [] => []
  | null :: js => "" :: itemTexts js
  | j :: js => text j :: itemTexts js
end

/-- The number a value comes to, when strings are read so. -/
def numberBy (read : String → JsNumber) : Json → JsNumber
  | null => .num 0
  | bool b => .num (if b then 1 else 0)
  | num n => read n.text
  | str s => read s
  | arr items => read (text (arr items))
  | obj _ => .nan

/-- `Number(value)`. -/
def toNumber : Json → JsNumber := numberBy jsNumber

/-- `Number(value)`, its decimals taken to be exact. -/
def toDecimal : Json → JsNumber := numberBy decimalNumber

/-- What `JSON.stringify` makes of a number: `null` of one that is not finite. -/
def ofNumber (x : JsNumber) : Json := ((JsonNumber.ofText x.text).map num).getD null

/-- A string, or `null`. -/
def ofOption (value : Option String) : Json := (value.map str).getD null

/-- `value ?? none`. -/
def present (value : Option Json) : Option Json := value.filter (· != .null)

mutual
/-- Whether `String(value)` and `Number(value)` find a text to begin with: an object with a field `toString` has none. -/
def coercible : Json → Bool
  | obj fields => !fields.any fun f => f.1 == "toString"
  | arr items => coercibleItems items
  | _ => true

def coercibleItems : List Json → Bool
  | [] => true
  | j :: js => coercible j && coercibleItems js
end

def truthy : Json → Bool
  | null => false
  | bool b => b
  | num n => jsNumber n.text != .num 0
  | str s => s != ""
  | arr _ => true
  | obj _ => true

end Json

end Balii
