import Mathlib.Data.List.Basic
/-!
# Form — reading `application/x-www-form-urlencoded`

A text is cut at each `&` and, within a piece, at the first `=`; a `+` is a space, a `%` with two hexadecimal digits the
byte they write, and the bytes are read as UTF-8.
-/
namespace Form

def hexValue (c : Char) : Option ℕ :=
  if '0' ≤ c ∧ c ≤ '9' then some (c.toNat - 48)
  else if 'A' ≤ c ∧ c ≤ 'F' then some (c.toNat - 55)
  else if 'a' ≤ c ∧ c ≤ 'f' then some (c.toNat - 87)
  else none

/-- The bytes of a name or a value. -/
def bytes : List Char → List UInt8
  | '%' :: a :: b :: cs =>
    match hexValue a, hexValue b with
    | some x, some y => UInt8.ofNat (16 * x + y) :: bytes cs
    | _, _ => 37 :: bytes (a :: b :: cs)
  | '+' :: cs => 32 :: bytes cs
  | c :: cs => String.utf8EncodeChar c ++ bytes cs
  | [] => []

/-- A name or a value; none where its bytes are not UTF-8. -/
def component (cs : List Char) : Option String := String.fromUTF8? (bytes cs).toByteArray

def entry (piece : List Char) : Option (String × String) := do
  let name ← component (piece.takeWhile (· != '='))
  let value ← component ((piece.dropWhile (· != '=')).drop 1)
  pure (name, value)

/-- The entries in their order; an empty piece is none. -/
def parse (cs : List Char) : Option (List (String × String)) := ((cs.splitOn '&').filter (· != [])).mapM entry

/-! ## Components -/

theorem fromUTF8?_utf8Encode (cs : List Char) : String.fromUTF8? cs.utf8Encode = some (String.ofList cs) := by
  have hvalid : cs.utf8Encode.IsValidUTF8 := ⟨cs, rfl⟩
  unfold String.fromUTF8?
  rw [dif_pos hvalid]
  rfl

/-- What reads as the bytes of a text is that text. -/
theorem component_eq {cs text : List Char} (h : bytes cs = text.flatMap String.utf8EncodeChar) :
    component cs = some (String.ofList text) := by
  unfold component
  rw [h]
  exact fromUTF8?_utf8Encode text

theorem bytes_cons {c : Char} (h1 : c ≠ '%') (h2 : c ≠ '+') (cs : List Char) :
    bytes (c :: cs) = String.utf8EncodeChar c ++ bytes cs := by
  rw [bytes]
  · rintro _ _ _ rfl
    exact absurd rfl h1
  · rintro rfl
    exact absurd rfl h2

/-- A text without the two signs stands for itself. -/
theorem bytes_plain : ∀ {cs : List Char}, (∀ c ∈ cs, c ≠ '%' ∧ c ≠ '+') → bytes cs = cs.flatMap String.utf8EncodeChar
  | [], _ => rfl
  | c :: cs, h => by
    obtain ⟨h1, h2⟩ := h c (by simp)
    rw [bytes_cons h1 h2, bytes_plain fun d hd => h d (by simp [hd]), List.flatMap_cons]

theorem component_plain {cs : List Char} (h : ∀ c ∈ cs, c ≠ '%' ∧ c ≠ '+') : component cs = some (String.ofList cs) :=
  component_eq (bytes_plain h)

/-! ## Entries -/

/-- A piece with no `=` in its name reads as the two parts around the first one. -/
theorem entry_eq {name value : List Char} {n v : String} (hfree : ∀ c ∈ name, c ≠ '=') (hn : component name = some n)
    (hv : component value = some v) : entry (name ++ '=' :: value) = some (n, v) := by
  have hall : ∀ c ∈ name, (c != '=') = true := fun c hc => bne_iff_ne.2 (hfree c hc)
  unfold entry
  rw [List.takeWhile_append_of_pos hall, List.dropWhile_append_of_pos hall, List.takeWhile_cons, List.dropWhile_cons]
  simp [hn, hv]

/-- **Pieces joined by `&` are read one by one.** -/
theorem parse_intercalate {α : Type} (piece : α → List Char) (value : α → String × String) {l : List α}
    (hfree : ∀ a ∈ l, '&' ∉ piece a) (hsome : ∀ a ∈ l, piece a ≠ []) (hread : ∀ a ∈ l, entry (piece a) = some (value a)) :
    parse (List.intercalate ['&'] (l.map piece)) = some (l.map value) := by
  have hmap : (l.map piece).mapM entry = some (l.map value) := by
    clear hfree hsome
    induction l with
    | nil => rfl
    | cons a l ih =>
      rw [List.map_cons, List.mapM_cons, hread a (by simp), ih fun b hb => hread b (by simp [hb])]
      rfl
  cases l with
  | nil => rfl
  | cons a l =>
    unfold parse
    rw [List.splitOn_intercalate '&' (by simpa using hfree) (by simp), List.filter_eq_self.2 (by simpa using hsome)]
    exact hmap

end Form
