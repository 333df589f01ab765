import Mathlib.Data.List.Basic
/-!
# Route — how a path is written, and what a router reads in it

A URL parser resolves the dot segments of a path and escapes what may not stand in one.  A router compares its segments with
those of a route, whatever the case of the letters, and allows one slash at the end.
-/
namespace Http

abbrev Text := List Char

inductive Method
  | get
  | head
  | post
  | put
  | patch
  | delete
  | options
  | other (token : String)
  deriving DecidableEq

/-- The segments between the slashes; a path begins with an empty one. -/
def segments (path : Text) : List Text := path.splitOn '/'

def lower (s : Text) : Text := s.map Char.toLower

/-! ## The path of a URL -/

/-- The path percent-encode set. -/
def isEscaped (c : Char) : Bool :=
  c.toNat ≤ 0x20 || 0x7F ≤ c.toNat || [0x22, 0x23, 0x3C, 0x3E, 0x3F, 0x5E, 0x60, 0x7B, 0x7D].contains c.toNat

def hexUpper (n : ℕ) : Char := if n < 10 then Char.ofNat (48 + n) else Char.ofNat (55 + n)

def escapeChar (c : Char) : Text :=
  if isEscaped c then (String.utf8EncodeChar c).flatMap fun b => ['%', hexUpper (b.toNat / 16), hexUpper (b.toNat % 16)] else [c]

def escape (s : Text) : Text := s.flatMap escapeChar

def isSingleDot (s : Text) : Bool := [['.'], ['%', '2', 'e']].contains (lower s)

def isDoubleDot (s : Text) : Bool :=
  [['.', '.'], ['.', '%', '2', 'e'], ['%', '2', 'e', '.'], ['%', '2', 'e', '%', '2', 'e']].contains (lower s)

/-- The path state: `done` is the path so far, its last segment first. -/
def resolve : List Text → List Text → List Text
  | done, [] => done.reverse
  | done, s :: rest =>
    if isDoubleDot s then
      if rest.isEmpty then ([] :: done.tail).reverse else resolve done.tail rest
    else if isSingleDot s then
      if rest.isEmpty then ([] :: done).reverse else resolve done rest
    else resolve (s :: done) rest

/-- The segments of `new URL(origin + path).pathname`; a backslash is as good as a slash. -/
def urlSegments (path : Text) : List Text :=
  [] :: resolve [] (((path.splitOnP fun c => c == '/' || c == '\\').drop 1).map escape)

/-! ## The router -/

def isParam (t : Text) : Bool := t.head? == some ':'

/-- A parameter takes any segment that is not empty, a text itself in any case. -/
def fitsSegment (t s : Text) : Bool := if isParam t then !s.isEmpty else lower s == lower t

/-- The segments fit those of the route, with a slash at the end or without. -/
def fits : List Text → List Text → Bool
  | [], [] => true
  | [], [s] => s.isEmpty
  | t :: ts, s :: ss => fitsSegment t s && fits ts ss
  | _, _ => false

/-- `HEAD` is served by the handlers of `GET`. -/
def Method.serves (own m : Method) : Bool := m == own || (m == .head && own == .get)

structure Handler where
  method : Method
  path : Text
  deriving DecidableEq

/-- The first handler for the request. -/
def dispatch (handlers : List Handler) (m : Method) (segs : List Text) : Option Handler :=
  handlers.find? fun h => h.method.serves m && fits (segments h.path) segs

/-- The path is the route, each parameter something and every text letter by letter. -/
def spells : List Text → List Text → Bool
  | [], [] => true
  | t :: ts, s :: ss => (if isParam t then !s.isEmpty else s == t) && spells ts ss
  | _, _ => false

/-! ## The case of letters -/

section Lower
variable {a c : Char} {p s : Text}

theorem toNat_toLower (c : Char) : c.toLower.toNat = if 65 ≤ c.toNat ∧ c.toNat ≤ 90 then c.toNat + 32 else c.toNat := by
  unfold Char.toLower
  by_cases h : c.val ≥ 'A'.val ∧ c.val ≤ 'Z'.val
  · have h1 : 65 ≤ c.val.toNat := h.1
    have h2 : c.val.toNat ≤ 90 := h.2
    have h3 : ('a'.val - 'A'.val).toNat = 32 := by decide
    rw [dif_pos h, if_pos ⟨h1, h2⟩]
    change (c.val + ('a'.val - 'A'.val)).toNat = c.val.toNat + 32
    rw [UInt32.toNat_add]
    omega
  · rw [dif_neg h, if_neg]
    exact h

/-- What is no small letter is only itself in lower case. -/
theorem toLower_eq (ha : a.toNat < 97 ∨ 122 < a.toNat) (h : c.toLower = a) : c = a := by
  have hc := toNat_toLower c
  rw [h] at hc
  split at hc
  · omega
  · exact Char.toNat_inj.1 hc.symm

theorem toLower_slash : c.toLower = '/' ↔ c = '/' := by
  constructor
  · exact toLower_eq (by decide)
  · rintro rfl
    rfl

theorem toLower_toLower (c : Char) : c.toLower.toLower = c.toLower := by
  refine Char.toNat_inj.1 ?_
  rw [toNat_toLower c.toLower, toNat_toLower c]
  by_cases h : 65 ≤ c.toNat ∧ c.toNat ≤ 90
  · rw [if_pos h, if_neg]
    omega
  · rw [if_neg h, if_neg h]

theorem lower_lower (s : Text) : lower (lower s) = lower s := by
  unfold lower
  rw [List.map_map]
  exact List.map_congr_left fun c _ => toLower_toLower c

end Lower

/-! ## Segments -/

section Segments
variable {p s : Text} {c : Char}

theorem segments_cons (c : Char) (p : Text) :
    segments (c :: p) = if c = '/' then [] :: segments p else (segments p).modifyHead (List.cons c) := by
  unfold segments
  rw [List.splitOn_cons_eq_if_modifyHead]
  simp only [beq_iff_eq]

/-- A segment is made of what is between the slashes. -/
theorem mem_of_mem_segments (hs : s ∈ segments p) (hc : c ∈ s) : c ∈ p ∧ c ≠ '/' := by
  induction p generalizing s with
  | nil =>
    obtain rfl := List.mem_singleton.1 (show s ∈ [[]] from hs)
    cases hc
  | cons a p ih =>
    rw [segments_cons] at hs
    split at hs
    · rcases List.mem_cons.1 hs with rfl | hs
      · cases hc
      · exact ⟨List.mem_cons_of_mem _ (ih hs hc).1, (ih hs hc).2⟩
    · rename_i ha
      cases hp : segments p with
      | nil =>
        rw [hp] at hs
        cases hs
      | cons t ts =>
        rw [hp] at hs ih
        rcases List.mem_cons.1 hs with rfl | hs
        · rcases List.mem_cons.1 hc with rfl | hc
          · exact ⟨List.mem_cons_self, ha⟩
          · have ht := ih List.mem_cons_self hc
            exact ⟨List.mem_cons_of_mem _ ht.1, ht.2⟩
        · have ht := ih (List.mem_cons_of_mem _ hs) hc
          exact ⟨List.mem_cons_of_mem _ ht.1, ht.2⟩

/-- The slashes stay where they are. -/
theorem segments_lower (p : Text) : segments (lower p) = (segments p).map lower := by
  induction p with
  | nil => rfl
  | cons c p ih =>
    have hcons : lower (c :: p) = c.toLower :: lower p := rfl
    rw [hcons, segments_cons, segments_cons, ih]
    by_cases h : c = '/'
    · rw [if_pos h, if_pos (toLower_slash.2 h)]
      rfl
    · rw [if_neg h, if_neg (mt toLower_slash.1 h)]
      cases segments p <;> rfl

theorem fits_lower : ∀ ts ss : List Text, fits ts (ss.map lower) = fits ts ss
  | [], [] => rfl
  | [], [s] => by cases s <;> rfl
  | [], _ :: _ :: _ => rfl
  | _ :: _, [] => rfl
  | t :: ts, s :: ss => by
    have hsegment : fitsSegment t (lower s) = fitsSegment t s := by
      unfold fitsSegment
      rw [lower_lower]
      cases s <;> rfl
    rw [List.map_cons, fits, fits, hsegment, fits_lower ts ss]

/-- A route of texts only is spelt by itself. -/
theorem spells_texts : ∀ {ts ss : List Text}, (∀ t ∈ ts, isParam t = false) → (spells ts ss = true ↔ ss = ts)
  | [], [], _ => ⟨fun _ => rfl, fun _ => rfl⟩
  | [], _ :: _, _ => ⟨fun h => (nomatch h), fun h => (nomatch h)⟩
  | _ :: _, [], _ => ⟨fun h => (nomatch h), fun h => (nomatch h)⟩
  | t :: ts, s :: ss, h => by
    have ih := @spells_texts ts ss fun t' ht' => h t' (List.mem_cons_of_mem _ ht')
    rw [spells, h t List.mem_cons_self, Bool.and_eq_true, ih, List.cons.injEq]
    simp

theorem segments_injective {p q : Text} : segments p = segments q ↔ p = q := by
  constructor
  · intro h
    have hjoin := congrArg (List.intercalate ['/']) h
    unfold segments at hjoin
    rwa [List.intercalate_splitOn, List.intercalate_splitOn] at hjoin
  · rintro rfl
    rfl

/-! ### Paths a URL parser leaves alone -/

/-- Letters, hyphens and slashes. -/
def isPlain (c : Char) : Bool := c.isAlpha || c == '-' || c == '/'

theorem isPlain_iff : isPlain c = true ↔
    (65 ≤ c.toNat ∧ c.toNat ≤ 90) ∨ (97 ≤ c.toNat ∧ c.toNat ≤ 122) ∨ c.toNat = 45 ∨ c.toNat = 47 := by
  have hhyphen : c = '-' ↔ c.toNat = 45 := Char.toNat_inj.symm
  have hslash : c = '/' ↔ c.toNat = 47 := Char.toNat_inj.symm
  have halpha : c.isAlpha = true ↔ (65 ≤ c.toNat ∧ c.toNat ≤ 90) ∨ (97 ≤ c.toNat ∧ c.toNat ≤ 122) := by
    unfold Char.isAlpha Char.isUpper Char.isLower
    rw [Bool.or_eq_true, decide_eq_true_iff, Bool.and_eq_true, decide_eq_true_iff, decide_eq_true_iff]
    exact Iff.rfl
  unfold isPlain
  rw [Bool.or_eq_true, Bool.or_eq_true, beq_iff_eq, beq_iff_eq, halpha, hhyphen, hslash]
  omega

theorem isPlain_toLower (c : Char) : isPlain c.toLower = isPlain c := by
  rw [Bool.eq_iff_iff, isPlain_iff, isPlain_iff, toNat_toLower]
  split <;> omega

theorem isEscaped_of_isPlain (h : isPlain c = true) : isEscaped c = false := by
  have hc := isPlain_iff.1 h
  unfold isEscaped
  simp only [Bool.or_eq_false_iff, decide_eq_false_iff_not, List.contains_eq_mem, List.mem_cons, List.not_mem_nil, or_false]
  omega

theorem escape_of_isPlain (h : ∀ c ∈ s, isPlain c = true) : escape s = s := by
  have hchar : ∀ c ∈ s, escapeChar c = [c] := by
    intro c hc
    unfold escapeChar
    rw [isEscaped_of_isPlain (h c hc)]
    rfl
  unfold escape
  rw [List.flatMap_congr hchar, List.flatMap_singleton']

theorem notDots_of_isPlain (h : ∀ c ∈ s, isPlain c = true) : isDoubleDot s = false ∧ isSingleDot s = false := by
  have hnone : ∀ c ∈ lower s, c ≠ '.' ∧ c ≠ '%' := by
    intro c hc
    obtain ⟨a, ha, rfl⟩ := List.mem_map.1 hc
    have hplain := (isPlain_toLower a).trans (h a ha)
    constructor
    · intro heq
      rw [heq] at hplain
      cases hplain
    · intro heq
      rw [heq] at hplain
      cases hplain
  unfold isDoubleDot isSingleDot
  simp only [List.contains_eq_mem, decide_eq_false_iff_not, List.mem_cons, List.not_mem_nil, or_false, not_or]
  refine ⟨⟨?_, ?_, ?_, ?_⟩, ?_, ?_⟩ <;> intro heq <;> rw [heq] at hnone <;> simp at hnone

theorem resolve_of_isPlain : ∀ (done ss : List Text), (∀ s ∈ ss, ∀ c ∈ s, isPlain c = true) → resolve done ss = done.reverse ++ ss
  | done, [], _ => (List.append_nil _).symm
  | done, s :: rest, h => by
    obtain ⟨hdouble, hsingle⟩ := notDots_of_isPlain (h s List.mem_cons_self)
    have hrest := resolve_of_isPlain (s :: done) rest fun s' hs' => h s' (List.mem_cons_of_mem _ hs')
    rw [resolve, hdouble, hsingle]
    simp only [Bool.false_eq_true, if_false]
    rw [hrest, List.reverse_cons, List.append_assoc]
    rfl

/-- **A plain path is its own URL path.** -/
theorem urlSegments_of_isPlain (h : ∀ c ∈ p, isPlain c = true) : urlSegments ('/' :: p) = segments ('/' :: p) := by
  have hsplit : ∀ q : Text, (∀ c ∈ q, isPlain c = true) → (q.splitOnP fun c => c == '/' || c == '\\') = segments q := by
    intro q hq
    induction q with
    | nil => rfl
    | cons c q ih =>
      have hc : c ≠ '\\' := by
        rintro rfl
        exact absurd (hq _ List.mem_cons_self) (by decide)
      rw [List.splitOnP_cons_eq_if_modifyHead, ih fun c hc => hq c (List.mem_cons_of_mem _ hc), segments_cons]
      simp [hc]
  have hmem : ∀ s ∈ segments p, ∀ c ∈ s, isPlain c = true := fun s hs c hc => h c (mem_of_mem_segments hs hc).1
  have hescape : (segments p).map escape = segments p := by
    rw [List.map_congr_left fun s hs => escape_of_isPlain (hmem s hs)]
    exact List.map_id _
  have hslash : ∀ c ∈ '/' :: p, isPlain c = true := by
    intro c hc
    rcases List.mem_cons.1 hc with rfl | hc
    · rfl
    · exact h c hc
  unfold urlSegments
  rw [hsplit _ hslash, segments_cons, if_pos rfl, List.drop_one, List.tail_cons, hescape, resolve_of_isPlain [] _ hmem]
  rfl

end Segments

end Http
