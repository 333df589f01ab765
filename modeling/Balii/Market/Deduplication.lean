import Balii.Config
import Balii.Lib.Fusion
import Mathlib.Order.WithBot
import Mathlib.Algebra.Order.Ring.Unbundled.Rat
import Mathlib.Algebra.Order.PUnit
/-!
# Market.Deduplication — the results of several searches, each product once

Results with one normalized link and one normalized title are one: the first of the highest confidence stays, with its link
normalized.  The normalization of a link takes one slash off its end, so it can find something to do a second time.
-/
namespace Balii.Market

open Fusion

inductive Engine
  | googleLens
  | googleShopping
  | googleImages
  deriving DecidableEq

structure ProductSearchResult where
  title : String
  source : Option String
  link : Option String
  imageUrl : Option String
  price : Option String
  extractedPrice : Option JsNumber
  currency : Option String
  rating : Option JsNumber
  reviews : Option JsNumber
  snippet : Option String
  engine : Engine
  confidenceScore : JsNumber
  isSaved : Option Bool
  rawData : Option Json
  deriving DecidableEq

/-- What the runtime brings along. -/
structure Runtime where
  /-- `value.toLowerCase().normalize('NFD')`. -/
  decomposed : String → String
  /-- `new URL(value)` without its hash and with its parameters sorted, as text; nothing where the constructor throws. -/
  canonical : String → Option String
  /-- A serialized URL is parsed to the URL it was. -/
  canonical_canonical : ∀ value text, canonical value = some text → canonical text = some text

/-! ## Normalization -/

def isTitleChar (c : Char) : Bool := ('a' ≤ c && c ≤ 'z') || ('0' ≤ c && c ≤ '9')

/-- `.replace(/[^a-z0-9]+/g, ' ')`; the flag says whether the last character was replaced. -/
def spaceOthers : Bool → List Char → List Char
  | _, [] => []
  | spaced, c :: cs =>
    if isTitleChar c then c :: spaceOthers false cs
    else if spaced then spaceOthers true cs
    else ' ' :: spaceOthers true cs

def isCombining (c : Char) : Bool := 0x300 ≤ c.toNat && c.toNat ≤ 0x36F

def normalizeTitle (rt : Runtime) (value : String) : String :=
  trim (String.ofList (spaceOthers false ((rt.decomposed value).toList.filter fun c => !isCombining c)))

def endsInSlash (s : String) : Bool := s.toList.getLast? == some '/'

/-- `.replace(/\/$/, '')`. -/
def dropSlash (s : String) : String := if endsInSlash s then String.ofList s.toList.dropLast else s

def normalizeProductLink (rt : Runtime) (value : Option String) : Option String :=
  match nonEmpty value with
  | none => none
  | some value =>
    match rt.canonical value with
    | some url => some (dropSlash url)
    | none => some (dropSlash (trim value))

/-! ## Deduplication -/

def compositeKey (rt : Runtime) (result : ProductSearchResult) : String :=
  (normalizeProductLink rt result.link).getD "" ++ "|" ++ normalizeTitle rt result.title

/-- The result with its normalized link. -/
def settled (rt : Runtime) (result : ProductSearchResult) : ProductSearchResult :=
  { result with link := (normalizeProductLink rt result.link).or result.link }

/-- A result comes in for another of its key with a higher confidence only. -/
def better (existing result : ProductSearchResult) : ProductSearchResult :=
  if existing.confidenceScore.less result.confidenceScore then result else existing

def byCompositeKey (rt : Runtime) (results : List ProductSearchResult) : List (Fusion.Entry String ProductSearchResult Unit) :=
  addAll better [] (results.map fun result => ⟨compositeKey rt result, settled rt result, ()⟩)

def deduplicateResults (rt : Runtime) (results : List ProductSearchResult) : List ProductSearchResult :=
  (byCompositeKey rt results).map (·.value)

/-! ## What stays of the results -/

/-- `x >= y`. -/
def AtLeast (x y : JsNumber) : Prop := x ≠ .nan ∧ y ≠ .nan ∧ x.less y = false

/-- The result is the first of the highest confidence with its key. -/
def Best (rt : Runtime) (results : List ProductSearchResult) (r : ProductSearchResult) : Prop :=
  ∃ pre post, results = pre ++ r :: post ∧
    (∀ x ∈ pre, compositeKey rt x = compositeKey rt r → x.confidenceScore.less r.confidenceScore = true) ∧
    ∀ x ∈ post, compositeKey rt x = compositeKey rt r → AtLeast r.confidenceScore x.confidenceScore

/-- **What deduplication is for.** -/
structure Deduplicates (rt : Runtime) (results out : List ProductSearchResult) : Prop where
  unique : out.Pairwise fun a b => ¬ (normalizeProductLink rt a.link = normalizeProductLink rt b.link ∧
    normalizeTitle rt a.title = normalizeTitle rt b.title)
  represented : ∀ r ∈ results, ∃ x ∈ out, compositeKey rt x = compositeKey rt r ∧ AtLeast x.confidenceScore r.confidenceScore
  stems : ∀ x ∈ out, ∃ r ∈ results, x = settled rt r ∧
    ∀ y ∈ results, compositeKey rt y = compositeKey rt r → AtLeast r.confidenceScore y.confidenceScore
  idempotent : deduplicateResults rt out = out

/-- A second normalization finds nothing to do: nothing is left of the text, or it is a URL as it stands or with the slash that
was taken off, or it is no URL and has no white space around it; and it does not end in another slash. -/
def Normal (rt : Runtime) (text : String) : Prop :=
  text = "" ∨
    match rt.canonical text with
    | some url => url = text ∧ endsInSlash text = false ∨ url = text ++ "/"
    | none => trim text = text ∧ endsInSlash text = false

/-- The link is empty, or a URL that does not end in a slash, or what is left of it is normal. -/
def LinkSettles (rt : Runtime) (link : Option String) : Prop :=
  match nonEmpty link with
  | none => True
  | some value =>
    match rt.canonical value with
    | some url => endsInSlash url = false ∨ Normal rt (dropSlash url)
    | none => Normal rt (dropSlash (trim value))

/-! ## Links -/

theorem dropSlash_of_not {s : String} (h : endsInSlash s = false) : dropSlash s = s := by
  unfold dropSlash
  rw [h]
  rfl

theorem endsInSlash_append (s : String) : endsInSlash (s ++ "/") = true := by
  unfold endsInSlash
  rw [String.toList_append, show "/".toList = ['/'] from rfl, List.getLast?_append]
  rfl

theorem dropSlash_append (s : String) : dropSlash (s ++ "/") = s := by
  unfold dropSlash
  rw [endsInSlash_append, if_pos rfl, String.toList_append, show "/".toList = ['/'] from rfl, List.dropLast_concat,
    String.ofList_toList]

theorem eq_append_of_endsInSlash {s : String} (h : endsInSlash s = true) : s = dropSlash s ++ "/" := by
  have hlast : s.toList.getLast? = some '/' := by simpa [endsInSlash] using h
  unfold dropSlash
  rw [h, if_pos rfl, ← String.toList_inj, String.toList_append, String.toList_ofList, show "/".toList = ['/'] from rfl]
  exact (List.dropLast_append_getLast? _ hlast).symm

theorem dropSlash_eq_iff {url text : String} : dropSlash url = text ↔ url = text ∧ endsInSlash text = false ∨ url = text ++ "/" := by
  cases h : endsInSlash url with
  | false =>
    rw [dropSlash_of_not h]
    constructor
    · rintro rfl
      exact .inl ⟨rfl, h⟩
    · rintro (⟨rfl, -⟩ | rfl)
      · rfl
      · rw [endsInSlash_append] at h
        cases h
  | true =>
    constructor
    · rintro rfl
      exact .inr (eq_append_of_endsInSlash h)
    · rintro (⟨rfl, hnot⟩ | rfl)
      · rw [h] at hnot
        cases hnot
      · exact dropSlash_append text

theorem length_trim_le (s : String) : (trim s).toList.length ≤ s.toList.length := by
  unfold trim
  rw [String.toList_ofList, List.length_reverse]
  refine (List.dropWhile_sublist _).length_le.trans ?_
  rw [List.length_reverse]
  exact (List.dropWhile_sublist _).length_le

theorem dropSlash_trim_iff {text : String} : dropSlash (trim text) = text ↔ trim text = text ∧ endsInSlash text = false := by
  rw [dropSlash_eq_iff]
  refine ⟨fun h => h.resolve_right fun hlonger => ?_, .inl⟩
  -- what is trimmed is not longer
  have := length_trim_le text
  rw [hlonger, String.toList_append, List.length_append, show "/".toList = ['/'] from rfl, List.length_singleton] at this
  omega

section Links
variable {rt : Runtime}

theorem nonEmpty_of_ne {text : String} (h : text ≠ "") : nonEmpty (some text) = some text := by
  unfold nonEmpty
  rw [Option.filter_some, if_pos (by simpa using h)]

theorem nonEmpty_empty : nonEmpty (some "") = none := rfl

/-- The link of a result that stays. -/
def settledLink (rt : Runtime) (link : Option String) : Option String := (normalizeProductLink rt link).or link

theorem normal_iff {text : String} : Normal rt text ↔ settledLink rt (some text) = some text := by
  unfold Normal settledLink normalizeProductLink
  by_cases hempty : text = ""
  · subst hempty
    rw [nonEmpty_empty]
    simp
  · rw [nonEmpty_of_ne hempty]
    cases hurl : rt.canonical text with
    | some url => simp [hempty, hurl, dropSlash_eq_iff]
    | none => simp [hempty, hurl, dropSlash_trim_iff]

/-- **A link settles if normalizing it again changes nothing.** -/
theorem linkSettles_iff {link : Option String} : LinkSettles rt link ↔ settledLink rt (settledLink rt link) = settledLink rt link := by
  unfold LinkSettles
  cases hlink : nonEmpty link with
  | none =>
    have hsame : settledLink rt link = link := by
      unfold settledLink normalizeProductLink
      rw [hlink]
      rfl
    simp [hsame]
  | some value =>
    have hsettled : settledLink rt link = some (dropSlash ((rt.canonical value).getD (trim value))) := by
      unfold settledLink normalizeProductLink
      rw [hlink]
      cases hurl : rt.canonical value <;> simp [hurl]
    rw [hsettled, ← normal_iff]
    cases hurl : rt.canonical value with
    | none => simp [hurl]
    | some url =>
      simp only [hurl, Option.getD_some]
      refine ⟨fun h => h.elim (fun hends => ?_) id, .inr⟩
      -- a URL that keeps its end is parsed to itself
      rw [dropSlash_of_not hends]
      unfold Normal
      rw [rt.canonical_canonical value url hurl]
      exact .inr (.inl ⟨rfl, hends⟩)

end Links

/-! ## Confidence -/

/-- Where a number stands among the numbers. -/
def rank : JsNumber → WithBot (WithTop ℚ)
  | .nan => ⊥
  | .negInfinity => ⊥
  | .num q => ((q : WithTop ℚ) : WithBot (WithTop ℚ))
  | .posInfinity => ((⊤ : WithTop ℚ) : WithBot (WithTop ℚ))

theorem less_iff {x y : JsNumber} : x.less y = true ↔ x ≠ .nan ∧ y ≠ .nan ∧ rank x < rank y := by
  cases x <;> cases y <;> simp [JsNumber.less, rank]
  exact WithBot.coe_lt_coe.2 (WithTop.coe_lt_top _)

theorem atLeast_iff {x y : JsNumber} : AtLeast x y ↔ x ≠ .nan ∧ y ≠ .nan ∧ rank y ≤ rank x := by
  unfold AtLeast
  refine and_congr_right fun hx => and_congr_right fun hy => ?_
  rw [← not_lt, ← Bool.not_eq_true, less_iff]
  exact not_congr ⟨fun h => h.2.2, fun h => ⟨hx, hy, h⟩⟩

theorem atLeast_of_less {x y : JsNumber} (h : x.less y = true) : AtLeast y x := by
  obtain ⟨hx, hy, hlt⟩ := less_iff.1 h
  exact atLeast_iff.2 ⟨hy, hx, hlt.le⟩

theorem less_of_atLeast {x y z : JsNumber} (hxy : AtLeast y x) (hyz : y.less z = true) : x.less z = true := by
  obtain ⟨-, hx, hle⟩ := atLeast_iff.1 hxy
  obtain ⟨-, hz, hlt⟩ := less_iff.1 hyz
  exact less_iff.2 ⟨hx, hz, hle.trans_lt hlt⟩

/-! ## The best of a class -/

/-- The first of the highest confidence in a list. -/
def BestOf (group : List ProductSearchResult) (r : ProductSearchResult) : Prop :=
  ∃ pre post, group = pre ++ r :: post ∧ (∀ x ∈ pre, x.confidenceScore.less r.confidenceScore = true) ∧
    ∀ x ∈ post, AtLeast r.confidenceScore x.confidenceScore

theorem foldl_better_of_atLeast {r : ProductSearchResult} : ∀ {post : List ProductSearchResult},
    (∀ x ∈ post, AtLeast r.confidenceScore x.confidenceScore) → post.foldl better r = r
  | [], _ => rfl
  | x :: post, h => by
    have hx := h x List.mem_cons_self
    rw [List.foldl_cons, better, hx.2.2]
    exact foldl_better_of_atLeast fun y hy => h y (List.mem_cons_of_mem _ hy)

theorem bestOf_foldl {v : ProductSearchResult} {vs : List ProductSearchResult} (hnan : ∀ x ∈ v :: vs, x.confidenceScore ≠ .nan) :
    BestOf (v :: vs) (vs.foldl better v) := by
  induction vs using List.reverseRecOn with
  | nil => exact ⟨[], [], rfl, fun x hx => (nomatch hx), fun x hx => (nomatch hx)⟩
  | append_singleton vs w ih =>
    have hin : ∀ x ∈ v :: vs, x ∈ v :: (vs ++ [w]) := fun x hx =>
      (List.mem_cons.1 hx).elim (fun h => h ▸ List.mem_cons_self) fun h => List.mem_cons_of_mem _ (List.mem_append_left _ h)
    obtain ⟨pre, post, heq, hpre, hpost⟩ := ih fun x hx => hnan x (hin x hx)
    rw [List.foldl_append, List.foldl_cons, List.foldl_nil]
    generalize vs.foldl better v = r at heq hpre hpost
    have hw : w.confidenceScore ≠ .nan := hnan w (List.mem_cons_of_mem _ (List.mem_append_right _ List.mem_cons_self))
    have hr : r.confidenceScore ≠ .nan := hnan r (hin r (heq ▸ List.mem_append_right _ List.mem_cons_self))
    unfold better
    by_cases hless : r.confidenceScore.less w.confidenceScore = true
    · rw [if_pos hless]
      refine ⟨v :: vs, [], rfl, fun x hx => ?_, fun x hx => (nomatch hx)⟩
      rw [heq] at hx
      obtain hx | hx := List.mem_append.1 hx
      · exact less_of_atLeast (atLeast_of_less (hpre x hx)) hless
      · obtain rfl | hx := List.mem_cons.1 hx
        · exact hless
        · exact less_of_atLeast (hpost x hx) hless
    · rw [if_neg hless]
      refine ⟨pre, post ++ [w], by rw [← List.cons_append, heq, List.append_assoc, List.cons_append], hpre, fun x hx => ?_⟩
      obtain hx | hx := List.mem_append.1 hx
      · exact hpost x hx
      · rw [List.mem_singleton.1 hx]
        exact ⟨hr, hw, by simpa using hless⟩

theorem merged_of_bestOf {group : List ProductSearchResult} {r : ProductSearchResult} (h : BestOf group r) :
    merged better group = some r := by
  obtain ⟨pre, post, rfl, hpre, hpost⟩ := h
  cases pre with
  | nil => exact congrArg some (foldl_better_of_atLeast hpost)
  | cons v pre =>
    have hnan : ∀ x ∈ v :: pre, x.confidenceScore ≠ .nan := fun x hx => (less_iff.1 (hpre x hx)).1
    have hfold : (pre.foldl better v).confidenceScore.less r.confidenceScore = true := by
      obtain ⟨X, Y, heq, -, -⟩ := bestOf_foldl hnan
      exact hpre _ (heq ▸ List.mem_append_right _ List.mem_cons_self)
    rw [List.cons_append, merged, List.foldl_append, List.foldl_cons, better, if_pos hfold, foldl_better_of_atLeast hpost]

/-! ## What deduplication leaves -/

section Results
variable {rt : Runtime} {results : List ProductSearchResult}

theorem better_settled (a b : ProductSearchResult) : better (settled rt a) (settled rt b) = settled rt (better a b) := by
  unfold better
  exact (apply_ite (settled rt) _ _ _).symm

theorem merged_settled : ∀ group : List ProductSearchResult,
    merged better (group.map (settled rt)) = (merged better group).map (settled rt)
  | [] => rfl
  | v :: vs => by
    have hfold : ∀ (vs : List ProductSearchResult) (v : ProductSearchResult),
        (vs.map (settled rt)).foldl better (settled rt v) = settled rt (vs.foldl better v) := by
      intro vs
      induction vs with
      | nil => exact fun v => rfl
      | cons w vs ih =>
        intro v
        rw [List.map_cons, List.foldl_cons, better_settled, ih, List.foldl_cons]
    exact congrArg some (hfold vs v)

theorem valueOf_byCompositeKey (key : String) : valueOf (byCompositeKey rt results) key =
    (merged better (results.filter fun r => compositeKey rt r = key)).map (settled rt) := by
  unfold byCompositeKey
  rw [valueOf_addAll, List.filter_map, List.map_map, ← merged_settled]
  rfl

theorem nodup_byCompositeKey : (keys (byCompositeKey rt results)).Nodup := by
  have hnil : (keys ([] : List (Fusion.Entry String ProductSearchResult Unit))).Nodup := List.nodup_nil
  exact nodup_addAll better _ hnil

theorem bestOf_filter_iff {r : ProductSearchResult} :
    BestOf (results.filter fun x => compositeKey rt x = compositeKey rt r) r ↔ Best rt results r := by
  constructor
  · rintro ⟨pre, post, heq, hpre, hpost⟩
    obtain ⟨l₁, l₂, rfl, hl₁, hl₂⟩ := List.filter_eq_append_iff.1 heq
    obtain ⟨l₃, l₄, rfl, hl₃, -, hl₄⟩ := List.filter_eq_cons_iff.1 hl₂
    refine ⟨l₁ ++ l₃, l₄, (List.append_assoc _ _ _).symm, fun x hx hkey => ?_, fun x hx hkey => ?_⟩
    · obtain hx | hx := List.mem_append.1 hx
      · exact hpre x (hl₁ ▸ List.mem_filter.2 ⟨hx, by simpa using hkey⟩)
      · exact absurd (by simpa using hkey) (hl₃ x hx)
    · exact hpost x (hl₄ ▸ List.mem_filter.2 ⟨hx, by simpa using hkey⟩)
  · rintro ⟨pre, post, rfl, hpre, hpost⟩
    refine ⟨_, _, by rw [List.filter_append, List.filter_cons_of_pos (by simp)], fun x hx => ?_, fun x hx => ?_⟩
    · obtain ⟨hx, hkey⟩ := List.mem_filter.1 hx
      exact hpre x hx (by simpa using hkey)
    · obtain ⟨hx, hkey⟩ := List.mem_filter.1 hx
      exact hpost x hx (by simpa using hkey)

theorem settled_mem {r : ProductSearchResult} (h : Best rt results r) : settled rt r ∈ deduplicateResults rt results := by
  have hvalue : valueOf (byCompositeKey rt results) (compositeKey rt r) = _ := valueOf_byCompositeKey _
  rw [merged_of_bestOf (bestOf_filter_iff.2 h)] at hvalue
  obtain ⟨e, he, -, hval⟩ := exists_of_valueOf hvalue
  exact List.mem_map.2 ⟨e, he, hval⟩

/-- **What stays of results without `NaN`** is the best of the class of its key. -/
theorem exists_best (hnan : ∀ r ∈ results, r.confidenceScore ≠ .nan) {e : Fusion.Entry String ProductSearchResult Unit}
    (he : e ∈ byCompositeKey rt results) : ∃ r ∈ results, Best rt results r ∧ compositeKey rt r = e.key ∧ e.value = settled rt r := by
  have hvalue : valueOf (byCompositeKey rt results) e.key = _ := valueOf_byCompositeKey _
  rw [valueOf_of_mem nodup_byCompositeKey he] at hvalue
  obtain ⟨r, hr, hval⟩ := Option.map_eq_some_iff.1 hvalue.symm
  cases hclass : results.filter fun r => compositeKey rt r = e.key with
  | nil => rw [hclass] at hr; cases hr
  | cons v vs =>
    rw [hclass] at hr
    obtain rfl := Option.some.inj hr
    have hbest := bestOf_foldl fun x hx => hnan x (List.mem_of_mem_filter (hclass ▸ hx))
    have hmem : vs.foldl better v ∈ results.filter fun r => compositeKey rt r = e.key := by
      obtain ⟨pre, post, heq, -⟩ := hbest
      rw [hclass, heq]
      exact List.mem_append_right _ List.mem_cons_self
    obtain ⟨hr, hkey⟩ := List.mem_filter.1 hmem
    have hkey : compositeKey rt (vs.foldl better v) = e.key := by simpa using hkey
    refine ⟨_, hr, bestOf_filter_iff.1 ?_, hkey, hval.symm⟩
    rw [hkey, hclass]
    exact hbest

theorem Best.atLeast {r : ProductSearchResult} (h : Best rt results r) (hr : r.confidenceScore ≠ .nan) {x : ProductSearchResult}
    (hx : x ∈ results) (hkey : compositeKey rt x = compositeKey rt r) : AtLeast r.confidenceScore x.confidenceScore := by
  obtain ⟨pre, post, rfl, hpre, hpost⟩ := h
  obtain hx | hx := List.mem_append.1 hx
  · exact atLeast_of_less (hpre x hx hkey)
  · obtain rfl | hx := List.mem_cons.1 hx
    · exact atLeast_iff.2 ⟨hr, hr, le_rfl⟩
    · exact hpost x hx hkey

theorem deduplicate_of_nodup (h : (results.map (compositeKey rt)).Nodup) : deduplicateResults rt results = results.map (settled rt) := by
  unfold deduplicateResults byCompositeKey
  rw [addAll_of_nodup]
  · rw [List.nil_append, List.map_map]
    rfl
  · rw [List.nil_append]
    unfold keys
    rw [List.map_map]
    exact h

theorem settled_of_idempotent (h : deduplicateResults rt results = results) {r : ProductSearchResult} (hr : r ∈ results) :
    settled rt r = r := by
  have hlength : (results.map fun r => (⟨compositeKey rt r, settled rt r, ()⟩ : Fusion.Entry String ProductSearchResult Unit)).length ≤
      (byCompositeKey rt results).length := by
    rw [List.length_map, ← List.length_map (fun e : Fusion.Entry String ProductSearchResult Unit => e.value)]
    exact (congrArg List.length h).ge
  have hnodup := nodup_of_length better hlength
  unfold keys at hnodup
  rw [List.map_map] at hnodup
  have hmap : results.map (settled rt) = results.map id := by
    rw [List.map_id, ← deduplicate_of_nodup hnodup, h]
  exact List.map_inj_left.1 hmap r hr

theorem settled_settled {r : ProductSearchResult} : settled rt (settled rt r) = settled rt r ↔ LinkSettles rt r.link := by
  rw [linkSettles_iff]
  exact ⟨fun h => congrArg ProductSearchResult.link h, fun h => congrArg (fun link => { r with link }) h⟩

theorem compositeKey_settled {r : ProductSearchResult} (h : LinkSettles rt r.link) : compositeKey rt (settled rt r) = compositeKey rt r := by
  have hsame := linkSettles_iff.1 h
  have hlink : (normalizeProductLink rt (settledLink rt r.link)).getD "" = (normalizeProductLink rt r.link).getD "" := by
    cases hnorm : normalizeProductLink rt r.link with
    | none =>
      have hstays : settledLink rt r.link = r.link := by rw [settledLink, hnorm]; rfl
      rw [hstays, hnorm]
    | some text =>
      have hstays : settledLink rt r.link = some text := by rw [settledLink, hnorm]; rfl
      rw [hstays] at hsame ⊢
      cases hagain : normalizeProductLink rt (some text) with
      | some again =>
        rw [settledLink, hagain] at hsame
        exact Option.some.inj hsame
      | none =>
        -- only what is empty has no normal form
        by_cases hempty : text = ""
        · rw [hempty]; rfl
        · unfold normalizeProductLink at hagain
          rw [nonEmpty_of_ne hempty] at hagain
          cases hurl : rt.canonical text <;> simp [hurl] at hagain
  unfold compositeKey
  exact congrArg (fun link => link ++ "|" ++ normalizeTitle rt r.title) hlink

end Results

/-- **Deduplication does what it is for exactly if** no confidence is `NaN` and the links of the best results settle. -/
theorem deduplicates_iff (rt : Runtime) (results : List ProductSearchResult) :
    Deduplicates rt results (deduplicateResults rt results) ↔
      (∀ r ∈ results, r.confidenceScore ≠ .nan) ∧ ∀ r, Best rt results r → LinkSettles rt r.link := by
  constructor
  · intro h
    refine ⟨fun r hr => ?_, fun r hbest => ?_⟩
    · obtain ⟨x, -, -, hscore⟩ := h.represented r hr
      exact hscore.2.1
    · exact settled_settled.1 (settled_of_idempotent h.idempotent (settled_mem hbest))
  · rintro ⟨hnan, hsettles⟩
    have hkeys : (deduplicateResults rt results).map (compositeKey rt) = keys (byCompositeKey rt results) := by
      unfold deduplicateResults keys
      rw [List.map_map]
      refine List.map_congr_left fun e he => ?_
      obtain ⟨r, -, hbest, hkey, hval⟩ := exists_best hnan he
      rw [Function.comp_apply, hval, compositeKey_settled (hsettles r hbest), hkey]
    have hnodup : ((deduplicateResults rt results).map (compositeKey rt)).Nodup := hkeys ▸ nodup_byCompositeKey
    refine ⟨?_, fun r hr => ?_, fun x hx => ?_, ?_⟩
    · refine (List.pairwise_map.1 hnodup).imp fun {a b} hne heq => hne ?_
      rw [compositeKey, compositeKey, heq.1, heq.2]
    · have hmem : compositeKey rt r ∈ keys (byCompositeKey rt results) := by
        unfold byCompositeKey
        rw [mem_keys_addAll]
        exact .inr (List.mem_map.2 ⟨_, List.mem_map.2 ⟨r, hr, rfl⟩, rfl⟩)
      obtain ⟨e, he, hkey⟩ := List.mem_map.1 hmem
      obtain ⟨b, hb, hbest, hbkey, hval⟩ := exists_best hnan he
      refine ⟨e.value, List.mem_map.2 ⟨e, he, rfl⟩, ?_, ?_⟩
      · rw [hval, compositeKey_settled (hsettles b hbest), hbkey, hkey]
      · rw [hval]
        exact hbest.atLeast (hnan b hb) hr (hkey.symm.trans hbkey.symm)
    · obtain ⟨e, he, rfl⟩ := List.mem_map.1 hx
      obtain ⟨r, hr, hbest, -, hval⟩ := exists_best hnan he
      exact ⟨r, hr, hval, fun y hy hkey => hbest.atLeast (hnan r hr) hy hkey⟩
    · rw [deduplicate_of_nodup hnodup]
      have hsame : ∀ x ∈ deduplicateResults rt results, settled rt x = id x := fun x hx => by
        obtain ⟨e, he, rfl⟩ := List.mem_map.1 hx
        obtain ⟨r, -, hbest, -, hval⟩ := exists_best hnan he
        rw [hval]
        exact settled_settled.2 (hsettles r hbest)
      rw [List.map_congr_left hsame, List.map_id]

/-! ## A link with two slashes at its end -/

/-- A runtime for texts that are no URLs. -/
def noUrls : Runtime where
  decomposed s := s
  canonical _ := none
  canonical_canonical _ _ h := nomatch h

def shopLink : ProductSearchResult :=
  { title := "ao", source := none, link := some "shop//", imageUrl := none, price := none, extractedPrice := none, currency := none
    rating := none, reviews := none, snippet := none, engine := .googleLens, confidenceScore := .num 1, isSaved := none, rawData := none }

/-- The first deduplication leaves `shop/`, the second would leave `shop`. -/
theorem shopLink_unsettled : ¬ Deduplicates noUrls [shopLink] (deduplicateResults noUrls [shopLink]) := by
  intro h
  have hagain := h.idempotent
  revert hagain
  decide

end Balii.Market
