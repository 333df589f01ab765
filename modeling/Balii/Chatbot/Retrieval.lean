import Balii.Json
import Balii.Lib.Fusion
import Mathlib.Data.List.Sort
import Mathlib.Tactic.Linarith
import Mathlib.Algebra.Order.Field.Basic
/-!
# Chatbot.Retrieval — the two searches of the chatbot, fused

A question is looked up by meaning and by keyword.  Where both searches find documents, their rankings are fused by the
reciprocals of the ranks; otherwise what the one search found is passed on.  Scores are exact.
-/
namespace Balii.Chatbot

open Fusion

/-! ## The data -/

structure ProductVariantContext where
  id : String
  sku : String
  size : String
  color : String
  itemType : String
  price : Option JsNumber
  stock : JsNumber
  attributeSummary : String

structure ProductContext where
  id : String
  name : String
  slug : String
  description : String
  price : JsNumber
  salePrice : Option JsNumber
  material : String
  targetGender : String
  recommendedAgeGroups : List String
  thumbnail : String
  updatedAt : Option String
  variants : List ProductVariantContext

inductive DocumentType
  | faq | policy | product
  deriving DecidableEq

structure RetrievedDocument where
  id : String
  type : DocumentType
  title : String
  content : String
  metadata : Option Json
  score : Option ℚ
  deriving DecidableEq

inductive RetrievalMode
  | vector | keyword | hybrid | none
  deriving DecidableEq

structure KnowledgeSearchResult where
  documents : List RetrievedDocument
  suggestedProducts : List ProductContext
  retrievalMode : RetrievalMode

structure Arms where
  vector : Bool
  keyword : Bool
  deriving DecidableEq

structure HybridSearchResult extends KnowledgeSearchResult where
  arms : Arms

/-- The settings of the service. -/
structure HybridRetrieval where
  rrfK : ℚ
  maxDocuments : JsNumber
  maxProducts : JsNumber

/-! ## The rankings -/

def RetrievedDocument.productId (d : RetrievedDocument) : Option Json := d.metadata.bind (·.get "productId")

/-- The document that stays: another comes in for one that names no product. -/
def richer (existing document : RetrievedDocument) : RetrievedDocument :=
  if !existing.productId.any Json.truthy && document.productId.any Json.truthy then document else existing

/-- What a document's place in a ranking adds to its score. -/
def contribution (rrfK : ℚ) (place : RetrievedDocument × ℕ) : Entry String RetrievedDocument ℚ :=
  let rank := place.2 + 1
  { key := place.1.id, value := place.1, score := 1 / (rrfK + rank) }

def byScore (entries : List (Entry String RetrievedDocument ℚ)) : List (Entry String RetrievedDocument ℚ) :=
  entries.insertionSort fun a b => b.score ≤ a.score

/-- The map from document ids to documents with their scores. -/
def fusedMap (rrfK : ℚ) (rankings : List (List RetrievedDocument)) : List (Entry String RetrievedDocument ℚ) :=
  rankings.foldl (fun fused ranking => addAll richer fused (ranking.zipIdx.map (contribution rrfK))) []

def fuse (rrfK : ℚ) (rankings : List (List RetrievedDocument)) : List RetrievedDocument :=
  (byScore (fusedMap rrfK rankings)).map fun entry => { entry.value with score := some entry.score }

/-! ## The products -/

/-- The loop over the fused documents, with the products taken so far. -/
def orderedProducts (maxProducts : JsNumber) (byId : String → Option ProductContext) :
    List RetrievedDocument → List ProductContext → List String → List ProductContext
  | [], ordered, _ => ordered
  | document :: rest, ordered, seen =>
    if document.type ≠ .product then orderedProducts maxProducts byId rest ordered seen
    else match document.productId with
      | some (.str productId) =>
        if productId ∈ seen then orderedProducts maxProducts byId rest ordered seen
        else
          let (ordered, seen) := match byId productId with
            | some enriched => (ordered ++ [enriched], seen ++ [productId])
            | none => (ordered, seen)
          -- The bound is looked at here only: not after a document that was passed over.
          if maxProducts.le ordered.length then ordered else orderedProducts maxProducts byId rest ordered seen
      | _ => orderedProducts maxProducts byId rest ordered seen

def buildSuggestedProducts (maxProducts : JsNumber) (fusedDocuments : List RetrievedDocument)
    (candidates : List ProductContext) : List ProductContext :=
  orderedProducts maxProducts (fun id => candidates.find? fun p => p.id = id) fusedDocuments [] []

/-! ## The searches -/

variable {Err : Type}

/-- What the vector search comes to: it may answer that it has nothing to say, and it may throw. -/
def safeVectorSearch : Except Err (Option KnowledgeSearchResult) → Option KnowledgeSearchResult
  | .ok result => result
  | .error _ => none

def safeKeywordSearch : Except Err KnowledgeSearchResult → Option KnowledgeSearchResult
  | .ok result => some result
  | .error _ => none

/-- There is a result, and it has documents. -/
def hasDocuments (result : Option KnowledgeSearchResult) : Bool := result.any fun r => r.documents.length != 0

def HybridRetrieval.retrieve (service : HybridRetrieval) (vectorSearch : Except Err (Option KnowledgeSearchResult))
    (keywordSearch : Except Err KnowledgeSearchResult) : HybridSearchResult :=
  let vectorResult := safeVectorSearch vectorSearch
  let keywordResult := safeKeywordSearch keywordSearch
  let arms : Arms := { vector := hasDocuments vectorResult, keyword := hasDocuments keywordResult }
  let fallback : HybridSearchResult :=
    match vectorResult.or keywordResult, keywordResult with
    | some single, keywordResult =>
      if single.documents.length ≠ 0 then { single with arms }
      else match keywordResult with
        | some keywordResult => { keywordResult with arms }
        | none => { documents := [], suggestedProducts := [], retrievalMode := .none, arms }
    | none, _ => { documents := [], suggestedProducts := [], retrievalMode := .none, arms }
  match vectorResult, keywordResult with
  | some vectorResult, some keywordResult =>
    if arms.vector && arms.keyword then
      let fusedDocuments := service.maxDocuments.take (fuse service.rrfK [vectorResult.documents, keywordResult.documents])
      { documents := fusedDocuments
        suggestedProducts := buildSuggestedProducts service.maxProducts fusedDocuments
          (keywordResult.suggestedProducts ++ vectorResult.suggestedProducts)
        retrievalMode := .hybrid, arms }
    else fallback
  | _, _ => fallback

/-! ## What is fused -/

/-- The 1-based rank of a document. -/
def rank? (id : String) (ranking : List RetrievedDocument) : Option ℕ := ((ranking.map (·.id)).idxOf? id).map (· + 1)

/-- The reciprocals of the ranks in the rankings that contain the document. -/
def rrfScore (k : ℚ) (rankings : List (List RetrievedDocument)) (id : String) : ℚ :=
  (rankings.map fun ranking => (rank? id ranking).elim 0 fun rank => 1 / (k + rank)).sum

/-- Both are in the ranking, the first at least as high. -/
def RankedAbove (a b : String) (ranking : List RetrievedDocument) : Prop :=
  ∃ p q, rank? a ranking = some p ∧ rank? b ranking = some q ∧ p ≤ q

/-- What all the places of all the rankings add. -/
def contributions (k : ℚ) (rankings : List (List RetrievedDocument)) : List (Entry String RetrievedDocument ℚ) :=
  rankings.flatMap fun r => r.zipIdx.map (contribution k)

theorem fusedMap_eq (k : ℚ) (rankings : List (List RetrievedDocument)) :
    fusedMap k rankings = addAll richer [] (contributions k rankings) := by
  unfold fusedMap addAll contributions
  rw [List.foldl_flatMap]

theorem nodup_fusedMap (k : ℚ) (rankings : List (List RetrievedDocument)) : (keys (fusedMap k rankings)).Nodup := by
  rw [fusedMap_eq]
  have hnil : (keys ([] : List (Entry String RetrievedDocument ℚ))).Nodup := List.nodup_nil
  exact nodup_addAll richer _ hnil

theorem richer_eq (a b : RetrievedDocument) : richer a b = b ∨ richer a b = a := by
  unfold richer
  split
  · exact .inl rfl
  · exact .inr rfl

theorem keys_contribution (k : ℚ) (ranking : List RetrievedDocument) (n : ℕ) :
    keys ((ranking.zipIdx n).map (contribution k)) = ranking.map (·.id) := by
  have hids : ranking.map (·.id) = ((ranking.zipIdx n).map Prod.fst).map (·.id) := by rw [List.zipIdx_map_fst]
  rw [hids, List.map_map]
  unfold keys
  rw [List.map_map]
  rfl

theorem mem_keys_contributions (k : ℚ) (rankings : List (List RetrievedDocument)) (id : String) :
    id ∈ keys (contributions k rankings) ↔ ∃ r ∈ rankings, id ∈ r.map (·.id) := by
  unfold keys contributions
  rw [List.map_flatMap, List.mem_flatMap]
  exact exists_congr fun r => and_congr_right fun _ => by rw [← keys_contribution k r 0]; rfl

/-- What a document gets from a ranking whose first document has the rank `n + 1`. -/
theorem total_contribution (k : ℚ) {ranking : List RetrievedDocument} (hnodup : (ranking.map (·.id)).Nodup) (n : ℕ) (id : String) :
    total ((ranking.zipIdx n).map (contribution k)) id =
      ((ranking.map (·.id)).idxOf? id).elim 0 fun i => 1 / (k + ((n + i + 1 : ℕ) : ℚ)) := by
  induction ranking generalizing n with
  | nil => rfl
  | cons d rest ih =>
    obtain ⟨hnot, hrest⟩ := List.nodup_cons.1 hnodup
    rw [List.zipIdx_cons, List.map_cons, total_cons, List.map_cons, List.idxOf?_cons]
    by_cases h : d.id = id
    · have hzero : total ((rest.zipIdx (n + 1)).map (contribution k)) id = 0 :=
        total_eq_zero (by rw [keys_contribution, ← h]; exact hnot)
      have hkey : (contribution k (d, n)).key = id := h
      rw [if_pos hkey, hzero, add_zero, if_pos (beq_iff_eq.2 h)]
      simp [contribution]
    · have hkey : (contribution k (d, n)).key ≠ id := h
      rw [if_neg hkey, zero_add, ih hrest, if_neg (by simpa using h)]
      cases (rest.map (·.id)).idxOf? id with
      | none => rfl
      | some i => simp only [Option.map_some, Option.elim_some]; congr 3; omega

theorem total_contributions (k : ℚ) {rankings : List (List RetrievedDocument)} (hnodup : ∀ r ∈ rankings, (r.map (·.id)).Nodup)
    (id : String) : total (contributions k rankings) id = rrfScore k rankings id := by
  induction rankings with
  | nil => rfl
  | cons r rest ih =>
    obtain ⟨hr, hrest⟩ := List.forall_mem_cons.1 hnodup
    have hscore : rrfScore k (r :: rest) id =
        ((rank? id r).elim 0 fun rank => 1 / (k + rank)) + rrfScore k rest id := by
      unfold rrfScore
      rw [List.map_cons, List.sum_cons]
    unfold contributions at ih ⊢
    rw [List.flatMap_cons, total_append, ih hrest, hscore, total_contribution k hr]
    unfold rank?
    cases (r.map (·.id)).idxOf? id <;> simp

theorem id_of_fused (k : ℚ) (rankings : List (List RetrievedDocument)) : ∀ e ∈ fusedMap k rankings, e.value.id = e.key := by
  rw [fusedMap_eq]
  refine forall_addAll (P := fun key (d : RetrievedDocument) => d.id = key) richer (fun key a b ha hb => ?_) (by simp) fun c hc => ?_
  · obtain h | h := richer_eq a b
    · rw [h]; exact hb
    · rw [h]; exact ha
  · obtain ⟨r, -, hc⟩ := List.mem_flatMap.1 hc
    obtain ⟨place, -, rfl⟩ := List.mem_map.1 hc
    rfl

theorem byScore_perm (entries : List (Entry String RetrievedDocument ℚ)) : (byScore entries).Perm entries :=
  List.perm_insertionSort _ entries

theorem byScore_sorted (entries : List (Entry String RetrievedDocument ℚ)) :
    (byScore entries).Pairwise fun a b => b.score ≤ a.score := by
  unfold byScore
  have : IsTrans (Entry String RetrievedDocument ℚ) fun a b => b.score ≤ a.score := ⟨fun a b c hab hbc => le_trans hbc hab⟩
  have : Std.Total (α := Entry String RetrievedDocument ℚ) fun a b => b.score ≤ a.score := ⟨fun a b => le_total _ _⟩
  exact List.pairwise_insertionSort (fun a b : Entry String RetrievedDocument ℚ => b.score ≤ a.score) entries

theorem ids_fuse_perm (k : ℚ) (rankings : List (List RetrievedDocument)) :
    ((fuse k rankings).map (·.id)).Perm (keys (fusedMap k rankings)) := by
  have hids : (fuse k rankings).map (·.id) = keys (byScore (fusedMap k rankings)) := by
    unfold fuse
    rw [List.map_map]
    exact List.map_congr_left fun e he => id_of_fused k rankings e ((byScore_perm _).mem_iff.1 he)
  rw [hids]
  exact (byScore_perm _).map _

theorem mem_ids_fuse (k : ℚ) (rankings : List (List RetrievedDocument)) (id : String) :
    id ∈ (fuse k rankings).map (·.id) ↔ ∃ r ∈ rankings, id ∈ r.map (·.id) := by
  rw [(ids_fuse_perm k rankings).mem_iff, fusedMap_eq, mem_keys_addAll, mem_keys_contributions]
  simp [keys]

theorem nodup_ids_fuse (k : ℚ) (rankings : List (List RetrievedDocument)) : ((fuse k rankings).map (·.id)).Nodup :=
  (ids_fuse_perm k rankings).nodup_iff.2 (nodup_fusedMap k rankings)

theorem score_of_fused (k : ℚ) {rankings : List (List RetrievedDocument)} (hnodup : ∀ r ∈ rankings, (r.map (·.id)).Nodup)
    {e : Entry String RetrievedDocument ℚ} (he : e ∈ fusedMap k rankings) : e.score = rrfScore k rankings e.value.id := by
  rw [← total_of_mem (nodup_fusedMap k rankings) he, fusedMap_eq, total_addAll, total_contributions k hnodup,
    id_of_fused k rankings e he]
  exact zero_add _

theorem score_fuse (k : ℚ) {rankings : List (List RetrievedDocument)} (hnodup : ∀ r ∈ rankings, (r.map (·.id)).Nodup)
    {d : RetrievedDocument} (hd : d ∈ fuse k rankings) : d.score = some (rrfScore k rankings d.id) := by
  obtain ⟨e, he, rfl⟩ := List.mem_map.1 hd
  exact congrArg some (score_of_fused k hnodup ((byScore_perm _).mem_iff.1 he))

theorem sorted_fuse (k : ℚ) {rankings : List (List RetrievedDocument)} (hnodup : ∀ r ∈ rankings, (r.map (·.id)).Nodup) :
    (fuse k rankings).Pairwise fun a b => rrfScore k rankings b.id ≤ rrfScore k rankings a.id := by
  unfold fuse
  rw [List.pairwise_map]
  refine (byScore_sorted _).imp_of_mem fun ha hb h => ?_
  rwa [score_of_fused k hnodup ((byScore_perm _).mem_iff.1 ha), score_of_fused k hnodup ((byScore_perm _).mem_iff.1 hb)] at h

theorem reciprocal_anti {k : ℚ} (hk : 0 ≤ k) {a b : String} {ranking : List RetrievedDocument} (h : RankedAbove a b ranking) :
    ((rank? b ranking).elim 0 fun rank => 1 / (k + rank)) ≤ (rank? a ranking).elim 0 fun rank => 1 / (k + rank) := by
  obtain ⟨p, q, hp, hq, hle⟩ := h
  rw [hp, hq]
  obtain ⟨i, -, rfl⟩ := Option.map_eq_some_iff.1 hp
  have hpos : (0 : ℚ) < k + ((i + 1 : ℕ) : ℚ) := add_pos_of_nonneg_of_pos hk (Nat.cast_pos.2 i.succ_pos)
  have hle : k + ((i + 1 : ℕ) : ℚ) ≤ k + (q : ℚ) := by
    have := Nat.cast_le (α := ℚ).2 hle
    linarith
  exact one_div_le_one_div_of_le hpos hle

/-- **What two rankings become**: every document once, with its score, the highest first. -/
structure Fuses (k : ℚ) (r₁ r₂ documents : List RetrievedDocument) : Prop where
  once : (documents.map (·.id)).Nodup
  union : ∀ id, id ∈ documents.map (·.id) ↔ id ∈ r₁.map (·.id) ∨ id ∈ r₂.map (·.id)
  scored : ∀ d ∈ documents, d.score = some (rrfScore k [r₁, r₂] d.id)
  sorted : documents.Pairwise fun a b => rrfScore k [r₁, r₂] b.id ≤ rrfScore k [r₁, r₂] a.id
  /-- One that is ranked at least as high in both comes later on a tie only. -/
  ranked : documents.Pairwise fun a b => RankedAbove b.id a.id r₁ → RankedAbove b.id a.id r₂ →
    rrfScore k [r₁, r₂] b.id = rrfScore k [r₁, r₂] a.id

theorem fuse_two {k : ℚ} (hk : 0 ≤ k) {r₁ r₂ : List RetrievedDocument} (h₁ : (r₁.map (·.id)).Nodup) (h₂ : (r₂.map (·.id)).Nodup) :
    Fuses k r₁ r₂ (fuse k [r₁, r₂]) := by
  have hnodup : ∀ r ∈ [r₁, r₂], (r.map (·.id)).Nodup := by simp [h₁, h₂]
  have hsorted := sorted_fuse k hnodup
  refine ⟨nodup_ids_fuse k _, fun id => ?_, fun d hd => score_fuse k hnodup hd, hsorted, ?_⟩
  · rw [mem_ids_fuse]
    simp
  · refine hsorted.imp fun {a b} hle ha hb => le_antisymm hle ?_
    have hsum (id : String) : rrfScore k [r₁, r₂] id =
        ((rank? id r₁).elim 0 fun rank => 1 / (k + rank)) + ((rank? id r₂).elim 0 fun rank => 1 / (k + rank)) := by
      simp [rrfScore]
    rw [hsum, hsum]
    exact add_le_add (reciprocal_anti hk ha) (reciprocal_anti hk hb)

/-! ## What is retrieved -/

/-- `1 <= x`. -/
def AtLeastOne (x : JsNumber) : Prop := x ≠ .nan ∧ x.lt 1 = false

theorem take_ne_nil {α : Type} {x : JsNumber} (hx : AtLeastOne x) {items : List α} (h : items ≠ []) : x.take items ≠ [] := by
  obtain ⟨hnan, hlt⟩ := hx
  cases x with
  | nan => exact absurd rfl hnan
  | posInfinity => exact h
  | negInfinity => cases hlt
  | num q =>
    have hq : 1 ≤ q := by simpa [JsNumber.lt] using hlt
    have hden : (q.den : ℤ) ≤ q.num := by
      have := Rat.le_iff 1 q |>.1 hq
      simpa using this
    have hone : 1 ≤ q.num.tdiv q.den := by
      rw [Int.tdiv_eq_ediv_of_nonneg (by omega)]
      exact (Int.le_ediv_iff_mul_le (by exact_mod_cast q.den_pos)).2 (by omega)
    unfold JsNumber.take
    intro hnil
    simp only [List.take_eq_nil_iff] at hnil
    obtain hz | hz := hnil
    · rw [if_neg (by omega)] at hz
      omega
    · exact h hz

theorem fuse_ne_nil (k : ℚ) {r₁ : List RetrievedDocument} (h : r₁ ≠ []) (r₂ : List RetrievedDocument) : fuse k [r₁, r₂] ≠ [] := by
  obtain ⟨d, rest, rfl⟩ := List.exists_cons_of_ne_nil h
  have := (mem_ids_fuse k [d :: rest, r₂] d.id).2 ⟨_, List.mem_cons_self, List.mem_cons_self⟩
  intro hnil
  rw [hnil] at this
  cases this

/-- One of the searches returned documents. -/
def ArmReturns (vectorSearch : Except Err (Option KnowledgeSearchResult)) (keywordSearch : Except Err KnowledgeSearchResult) : Prop :=
  (∃ r, vectorSearch = .ok (some r) ∧ r.documents ≠ []) ∨ ∃ r, keywordSearch = .ok r ∧ r.documents ≠ []

theorem armReturns_iff (vectorSearch : Except Err (Option KnowledgeSearchResult)) (keywordSearch : Except Err KnowledgeSearchResult) :
    ArmReturns vectorSearch keywordSearch ↔
      hasDocuments (safeVectorSearch vectorSearch) = true ∨ hasDocuments (safeKeywordSearch keywordSearch) = true := by
  refine or_congr ?_ ?_
  · obtain e | (_ | r) := vectorSearch <;> simp [safeVectorSearch, hasDocuments]
  · obtain e | r := keywordSearch <;> simp [safeKeywordSearch, hasDocuments]

theorem documents_retrieve (service : HybridRetrieval) (hlimit : AtLeastOne service.maxDocuments)
    (vectorSearch : Except Err (Option KnowledgeSearchResult)) (keywordSearch : Except Err KnowledgeSearchResult) :
    (service.retrieve vectorSearch keywordSearch).documents ≠ [] ↔ ArmReturns vectorSearch keywordSearch := by
  rw [armReturns_iff]
  unfold HybridRetrieval.retrieve
  generalize safeVectorSearch vectorSearch = vector
  generalize safeKeywordSearch keywordSearch = keyword
  obtain _ | v := vector <;> obtain _ | k := keyword
  · simp [hasDocuments]
  · by_cases hk : k.documents = [] <;> simp [hasDocuments, hk]
  · by_cases hv : v.documents = [] <;> simp [hasDocuments, hv]
  · by_cases hv : v.documents = []
    · -- A vector search without documents does not stand in the way of the keyword search.
      simp [hasDocuments, hv]
    · by_cases hk : k.documents = []
      · simp [hasDocuments, hv, hk]
      · have hfused := take_ne_nil hlimit (fuse_ne_nil service.rrfK hv k.documents)
        simp [hasDocuments, hv, hk, hfused]

/-- **Two rankings are fused by reciprocal rank, and documents are retrieved exactly if a search returns some.** -/
theorem retrieval_fuses : (∀ k : ℚ, 0 ≤ k → ∀ r₁ r₂ : List RetrievedDocument, (r₁.map (·.id)).Nodup → (r₂.map (·.id)).Nodup →
      Fuses k r₁ r₂ (fuse k [r₁, r₂])) ∧
    ∀ (service : HybridRetrieval) (vectorSearch : Except Err (Option KnowledgeSearchResult))
      (keywordSearch : Except Err KnowledgeSearchResult), AtLeastOne service.maxDocuments →
      ((service.retrieve vectorSearch keywordSearch).documents ≠ [] ↔ ArmReturns vectorSearch keywordSearch) :=
  ⟨fun _ hk _ _ h₁ h₂ => fuse_two hk h₁ h₂, fun service v k hlimit => documents_retrieve service hlimit v k⟩

end Balii.Chatbot
