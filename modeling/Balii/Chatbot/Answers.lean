import Balii.Chatbot.Hits
/-!
# Chatbot.Answers — what an answer is made of

The keyword search ranks the active products by the words of the question and then the documents of the best of them.  Alone or fused
with the search by meaning, an answer has nothing that the catalogue did not have when it was read.
-/
namespace Balii.Chatbot

open Fusion Machine

/-! ## The keyword search -/

/-- `[\u0300-\u036f]`. -/
def isCombining (c : Char) : Bool := 0x300 ≤ c.toNat && c.toNat ≤ 0x36F

def isTokenChar (c : Char) : Bool := ('a' ≤ c && c ≤ 'z') || ('0' ≤ c && c ≤ '9') || isJsSpace c

/-- `decomposed` is `value.toLowerCase().normalize('NFD')`. -/
def tokenize (decomposed : String → String) (value : String) : List String :=
  let kept := ((decomposed value).toList.filter fun c => !isCombining c).map fun c => if isTokenChar c then c else ' '
  ((kept.splitOnP isJsSpace).map String.ofList).filter fun token => 1 < token.length

def scoreDocument (queryTokens documentTokens : List String) : ℕ :=
  if queryTokens.isEmpty || documentTokens.isEmpty then 0
  else queryTokens.foldl (fun score token => score + if documentTokens.contains token then 1 else 0) 0

/-- What scores at all, the best first and at most `n`. -/
def best {α : Type} (n : ℕ) (score : α → ℕ) (items : List α) : List (α × ℕ) :=
  (((items.map fun x => (x, score x)).filter fun e => 0 < e.2).insertionSort fun a b => b.2 ≤ a.2).take n

/-- The fields of a product that the question is looked up in. -/
def productText (product : ProductContext) : String :=
  " ".intercalate ([product.name, product.slug, product.description, product.material, product.targetGender] ++
    product.recommendedAgeGroups ++
    product.variants.flatMap fun v => [v.sku, v.size, v.color, v.itemType, v.attributeSummary])

section
variable (rt : Runtime) (decomposed : String → String)

def getRelevantProducts (query : String) (allProducts : List ProductContext) : List ProductContext :=
  let queryTokens := tokenize decomposed query
  let scoredProducts := best 8 (fun product => scoreDocument queryTokens (tokenize decomposed (productText product))) allProducts
  if 0 < scoredProducts.length then scoredProducts.map Prod.fst else allProducts.take 8

/-- `{ ...document, score }`. -/
def KnowledgeDocument.scored (d : KnowledgeDocument) (score : Option ℚ) : RetrievedDocument :=
  { id := d.id, type := d.type, title := d.title, content := d.content, metadata := d.metadata, score }

def searchByKeyword (query : String) (allProducts : List ProductContext) : KnowledgeSearchResult :=
  let products := getRelevantProducts decomposed query allProducts
  let queryTokens := tokenize decomposed query
  let rankedDocuments := best 6 (fun d => scoreDocument queryTokens (tokenize decomposed (d.title ++ " " ++ d.content)))
    (buildKnowledgeDocuments rt products)
  { documents := rankedDocuments.map fun e => e.1.scored (some e.2)
    suggestedProducts := products.take 3
    retrievalMode := .keyword }

end

/-! ## What the searches come to -/

section
variable {α : Type} {n : ℕ} {score : α → ℕ} {items : List α}

theorem mem_best {x : α} {k : ℕ} (h : (x, k) ∈ best n score items) : x ∈ items ∧ k = score x ∧ 0 < k := by
  have hmem := (List.perm_insertionSort _ _).mem_iff.1 (List.mem_of_mem_take h)
  obtain ⟨hmem, hpos⟩ := List.mem_filter.1 hmem
  obtain ⟨y, hy, he⟩ := List.mem_map.1 hmem
  cases he
  exact ⟨hy, rfl, of_decide_eq_true hpos⟩

theorem best_nodup {β : Type} {f : α → β} (h : (items.map f).Nodup) : ((best n score items).map fun e => f e.1).Nodup := by
  have hperm := (List.perm_insertionSort (fun a b : α × ℕ => b.2 ≤ a.2) ((items.map fun x => (x, score x)).filter fun e => 0 < e.2)).map
    fun e => f e.1
  have hsub : (((items.map fun x => (x, score x)).filter fun e => 0 < e.2).map fun e => f e.1).Sublist (items.map f) := by
    have hall := (List.filter_sublist (p := fun e : α × ℕ => decide (0 < e.2)) (l := items.map fun x => (x, score x))).map fun e => f e.1
    rwa [List.map_map] at hall
  exact ((hperm.nodup_iff.2 (h.sublist hsub))).sublist ((List.take_sublist n _).map _)

end

section
variable {rt : Runtime} {decomposed : String → String} {query : String} {products : List ProductContext}

theorem relevant_mem {p : ProductContext} (h : p ∈ getRelevantProducts decomposed query products) : p ∈ products := by
  unfold getRelevantProducts at h
  dsimp only at h
  split at h
  · obtain ⟨e, he, rfl⟩ := List.mem_map.1 h
    exact (mem_best he).1
  · exact List.mem_of_mem_take h

theorem relevant_nodup (hids : (products.map (·.id)).Nodup) : ((getRelevantProducts decomposed query products).map (·.id)).Nodup := by
  unfold getRelevantProducts
  dsimp only
  split
  · rw [List.map_map]
    exact best_nodup hids
  · rw [List.map_take]
    exact hids.sublist (List.take_sublist _ _)

theorem documents_of_subset {some all : List ProductContext} (h : ∀ p ∈ some, p ∈ all) {d : KnowledgeDocument}
    (hd : d ∈ buildKnowledgeDocuments rt some) : d ∈ buildKnowledgeDocuments rt all := by
  rcases List.mem_append.1 hd with hd | hd
  · exact List.mem_append_left _ hd
  · obtain ⟨p, hp, rfl⟩ := List.mem_map.1 hd
    exact List.mem_append_right _ (List.mem_map_of_mem (h p hp))

/-- **What the keyword search finds is in the catalogue.** -/
theorem keyword_sound (rt : Runtime) (decomposed : String → String) (query : String) (hids : (products.map (·.id)).Nodup) :
    (∀ d ∈ (searchByKeyword rt decomposed query products).documents, ∃ k ∈ buildKnowledgeDocuments rt products, ∃ score, d = k.scored score) ∧
      (∀ x ∈ (searchByKeyword rt decomposed query products).suggestedProducts, x ∈ products) ∧
      ((searchByKeyword rt decomposed query products).suggestedProducts.map (·.id)).Nodup ∧
      (searchByKeyword rt decomposed query products).suggestedProducts.length ≤ 3 := by
  refine ⟨fun d hd => ?_, fun x hx => relevant_mem (List.mem_of_mem_take hx), ?_, List.length_take_le _ _⟩
  · obtain ⟨e, he, rfl⟩ := List.mem_map.1 hd
    exact ⟨e.1, documents_of_subset (fun p => relevant_mem) (mem_best he).1, some (e.2 : ℚ), rfl⟩
  · unfold searchByKeyword
    dsimp only
    rw [List.map_take]
    exact (relevant_nodup hids).sublist (List.take_sublist _ _)

/-! ## What is fused -/

/-- A fused document is one of those that were found, with another score. -/
theorem mem_fuse {k : ℚ} {rankings : List (List RetrievedDocument)} {d : RetrievedDocument} (h : d ∈ fuse k rankings) :
    ∃ r ∈ rankings, ∃ d' ∈ r, ∃ score, d = { d' with score := some score } := by
  obtain ⟨e, he, rfl⟩ := List.mem_map.1 h
  have hfound : ∀ e ∈ fusedMap k rankings, ∃ r ∈ rankings, e.value ∈ r := by
    rw [fusedMap_eq]
    refine forall_addAll (P := fun _ (d : RetrievedDocument) => ∃ r ∈ rankings, d ∈ r) richer (fun key a b ha hb => ?_) (by simp)
      fun c hc => ?_
    · rcases richer_eq a b with h | h
      · rw [h]
        exact hb
      · rw [h]
        exact ha
    · obtain ⟨r, hr, hc⟩ := List.mem_flatMap.1 hc
      obtain ⟨place, hplace, rfl⟩ := List.mem_map.1 hc
      exact ⟨r, hr, List.fst_mem_of_mem_zipIdx hplace⟩
  obtain ⟨r, hr, hd⟩ := hfound e ((byScore_perm _).mem_iff.1 he)
  exact ⟨r, hr, e.value, hd, e.score, rfl⟩

theorem mem_of_mem_jsTake {α : Type} {x : JsNumber} {items : List α} {a : α} (h : a ∈ x.take items) : a ∈ items := by
  cases x with
  | nan => cases h
  | posInfinity => exact h
  | negInfinity => cases h
  | num q => exact List.mem_of_mem_take h

/-- **The loop over the fused documents**: no product twice, none that is no candidate, and no more than the bound. -/
theorem orderedProducts_sound {P : ProductContext → Prop} (maxProducts : JsNumber) {byId : String → Option ProductContext}
    (hbyId : ∀ id p, byId id = some p → p.id = id ∧ P p) (documents : List RetrievedDocument) (ordered : List ProductContext)
    (seen : List String) (hordered : ∀ p ∈ ordered, P p ∧ p.id ∈ seen) (hnodup : (ordered.map (·.id)).Nodup) :
    (∀ p ∈ orderedProducts maxProducts byId documents ordered seen, P p) ∧
      ((orderedProducts maxProducts byId documents ordered seen).map (·.id)).Nodup ∧
      ∀ n : ℕ, maxProducts.le n = true → ordered.length < n → (orderedProducts maxProducts byId documents ordered seen).length ≤ n := by
  induction documents generalizing ordered seen with
  | nil => exact ⟨fun p hp => (hordered p hp).1, hnodup, fun n _ hlt => hlt.le⟩
  | cons document rest ih =>
    unfold orderedProducts
    split
    · exact ih ordered seen hordered hnodup
    · split
      · rename_i productId _
        split
        · exact ih ordered seen hordered hnodup
        · rename_i hseen
          cases hfound : byId productId with
          | none =>
            dsimp only
            split
            · exact ⟨fun p hp => (hordered p hp).1, hnodup, fun n _ hlt => hlt.le⟩
            · exact ih ordered seen hordered hnodup
          | some p =>
            obtain ⟨hid, hp⟩ := hbyId productId p hfound
            have hordered' : ∀ q ∈ ordered ++ [p], P q ∧ q.id ∈ seen ++ [productId] := by
              intro q hq
              rcases List.mem_append.1 hq with hq | hq
              · exact ⟨(hordered q hq).1, List.mem_append_left _ (hordered q hq).2⟩
              · obtain rfl := List.mem_singleton.1 hq
                exact ⟨hp, List.mem_append_right _ (hid ▸ List.mem_singleton_self _)⟩
            have hnodup' : ((ordered ++ [p]).map (·.id)).Nodup := by
              rw [List.map_append, List.nodup_append]
              refine ⟨hnodup, List.nodup_singleton _, ?_⟩
              rintro a ha b hb rfl
              obtain ⟨q, hq, rfl⟩ := List.mem_map.1 ha
              have hsame : q.id = p.id := List.mem_singleton.1 hb
              exact hseen (hid ▸ hsame ▸ (hordered q hq).2)
            dsimp only
            split
            · refine ⟨fun q hq => (hordered' q hq).1, hnodup', fun n _ hlt => ?_⟩
              rw [List.length_append, List.length_singleton]
              omega
            · rename_i hle
              obtain ⟨hall, hone, hbound⟩ := ih (ordered ++ [p]) (seen ++ [productId]) hordered' hnodup'
              refine ⟨hall, hone, fun n hn hlt => hbound n hn ?_⟩
              -- at the bound the loop would have ended
              have hne : ordered.length + 1 ≠ n := by
                rintro rfl
                rw [List.length_append, List.length_singleton] at hle
                exact hle hn
              rw [List.length_append, List.length_singleton]
              omega
      · exact ih ordered seen hordered hnodup

end

/-! ## The answer -/

section
variable {Err : Type} {service : HybridRetrieval} {vectorSearch : Except Err (Option KnowledgeSearchResult)}
  {keywordSearch : Except Err KnowledgeSearchResult}

/-- The three kinds of answer. -/
theorem retrieve_cases (service : HybridRetrieval) (vectorSearch : Except Err (Option KnowledgeSearchResult))
    (keywordSearch : Except Err KnowledgeSearchResult) :
    (∃ v k, vectorSearch = .ok (some v) ∧ keywordSearch = .ok k ∧
        (service.retrieve vectorSearch keywordSearch).documents =
          service.maxDocuments.take (fuse service.rrfK [v.documents, k.documents]) ∧
        ∃ documents, (service.retrieve vectorSearch keywordSearch).suggestedProducts =
          buildSuggestedProducts service.maxProducts documents (k.suggestedProducts ++ v.suggestedProducts)) ∨
      (∃ r, (vectorSearch = .ok (some r) ∨ keywordSearch = .ok r) ∧
        (service.retrieve vectorSearch keywordSearch).documents = r.documents ∧
        (service.retrieve vectorSearch keywordSearch).suggestedProducts = r.suggestedProducts) ∨
      (service.retrieve vectorSearch keywordSearch).documents = [] ∧
        (service.retrieve vectorSearch keywordSearch).suggestedProducts = [] := by
  rcases vectorSearch with e | _ | v
  · rcases keywordSearch with e' | k
    · exact .inr (.inr ⟨rfl, rfl⟩)
    · refine .inr (.inl ⟨k, .inr rfl, ?_⟩)
      unfold HybridRetrieval.retrieve
      dsimp only [safeVectorSearch, safeKeywordSearch, Option.none_or]
      split <;> exact ⟨rfl, rfl⟩
  · rcases keywordSearch with e' | k
    · exact .inr (.inr ⟨rfl, rfl⟩)
    · refine .inr (.inl ⟨k, .inr rfl, ?_⟩)
      unfold HybridRetrieval.retrieve
      dsimp only [safeVectorSearch, safeKeywordSearch, Option.none_or]
      split <;> exact ⟨rfl, rfl⟩
  · rcases keywordSearch with e' | k
    · by_cases hempty : v.documents.length ≠ 0
      · refine .inr (.inl ⟨v, .inl rfl, ?_⟩)
        unfold HybridRetrieval.retrieve
        dsimp only [safeVectorSearch, safeKeywordSearch, Option.some_or]
        rw [if_pos hempty]
        exact ⟨rfl, rfl⟩
      · refine .inr (.inr ?_)
        unfold HybridRetrieval.retrieve
        dsimp only [safeVectorSearch, safeKeywordSearch, Option.some_or]
        rw [if_neg hempty]
        exact ⟨rfl, rfl⟩
    · by_cases hboth : (hasDocuments (some v) && hasDocuments (some k)) = true
      · refine .inl ⟨v, k, rfl, rfl, ?_⟩
        unfold HybridRetrieval.retrieve
        dsimp only [safeVectorSearch, safeKeywordSearch]
        rw [if_pos hboth]
        exact ⟨rfl, _, rfl⟩
      · refine .inr (.inl ?_)
        unfold HybridRetrieval.retrieve
        dsimp only [safeVectorSearch, safeKeywordSearch, Option.some_or]
        rw [if_neg hboth]
        by_cases hempty : v.documents.length ≠ 0
        · rw [if_pos hempty]
          exact ⟨v, .inl rfl, rfl, rfl⟩
        · rw [if_neg hempty]
          exact ⟨k, .inr rfl, rfl, rfl⟩

end

/-- The document is of the catalogue as it is, or as a sync has read it. -/
def KnownDocument (rt : Runtime) (moves : List (Move VectorStore Label)) (products : List ProductContext) (d : RetrievedDocument) : Prop :=
  ∃ k score, (k ∈ buildKnowledgeDocuments rt products ∧ d = k.scored score) ∨
    (∃ documents, CorpusRead rt moves documents ∧ k ∈ documents) ∧ d = k.found score

/-- The product is in the catalogue, or what the index keeps of one that a sync has read. -/
def KnownProduct (rt : Runtime) (moves : List (Move VectorStore Label)) (products : List ProductContext) (x : ProductContext) : Prop :=
  x ∈ products ∨ ∃ read p, (∃ m ∈ moves, m.label = .corpus read) ∧ p ∈ read ∧ x = indexedProduct rt p

/-- **An answer is made of the catalogue only**, whatever has become of the index, whichever search fails and however the two are fused;
no product is suggested twice, and not more than three or the bound that is set. -/
theorem answer_sound {rt : Runtime} {moves : List (Move VectorStore Label)} {s : VectorStore} {decomposed : String → String} {query : String}
    {products : List ProductContext} {points : List ScoredPoint} {Err : Type} {vectorSearch : Except Err (Option KnowledgeSearchResult)}
    {keywordSearch : Except Err KnowledgeSearchResult} (run : Run (Step rt) (.started none) moves s)
    (hpoints : ∀ q ∈ points, ∃ c p, s.collection = some c ∧ c.points.lookup q.id = some p ∧ q.payload = some p.payload)
    (hids : (products.map (·.id)).Nodup) (hvector : ∀ r, vectorSearch = .ok (some r) → r = vectorResult points)
    (hkeyword : ∀ r, keywordSearch = .ok r → r = searchByKeyword rt decomposed query products) (service : HybridRetrieval) :
    (∀ d ∈ (service.retrieve vectorSearch keywordSearch).documents, KnownDocument rt moves products d) ∧
      (∀ x ∈ (service.retrieve vectorSearch keywordSearch).suggestedProducts, KnownProduct rt moves products x) ∧
      ((service.retrieve vectorSearch keywordSearch).suggestedProducts.map (·.id)).Nodup ∧
      ∀ n : ℕ, 3 ≤ n → service.maxProducts.le n = true →
        (service.retrieve vectorSearch keywordSearch).suggestedProducts.length ≤ n := by
  obtain ⟨hkdocs, hkproducts, hknodup, hkthree⟩ := keyword_sound rt decomposed query hids
  have hvdocs := hit_documents hpoints run
  obtain ⟨hvproducts, hvnodup, hvthree⟩ := hit_suggestions hpoints run
  have hfromVector : ∀ d ∈ (vectorResult points).documents, KnownDocument rt moves products d := by
    intro d hd
    obtain ⟨documents, hread, k, hk, -, score, rfl⟩ := hvdocs d hd
    exact ⟨k, score, .inr ⟨⟨documents, hread, hk⟩, rfl⟩⟩
  have hfromKeyword : ∀ d ∈ (searchByKeyword rt decomposed query products).documents, KnownDocument rt moves products d := by
    intro d hd
    obtain ⟨k, hk, score, rfl⟩ := hkdocs d hd
    exact ⟨k, score, .inl ⟨hk, rfl⟩⟩
  have hofVector : ∀ x ∈ (vectorResult points).suggestedProducts, KnownProduct rt moves products x := by
    intro x hx
    obtain ⟨read, hread, p, hp, rfl⟩ := hvproducts x hx
    exact .inr ⟨read, p, hread, hp, rfl⟩
  rcases retrieve_cases service vectorSearch keywordSearch with
    ⟨v, k, hv, hk, hdocs, fused, hproducts⟩ | ⟨r, hr, hdocs, hproducts⟩ | ⟨hdocs, hproducts⟩
  · obtain rfl := hvector v hv
    obtain rfl := hkeyword k hk
    rw [hdocs, hproducts]
    refine ⟨fun d hd => ?_, ?_⟩
    · obtain ⟨ranking, hranking, d', hd', score, rfl⟩ := mem_fuse (mem_of_mem_jsTake hd)
      have hknown : KnownDocument rt moves products d' := by
        rcases List.mem_cons.1 hranking with rfl | hranking
        · exact hfromVector d' hd'
        · obtain rfl := List.mem_singleton.1 hranking
          exact hfromKeyword d' hd'
      obtain ⟨k, old, ⟨hk, rfl⟩ | ⟨hread, rfl⟩⟩ := hknown
      · exact ⟨k, some score, .inl ⟨hk, rfl⟩⟩
      · exact ⟨k, some score, .inr ⟨hread, rfl⟩⟩
    · have hbyId : ∀ id p, (((searchByKeyword rt decomposed query products).suggestedProducts ++
          (vectorResult points).suggestedProducts).find? fun p => p.id = id) = some p → p.id = id ∧ KnownProduct rt moves products p := by
        intro id p hp
        refine ⟨by simpa using List.find?_some hp, ?_⟩
        rcases List.mem_append.1 (List.mem_of_find?_eq_some hp) with hmem | hmem
        · exact .inl (hkproducts p hmem)
        · exact hofVector p hmem
      obtain ⟨hall, hone, hbound⟩ := orderedProducts_sound service.maxProducts hbyId fused [] []
        (fun p hp => (by cases hp)) List.nodup_nil
      exact ⟨hall, hone, fun n hn hle => hbound n hle (by simp; omega)⟩
  · rw [hdocs, hproducts]
    rcases hr with hr | hr
    · obtain rfl := hvector r hr
      exact ⟨hfromVector, hofVector, hvnodup, fun n hn _ => hvthree.trans hn⟩
    · obtain rfl := hkeyword r hr
      exact ⟨hfromKeyword, fun x hx => .inl (hkproducts x hx), hknodup, fun n hn _ => hkthree.trans hn⟩
  · rw [hdocs, hproducts]
    exact ⟨fun d hd => (by cases hd), fun x hx => (by cases hx), List.nodup_nil, fun n _ _ => Nat.zero_le n⟩

/-! ### A question, with both searches -/

def sampleProduct : ProductContext where
  id := "7"
  name := "Silk dress"
  slug := "silk-dress"
  description := ""
  price := .num 299000
  salePrice := none
  material := "silk"
  targetGender := "female"
  recommendedAgeGroups := []
  thumbnail := ""
  updatedAt := none
  variants := []

/-- The index answers, filled before the dress was there. -/
def sampleVector (points : List ScoredPoint) : Except Unit (Option KnowledgeSearchResult) :=
  .ok (some (vectorResult points))

/-- The keywords find the dress. -/
def sampleKeyword : Except Unit KnowledgeSearchResult :=
  .ok (searchByKeyword sampleRuntime id "silk" [sampleProduct])

def sampleService : HybridRetrieval :=
  ⟨60, .num 6, .num 3⟩

theorem sampleAnswer_sound : ∃ moves s k, Run (Step sampleRuntime) (.started none) moves s ∧ staticKnowledge.head? = some k ∧
    (∀ d ∈ (sampleService.retrieve (sampleVector [hitOf k]) sampleKeyword).documents,
      KnownDocument sampleRuntime moves [sampleProduct] d) ∧
      (sampleService.retrieve (sampleVector [hitOf k]) sampleKeyword).suggestedProducts.length ≤ 3 := by
  obtain ⟨moves, s, k, c, p, run, hk, hc, hp, hpayload⟩ := sampleIndex
  have hpoints : ∀ q ∈ [hitOf k], ∃ c p, s.collection = some c ∧ c.points.lookup q.id = some p ∧ q.payload = some p.payload := by
    intro q hq
    obtain rfl := List.mem_singleton.1 hq
    exact ⟨c, p, hc, hp, hpayload⟩
  have hids : ([sampleProduct].map (·.id)).Nodup := List.nodup_singleton _
  have hvector : ∀ r, sampleVector [hitOf k] = .ok (some r) → r = vectorResult [hitOf k] := by
    intro r hr
    exact (Option.some.inj (Except.ok.inj hr)).symm
  have hkeyword : ∀ r, sampleKeyword = .ok r → r = searchByKeyword sampleRuntime id "silk" [sampleProduct] := by
    intro r hr
    exact (Except.ok.inj hr).symm
  have hmax : sampleService.maxProducts.le ((3 : ℕ) : ℚ) = true := by decide +kernel
  obtain ⟨hdocs, -, -, hbound⟩ := answer_sound run hpoints hids hvector hkeyword sampleService
  exact ⟨moves, s, k, run, hk, hdocs, hbound 3 le_rfl hmax⟩

end Balii.Chatbot
