import Balii.Chatbot.IndexSync
/-!
# Chatbot.Hits — what a search by meaning can come back with

Whatever has failed, been given up or been started again before, a point of the collection is a document that some sync has read from
the catalogue.  It is read back with its own id, type, title and content, and with five fields of its metadata.
-/
namespace Balii

theorem Json.get_append (a b : List (String × Json)) (key : String) :
    (Json.obj (a ++ b)).get key = ((Json.obj b).get key).or ((Json.obj a).get key) := by
  simp only [Json.get, List.reverse_append, List.find?_append, Option.map_or]

theorem Json.get_of_notMem {fields : List (String × Json)} {key : String} (h : ∀ f ∈ fields, f.1 ≠ key) :
    (Json.obj fields).get key = none := by
  have hnone : fields.reverse.find? (fun f => f.1 == key) = none := by
    rw [List.find?_eq_none]
    intro f hf
    simpa using h f (List.mem_reverse.1 hf)
  simp only [Json.get, hnone, Option.map_none]

namespace Chatbot

open Batches Machine VectorStore

/-! ## Reading a document back -/

/-- The document as a search has it. -/
def KnowledgeDocument.found (d : KnowledgeDocument) (score : Option ℚ) : RetrievedDocument :=
  let field (key : String) : Option Json := (Json.obj (spread d.metadata)).get key
  { id := d.id
    type := d.type
    title := d.title
    content := d.content
    metadata := some (.obj
      [("productId", asNullableString (field "productId")), ("slug", asNullableString (field "slug")),
        ("thumbnail", asNullableString (field "thumbnail")), ("price", asNullableNumber (field "price")),
        ("salePrice", asNullableNumber (field "salePrice"))])
    score }

/-- What a number is after it was written to the index and read from it. -/
def readBack (x : JsNumber) : Option JsNumber := numberOr (some (asNullableNumber (some (.ofNumber x)))) none

/-- What the index has of a product. -/
def indexedProduct (rt : Runtime) (p : ProductContext) : ProductContext where
  id := p.id
  name := p.name
  slug := p.slug
  description := productContent rt p
  price := (readBack (p.salePrice.getD p.price)).getD (.num 0)
  salePrice := p.salePrice.bind readBack
  material := ""
  targetGender := ""
  recommendedAgeGroups := []
  thumbnail := p.thumbnail
  updatedAt := none
  variants := []

def ownFields : List String := ["id", "type", "title", "content"]

section
variable {rt : Runtime} {d : KnowledgeDocument} {s s' : VectorStore} {label : Label} {moves : List (Move VectorStore Label)}

theorem spread_fields {products : List ProductContext} (hd : d ∈ buildKnowledgeDocuments rt products) :
    ∀ f ∈ spread d.metadata, f.1 ∉ ownFields := by
  rcases List.mem_append.1 hd with hd | hd
  · have hstatic : ∀ d ∈ staticKnowledge, d.metadata = none := by simp [staticKnowledge]
    rw [hstatic d hd]
    intro f hf
    cases hf
  · obtain ⟨product, -, rfl⟩ := List.mem_map.1 hd
    simp [productDocument, spread, productMetadata, ownFields]

theorem id_ne_empty {products : List ProductContext} (hd : d ∈ buildKnowledgeDocuments rt products) : d.id ≠ "" := by
  rcases List.mem_append.1 hd with hd | hd
  · have hstatic : ∀ d ∈ staticKnowledge, d.id ≠ "" := by simp [staticKnowledge]
    exact hstatic d hd
  · obtain ⟨product, -, rfl⟩ := List.mem_map.1 hd
    exact append_ne_empty (by decide)

theorem get_payload_own (h : ∀ f ∈ spread d.metadata, f.1 ∉ ownFields) {key : String} (hkey : key ∈ ownFields) :
    (payloadOf d).get key = (Json.obj [("id", .str d.id), ("type", .str d.type.text), ("title", .str d.title),
      ("content", .str d.content)]).get key := by
  have hnone : (Json.obj (spread d.metadata)).get key = none := Json.get_of_notMem fun f hf he => h f hf (he ▸ hkey)
  rw [payloadOf, Json.get_append, hnone, Option.none_or]

theorem get_payload_other {key : String} (hkey : key ∉ ownFields) : (payloadOf d).get key = (Json.obj (spread d.metadata)).get key := by
  have hnone : (Json.obj [("id", .str d.id), ("type", .str d.type.text), ("title", .str d.title),
      ("content", .str d.content)]).get key = none := by
    refine Json.get_of_notMem fun f hf he => hkey ?_
    have hkeys : f.1 ∈ [("id", Json.str d.id), ("type", .str d.type.text), ("title", .str d.title), ("content", .str d.content)].map
        Prod.fst := List.mem_map_of_mem hf
    exact he ▸ hkeys
  rw [payloadOf, Json.get_append, hnone, Option.or_none]

theorem documentType?_text (type : DocumentType) : documentType? type.text = some type := by cases type <;> decide

/-- **A document is read back as it was written**, with five fields of its metadata, unless it has no title. -/
theorem mapPointToDocument_payload {products : List ProductContext} (hd : d ∈ buildKnowledgeDocuments rt products) (k : String)
    (score : Option ℚ) : mapPointToDocument ⟨k, score, some (payloadOf d)⟩ = if d.title = "" then none else some (d.found score) := by
  have hfields := spread_fields hd
  have hown : ∀ key ∈ ownFields, (payloadOf d).get key = (Json.obj [("id", .str d.id), ("type", .str d.type.text),
    ("title", .str d.title), ("content", .str d.content)]).get key := fun key hkey => get_payload_own hfields hkey
  have hid : asString ((payloadOf d).get "id") = d.id := by rw [hown "id" (by decide)]; rfl
  have htype : asString ((payloadOf d).get "type") = d.type.text := by rw [hown "type" (by decide)]; rfl
  have htitle : asString ((payloadOf d).get "title") = d.title := by rw [hown "title" (by decide)]; rfl
  have hcontent : asString ((payloadOf d).get "content") = d.content := by rw [hown "content" (by decide)]; rfl
  have hother : ∀ key ∈ ["productId", "slug", "thumbnail", "price", "salePrice"],
      (payloadOf d).get key = (Json.obj (spread d.metadata)).get key := by
    have hnot : ∀ key ∈ ["productId", "slug", "thumbnail", "price", "salePrice"], key ∉ ownFields := by decide
    exact fun key hkey => get_payload_other (hnot key hkey)
  unfold mapPointToDocument
  dsimp only
  rw [htype, documentType?_text, htitle, hcontent, hid]
  dsimp only
  by_cases hempty : d.title = ""
  · rw [if_pos (.inl hempty), if_pos hempty]
  · have hid' : orElse d.id k = d.id := if_neg (id_ne_empty hd)
    rw [if_neg (not_or.2 ⟨hempty, content_ne_empty rt hd⟩), if_neg hempty, hid', hother "productId" (by decide),
      hother "slug" (by decide), hother "thumbnail" (by decide), hother "price" (by decide), hother "salePrice" (by decide)]
    rfl

/-! ## Where the points come from -/

/-- Every point is a document that was read. -/
def Sourced (rt : Runtime) (moves : List (Move VectorStore Label)) (collection : Option Collection) : Prop :=
  ∀ c k p, collection = some c → c.points.lookup k = some p →
    ∃ documents, CorpusRead rt moves documents ∧ ∃ d ∈ documents, k = toQdrantPointId rt d.id ∧ p.payload = payloadOf d

/-- **The collection is kept, lost, made anew or added to from the batch that is on its way.** -/
theorem collection_step (step : Step rt s label s') :
    s'.collection = s.collection ∨ s'.collection = none ∨ (∃ size, s'.collection = some (newCollection size)) ∨
      ∃ plan batch rest taken, s.syncPromise = some (.upserting plan batch rest) ∧ taken.Sublist batch ∧
        s'.collection = s.collection.map (upsertItems rt taken) := by
  have hleft : ∀ {sync : Sync} {collection : Option Collection}, s.syncPromise = some sync → sync.MayLeave rt s.collection collection →
      collection = s.collection ∨ collection = none ∨ (∃ size, collection = some (newCollection size)) ∨
        ∃ plan batch rest taken, s.syncPromise = some (.upserting plan batch rest) ∧ taken.Sublist batch ∧
          collection = s.collection.map (upsertItems rt taken) := by
    intro sync collection hs h
    rcases h with h | h
    · exact .inl h
    · cases sync with
      | deleting => exact .inr (.inl h)
      | creating _ size => exact .inr (.inr (.inl ⟨size, h.2⟩))
      | upserting plan batch rest =>
        obtain ⟨taken, hsub, h⟩ := h
        exact .inr (.inr (.inr ⟨plan, batch, rest, taken, hs, hsub, h⟩))
      | _ => exact h.elim
  cases step with
  | ensureSynced => rcases ensureSynced_cases s with h | ⟨-, h⟩ <;> rw [h] <;> exact .inl rfl
  | reindex => rcases reindex_cases s with ⟨_, _, h⟩ | ⟨-, h⟩ <;> rw [h] <;> exact .inl rfl
  | corpus products _ _ =>
    rcases hasCorpus_cases rt (buildKnowledgeDocuments rt products) s with ⟨-, h⟩ | ⟨-, h⟩ <;> rw [h] <;> exact .inl rfl
  | @vectors docs sig vectors _ =>
    rcases hasVectors_cases docs sig vectors s with ⟨_, h⟩ | ⟨_, _, -, h⟩ <;> rw [h] <;> exact .inl rfl
  | @looked plan size force _ =>
    rcases looked_cases plan size force s with ⟨-, sync, -, h⟩ | ⟨-, _, -, h⟩ <;> rw [h]
    · exact .inl rfl
    · exact .inl (writeOn_collection _ _ _)
  | deleted => exact .inr (.inl rfl)
  | @created plan size _ _ => exact .inr (.inr (.inl ⟨size, writeOn_collection _ _ _⟩))
  | @upserted plan batch rest hs _ =>
    exact .inr (.inr (.inr ⟨plan, batch, rest, batch, hs, List.Sublist.refl _, writeOn_collection _ _ _⟩))
  | failed error collection hs _ h => exact hleft hs h
  | cleared => exact .inl rfl
  | noted => exact .inl rfl
  | restarted collection h =>
    rcases h with h | ⟨sync, hs, h⟩
    · exact .inl h
    · exact hleft hs h

theorem Sourced.step (h : Sourced rt moves s.collection) (known : Known rt moves s) (step : Step rt s label s') :
    Sourced rt (moves ++ [⟨s, label, s'⟩]) s'.collection := by
  intro c k p hc hp
  rcases collection_step step with hs' | hs' | ⟨size, hs'⟩ | ⟨plan, batch, rest, taken, hs, hsub, hs'⟩
  · obtain ⟨documents, hread, hd⟩ := h c k p (hs' ▸ hc) hp
    exact ⟨documents, hread.mono, hd⟩
  · cases hs'.symm.trans hc
  · cases hs'.symm.trans hc
    cases hp
  · rw [hs'] at hc
    obtain ⟨c₀, hc₀, rfl⟩ := Option.map_eq_some_iff.1 hc
    rcases AList.lookup_upsert_cases hp with hmem | hold
    · obtain ⟨base, done, _, hdone, -, -⟩ := known.written plan batch rest hs
      have hrow : (k, p) ∈ indexRows rt plan.documents plan.vectors := by
        have hall : ∀ item ∈ batch, item ∈ indexItems plan.documents plan.vectors := fun item hitem => by
          rw [← flatten_chunk, hdone]
          exact List.mem_flatten.2 ⟨batch, List.mem_append_right _ List.mem_cons_self, hitem⟩
        obtain ⟨item, hitem, he⟩ := List.mem_map.1 hmem
        exact List.mem_map.2 ⟨item, hall item (hsub.subset hitem), he⟩
      exact ⟨plan.documents, (corpusRead_of_last (known.corpus _ _ _ hs rfl).1).mono, row_of_mem hrow⟩
    · obtain ⟨documents, hread, hd⟩ := h c₀ k p hc₀ hold
      exact ⟨documents, hread.mono, hd⟩

theorem sourced (run : Run (Step rt) (started none) moves s) : Sourced rt moves s.collection := by
  have hall := run.invariant (fun _ => True) (fun moves s => Known rt moves s ∧ Sourced rt moves s.collection)
    ⟨known none .start, fun _ _ _ hc => by cases hc⟩ (fun _ _ _ _ h step _ => ⟨h.1.step step, h.2.step h.1 step⟩) fun _ _ => trivial
  exact hall.2

/-! ## Suggestions -/

theorem suggestions_ids (documents : List RetrievedDocument) (seen : List String) :
    ((suggestions documents seen).map (·.id)).Nodup ∧ ∀ x ∈ suggestions documents seen, x.id ∉ seen := by
  induction documents generalizing seen with
  | nil => exact ⟨List.nodup_nil, fun x hx => by cases hx⟩
  | cons d rest ih =>
    unfold suggestions
    split
    · exact ih seen
    · split
      · split
        · exact ih seen
        · rename_i productId slug _ _ hseen
          obtain ⟨hnodup, hnot⟩ := ih (productId :: seen)
          refine ⟨?_, fun x hx => ?_⟩
          · rw [List.map_cons, List.nodup_cons]
            refine ⟨fun hmem => ?_, hnodup⟩
            obtain ⟨x, hx, he⟩ := List.mem_map.1 hmem
            exact hnot x hx (he ▸ List.mem_cons_self)
          · rcases List.mem_cons.1 hx with rfl | hx
            · exact hseen
            · exact fun hmem => hnot x hx (List.mem_cons_of_mem _ hmem)
      · exact ih seen

/-- A product is suggested as the index has it. -/
theorem suggestion_of_product (p : ProductContext) (score : Option ℚ) (rest : List RetrievedDocument) (seen : List String) :
    suggestions ((productDocument rt p).found score :: rest) seen =
      if p.id ∈ seen then suggestions rest seen else indexedProduct rt p :: suggestions rest (p.id :: seen) := by
  have hprice : ∀ j : Json, (numberOr (some j) (some (.num 0))).getD (.num 0) = (numberOr (some j) none).getD (.num 0) := by
    intro j
    cases j <;> rfl
  have hsale : numberOr (some (asNullableNumber (some ((p.salePrice.map Json.ofNumber).getD .null)))) none = p.salePrice.bind readBack := by
    cases p.salePrice <;> rfl
  have htype : ((productDocument rt p).found score).type = .product := rfl
  have hid : ((productDocument rt p).found score).productId = some (.str p.id) := rfl
  have hslug : ((productDocument rt p).found score).slug = some (.str p.slug) := rfl
  rw [suggestions, htype, if_neg (not_not_intro rfl), hid, hslug]
  dsimp only
  congr 1
  refine congrArg (· :: suggestions rest (p.id :: seen)) ?_
  unfold indexedProduct
  rw [← hsale]
  congr 1
  exact hprice _

theorem suggestion_source {documents : List RetrievedDocument} {seen : List String}
    (hfound : ∀ d ∈ documents, ∃ products k score, (∃ m ∈ moves, m.label = .corpus products) ∧ k ∈ buildKnowledgeDocuments rt products ∧
      d = k.found score) {x : ProductContext} (hx : x ∈ suggestions documents seen) :
    ∃ products, (∃ m ∈ moves, m.label = .corpus products) ∧ ∃ p ∈ products, x = indexedProduct rt p := by
  induction documents generalizing seen with
  | nil => cases hx
  | cons d rest ih =>
    have hrest := fun d hd => hfound d (List.mem_cons_of_mem _ hd)
    obtain ⟨products, k, score, hread, hk, rfl⟩ := hfound d List.mem_cons_self
    rcases List.mem_append.1 hk with hk | hk
    · have hstatic : ∀ k ∈ staticKnowledge, k.type ≠ .product := by simp [staticKnowledge]
      have hother : (k.found score).type ≠ .product := hstatic k hk
      rw [suggestions, if_pos hother] at hx
      exact ih hrest hx
    · obtain ⟨p, hp, rfl⟩ := List.mem_map.1 hk
      rw [suggestion_of_product] at hx
      split at hx
      · exact ih hrest hx
      · rcases List.mem_cons.1 hx with rfl | hx
        · exact ⟨products, hread, p, hp, rfl⟩
        · exact ih hrest hx

/-! ## What a search finds -/

section
variable {points : List ScoredPoint}
  (hpoints : ∀ q ∈ points, ∃ c p, s.collection = some c ∧ c.points.lookup q.id = some p ∧ q.payload = some p.payload)
include hpoints

theorem hit_source (run : Run (Step rt) (started none) moves s) : ∀ d ∈ (vectorResult points).documents, ∃ products k score,
    (∃ m ∈ moves, m.label = .corpus products) ∧ k ∈ buildKnowledgeDocuments rt products ∧ k.title ≠ "" ∧ d = k.found score := by
  intro d hd
  obtain ⟨q, hq, hd⟩ := List.mem_filterMap.1 hd
  obtain ⟨c, p, hc, hp, hpayload⟩ := hpoints q hq
  obtain ⟨documents, ⟨m, hm, products, hlabel, rfl⟩, k, hk, -, hsame⟩ := sourced run c q.id p hc hp
  obtain ⟨id, score, payload⟩ := q
  dsimp only at hpayload hp
  rw [hpayload, hsame, mapPointToDocument_payload hk] at hd
  split at hd
  · cases hd
  · rename_i htitle
    exact ⟨products, k, score, ⟨m, hm, hlabel⟩, hk, htitle, (Option.some.inj hd).symm⟩

theorem hit_documents (run : Run (Step rt) (started none) moves s) : ∀ d ∈ (vectorResult points).documents,
    ∃ documents, CorpusRead rt moves documents ∧ ∃ k ∈ documents, k.title ≠ "" ∧ ∃ score, d = k.found score := by
  intro d hd
  obtain ⟨products, k, score, ⟨m, hm, hlabel⟩, hk, htitle, hd⟩ := hit_source hpoints run d hd
  exact ⟨_, ⟨m, hm, products, hlabel, rfl⟩, k, hk, htitle, score, hd⟩

theorem hit_suggestions (run : Run (Step rt) (started none) moves s) :
    (∀ x ∈ (vectorResult points).suggestedProducts, ∃ products, (∃ m ∈ moves, m.label = .corpus products) ∧
        ∃ p ∈ products, x = indexedProduct rt p) ∧
      ((vectorResult points).suggestedProducts.map (·.id)).Nodup ∧ (vectorResult points).suggestedProducts.length ≤ 3 := by
  refine ⟨fun x hx => suggestion_source (fun d hd => ?_) (List.mem_of_mem_take hx), ?_, List.length_take_le _ _⟩
  · obtain ⟨products, k, score, hread, hk, -, hd⟩ := hit_source hpoints run d hd
    exact ⟨products, k, score, hread, hk, hd⟩
  · change ((suggestions (vectorResult points).documents []).take 3 |>.map (·.id)).Nodup
    rw [List.map_take]
    exact (suggestions_ids _ _).1.sublist (List.take_sublist _ _)

end

/-- **What a search by meaning comes back with was in the catalogue when a sync read it**: every document has the id, type, title and
content of one that was read, and of its metadata the five fields that are asked for; and the at most three products suggested, none
twice, are what the index keeps of products that were read. -/
theorem search_sound (run : Run (Step rt) (started none) moves s) {points : List ScoredPoint}
    (hpoints : ∀ q ∈ points, ∃ c p, s.collection = some c ∧ c.points.lookup q.id = some p ∧ q.payload = some p.payload) :
    (∀ d ∈ (vectorResult points).documents, ∃ documents, CorpusRead rt moves documents ∧
        ∃ k ∈ documents, k.title ≠ "" ∧ ∃ score, d = k.found score) ∧
      (∀ x ∈ (vectorResult points).suggestedProducts, ∃ products, (∃ m ∈ moves, m.label = .corpus products) ∧
        ∃ p ∈ products, x = indexedProduct rt p) ∧
      ((vectorResult points).suggestedProducts.map (·.id)).Nodup ∧ (vectorResult points).suggestedProducts.length ≤ 3 :=
  ⟨hit_documents hpoints run, hit_suggestions hpoints run⟩

end

/-- The point of a document, as the answer to a query. -/
def hitOf (k : KnowledgeDocument) : ScoredPoint := ⟨toQdrantPointId sampleRuntime k.id, some (9 / 10), some (payloadOf k)⟩

theorem sampleIndex : ∃ moves s k c p, Run (Step sampleRuntime) (started none) moves s ∧ staticKnowledge.head? = some k ∧
    s.collection = some c ∧ c.points.lookup (hitOf k).id = some p ∧ (hitOf k).payload = some p.payload := by
  have hstart : Run (Step sampleRuntime) (started none) [] (started none) := .start
  have run := ((((hstart.step .ensureSynced).step (.corpus [] List.nodup_nil rfl)).step (.vectors (some sampleVectors) rfl)).step
    (.looked rfl)).step (.created rfl rfl)
  obtain ⟨k, rest, hk⟩ : ∃ k rest, staticKnowledge = k :: rest := ⟨_, _, rfl⟩
  have hfirst : (buildKnowledgeDocuments sampleRuntime [])[0]? = some k := by
    unfold buildKnowledgeDocuments
    rw [hk]
    rfl
  obtain ⟨base, hwritten⟩ := (known none run).written _ _ _ rfl
  obtain ⟨c, hc, hindexed⟩ := hwritten.next.indexed samplePoints
  exact ⟨_, _, k, c, _, run.step (.upserted rfl rfl), by rw [hk]; rfl, hc, hindexed 0 k hfirst, rfl⟩

/-- A search that finds the first document. -/
theorem sampleSearch_sound : ∃ moves s k, Run (Step sampleRuntime) (started none) moves s ∧ staticKnowledge.head? = some k ∧
    k.found (some (9 / 10)) ∈ (vectorResult [hitOf k]).documents ∧
      ∀ d ∈ (vectorResult [hitOf k]).documents, ∃ documents, CorpusRead sampleRuntime moves documents ∧
        ∃ k ∈ documents, k.title ≠ "" ∧ ∃ score, d = k.found score := by
  obtain ⟨moves, s, k, c, p, run, hk, hc, hp, hpayload⟩ := sampleIndex
  have hmem : k ∈ staticKnowledge := List.mem_of_mem_head? hk
  have htitle : ∀ k ∈ staticKnowledge, k.title ≠ "" := by simp [staticKnowledge]
  have hdoc : k ∈ buildKnowledgeDocuments sampleRuntime [] := List.mem_append_left _ hmem
  have hread : mapPointToDocument (hitOf k) = some (k.found (some (9 / 10))) :=
    (mapPointToDocument_payload hdoc _ _).trans (if_neg (htitle k hmem))
  refine ⟨moves, s, k, run, hk, List.mem_filterMap.2 ⟨hitOf k, List.mem_cons_self, hread⟩, (search_sound run fun q hq => ?_).1⟩
  obtain rfl := List.mem_singleton.1 hq
  exact ⟨c, p, hc, hp, hpayload⟩

end Chatbot

end Balii
