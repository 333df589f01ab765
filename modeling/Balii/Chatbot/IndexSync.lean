import Balii.Chatbot.VectorStore
/-!
# Chatbot.IndexSync — what the index holds

Searches, rebuilds, failing requests and restarts in any order: which documents the collection holds when a sync has ended well, and
what becomes of a rebuild that is asked for while a sync is under way.
-/
namespace Balii.Chatbot

open Batches Machine VectorStore

/-! ## What is meant -/

section
variable (rt : Runtime)

/-- A sync has read this corpus. -/
def CorpusRead (moves : List (Move VectorStore Label)) (documents : List KnowledgeDocument) : Prop :=
  ∃ m ∈ moves, ∃ products, m.label = .corpus products ∧ documents = buildKnowledgeDocuments rt products

/-- The corpus that was read last in these moves. -/
def lastCorpus (moves : List (Move VectorStore Label)) : Option (List KnowledgeDocument) :=
  moves.foldl (fun last m =>
    match m.label with
    | .corpus products => some (buildKnowledgeDocuments rt products)
    | _ => last) none

/-- The vectors that were given last in these moves. -/
def lastVectors (moves : List (Move VectorStore Label)) : Option (List Embedding) :=
  moves.foldl (fun last m =>
    match m.label with
    | .vectors (some vectors) => some vectors
    | _ => last) none

/-- These vectors were given for this corpus, when it had been read last. -/
def Embedded (moves : List (Move VectorStore Label)) (documents : List KnowledgeDocument) (vectors : List Embedding) : Prop :=
  ∃ before m after, moves = before ++ m :: after ∧ m.label = .vectors (some vectors) ∧ lastCorpus rt before = some documents

/-- No two documents of a corpus share a point. -/
def DistinctPoints (label : Label) : Prop :=
  ∀ products, label = .corpus products → ((buildKnowledgeDocuments rt products).map fun d => toQdrantPointId rt d.id).Nodup

/-- Each document is there, with its own vector. -/
def Indexed (documents : List KnowledgeDocument) (vectors : List Embedding) (collection : Option Collection) : Prop :=
  ∃ c, collection = some c ∧ ∀ (i : ℕ) (d : KnowledgeDocument), documents[i]? = some d →
    c.points.lookup (toQdrantPointId rt d.id) = some ⟨vectors[i]?, payloadOf d⟩

/-- Nothing else is there. -/
def OnlyOf (documents : List KnowledgeDocument) (collection : Option Collection) : Prop :=
  ∀ c, collection = some c → ∀ k ∈ c.points, ∃ d ∈ documents, k = toQdrantPointId rt d.id

def indexRows (documents : List KnowledgeDocument) (vectors : List Embedding) : List (String × Point) :=
  (indexItems documents vectors).map (pointRow rt)

/-- Some batches of the plan are in the collection, over what it had; these are left. -/
def Written (base : Table String Point) (plan : Plan) (rest : List (List IndexItem)) (collection : Option Collection) : Prop :=
  ∃ done c, chunk plan.documents plan.vectors 32 = done ++ rest ∧ collection = some c ∧
    c.points = base.upsert (done.flatten.map (pointRow rt))

end

/-- The corpus that the sync works on, with its signature. -/
def Sync.corpus? : Sync → Option (List KnowledgeDocument × String)
  | embedding documents signature => some (documents, signature)
  | looking plan _ _ | deleting plan _ | creating plan _ | upserting plan _ _ => some (plan.documents, plan.signature)
  | _ => none

/-- The plan that the sync carries out. -/
def Sync.plan? : Sync → Option Plan
  | looking plan _ _ | deleting plan _ | creating plan _ | upserting plan _ _ => some plan
  | _ => none

/-- Requests that change the collection are under way. -/
def Sync.writes : Sync → Bool
  | deleting .. | creating .. | upserting .. => true
  | _ => false

def VectorStore.over (s : VectorStore) : Prop := ∃ outcome, s.syncPromise = some (.settled outcome)

def VectorStore.writing (s : VectorStore) : Bool := s.syncPromise.any Sync.writes

/-- The plan is being carried out, or has been. -/
def VectorStore.Writes (rt : Runtime) (base : Table String Point) (plan : Plan) (s : VectorStore) : Prop :=
  (∃ batch rest, s.syncPromise = some (.upserting plan batch rest) ∧ Written rt base plan (batch :: rest) s.collection) ∨
    (s.syncPromise = some (.settled none) ∧ s.syncedSignature = some plan.signature ∧ s.forceRecreateOnNextSync = false ∧
      Written rt base plan [] s.collection)

section
variable {rt : Runtime} {documents : List KnowledgeDocument} {vectors : List Embedding} {plan : Plan} {base : Table String Point}
  {rest : List (List IndexItem)} {collection : Option Collection} {s s' : VectorStore} {label : Label}
  {moves : List (Move VectorStore Label)}

/-! ## Rows -/

theorem keys_indexRows : (indexRows rt documents vectors).map Prod.fst = documents.map fun d => toQdrantPointId rt d.id := by
  unfold indexRows indexItems
  rw [List.map_map, List.map_map]
  conv_rhs => rw [← List.zipIdx_map_fst 0 documents, List.map_map]
  rfl

theorem row_mem {i : ℕ} {d : KnowledgeDocument} (h : documents[i]? = some d) :
    (toQdrantPointId rt d.id, ⟨vectors[i]?, payloadOf d⟩) ∈ indexRows rt documents vectors := by
  have hmem : (⟨d, vectors[i]?⟩ : IndexItem) ∈ indexItems documents vectors :=
    List.mem_map.2 ⟨(d, i), List.mk_mem_zipIdx_iff_getElem?.2 h, rfl⟩
  exact List.mem_map.2 ⟨_, hmem, rfl⟩

theorem row_of_mem {k : String} {p : Point} (h : (k, p) ∈ indexRows rt documents vectors) :
    ∃ d ∈ documents, k = toQdrantPointId rt d.id ∧ p.payload = payloadOf d := by
  obtain ⟨item, hitem, hrow⟩ := List.mem_map.1 h
  obtain ⟨⟨d, i⟩, hd, rfl⟩ := List.mem_map.1 hitem
  have hdoc : d ∈ documents := List.mem_of_getElem? (List.mk_mem_zipIdx_iff_getElem?.1 hd)
  exact ⟨d, hdoc, (congrArg Prod.fst hrow).symm, (congrArg (fun e => e.2.payload) hrow).symm⟩

theorem flatten_chunk : (chunk documents vectors 32).flatten = indexItems documents vectors :=
  flatten_batches (by decide) _

theorem Written.points (h : Written rt base plan [] collection) :
    ∃ c, collection = some c ∧ c.points = base.upsert (indexRows rt plan.documents plan.vectors) := by
  obtain ⟨done, c, hdone, hc, hpoints⟩ := h
  rw [List.append_nil] at hdone
  refine ⟨c, hc, ?_⟩
  rw [hpoints, ← hdone, flatten_chunk]
  rfl

/-- **When no batch is left the corpus is indexed.** -/
theorem Written.indexed (h : Written rt base plan [] collection)
    (hids : (plan.documents.map fun d => toQdrantPointId rt d.id).Nodup) : Indexed rt plan.documents plan.vectors collection := by
  obtain ⟨c, hc, hpoints⟩ := h.points
  refine ⟨c, hc, fun i d hd => ?_⟩
  rw [hpoints]
  exact AList.lookup_upsert_of_mem (keys_indexRows ▸ hids) (row_mem hd)

theorem Written.onlyOf (h : Written rt ∅ plan [] collection) : OnlyOf rt plan.documents collection := by
  obtain ⟨c, hc, hpoints⟩ := h.points
  intro c' hc' k hk
  cases Option.some.inj (hc.symm.trans hc')
  obtain ⟨p, hp⟩ := Option.isSome_iff_exists.1 (AList.lookup_isSome.2 hk)
  rw [hpoints] at hp
  rcases AList.lookup_upsert_cases hp with hmem | hempty
  · obtain ⟨d, hd, hkey, -⟩ := row_of_mem hmem
    exact ⟨d, hd, hkey⟩
  · cases hempty

theorem Written.next {batch : List IndexItem} (h : Written rt base plan (batch :: rest) collection) :
    Written rt base plan rest (collection.map (VectorStore.upsertItems rt batch)) := by
  obtain ⟨done, c, hdone, rfl, hpoints⟩ := h
  refine ⟨done ++ [batch], _, by rw [hdone, List.append_assoc]; rfl, rfl, ?_⟩
  simp only [VectorStore.upsertItems, hpoints, List.flatten_append, List.flatten_singleton, List.map_append, AList.upsert_append]

/-- Nothing is written yet. -/
theorem written_start {c : Collection} : Written rt c.points plan (chunk plan.documents plan.vectors 32) (some c) :=
  ⟨[], c, rfl, rfl, rfl⟩

/-! ## What the functions do -/

theorem ensureSynced_cases (s : VectorStore) :
    s.ensureSynced = s ∨ s.syncPromise = none ∧ s.ensureSynced = { s with syncPromise := some .readingCorpus } := by
  unfold ensureSynced
  cases h : s.syncPromise with
  | none => exact .inr ⟨rfl, rfl⟩
  | some sync => exact .inl rfl

theorem reindex_cases (s : VectorStore) :
    (∃ sync, s.syncPromise = some sync ∧ s.reindex = { s with syncedSignature := none, forceRecreateOnNextSync := true }) ∨
      s.syncPromise = none ∧
        s.reindex = { s with syncPromise := some .readingCorpus, syncedSignature := none, forceRecreateOnNextSync := true } := by
  unfold VectorStore.reindex ensureSynced
  cases h : s.syncPromise with
  | none => exact .inr ⟨rfl, rfl⟩
  | some sync => exact .inl ⟨sync, rfl, rfl⟩

theorem hasCorpus_cases (rt : Runtime) (documents : List KnowledgeDocument) (s : VectorStore) :
    some (computeSignature rt documents) = s.syncedSignature ∧ s.hasCorpus rt documents = s.settle none ∨
      some (computeSignature rt documents) ≠ s.syncedSignature ∧
        s.hasCorpus rt documents = { s with syncPromise := some (.embedding documents (computeSignature rt documents)) } := by
  unfold hasCorpus
  by_cases h : some (computeSignature rt documents) = s.syncedSignature
  · exact .inl ⟨h, if_pos h⟩
  · exact .inr ⟨h, if_neg h⟩

theorem hasVectors_cases (documents : List KnowledgeDocument) (signature : String) (vectors : Option (List Embedding))
    (s : VectorStore) :
    (∃ error, s.hasVectors documents signature vectors = s.settle (some error)) ∨
      ∃ vectors' size, vectors = some vectors' ∧ s.hasVectors documents signature vectors =
        { s with syncPromise := some (.looking ⟨documents, signature, vectors'⟩ size s.forceRecreateOnNextSync) } := by
  unfold hasVectors
  split
  · exact .inl ⟨_, rfl⟩
  · exact .inl ⟨_, rfl⟩
  · split
    · exact .inl ⟨_, rfl⟩
    · exact .inr ⟨_, _, rfl, rfl⟩

/-- The collection is made anew. -/
def VectorStore.recreates (s : VectorStore) (vectorSize : ℕ) (forceRecreate : Bool) : Bool :=
  s.collection.all fun c => forceRecreate || extractVectorSize c.vectors != some vectorSize

theorem looked_cases (plan : Plan) (size : ℕ) (force : Bool) (s : VectorStore) :
    (s.recreates size force = true ∧ ∃ sync, (sync = .creating plan size ∨ sync = .deleting plan size) ∧
      s.looked plan size force = { s with syncPromise := some sync }) ∨
      (s.recreates size force = false ∧ ∃ c, s.collection = some c ∧
        s.looked plan size force = s.writeOn plan (chunk plan.documents plan.vectors 32)) := by
  unfold looked recreates
  cases hc : s.collection with
  | none => exact .inl ⟨rfl, _, .inl rfl, rfl⟩
  | some c =>
    dsimp only [Option.all_some]
    split
    · rename_i h
      exact .inr ⟨by simp_all, c, rfl, rfl⟩
    · rename_i h
      refine .inl ⟨?_, _, .inr rfl, rfl⟩
      cases force <;> simp_all

/-- **The rest is written from what is written already.** -/
theorem writeOn_writes (h : Written rt base plan rest s.collection) : (s.writeOn plan rest).Writes rt base plan := by
  cases rest with
  | nil => exact .inr ⟨rfl, rfl, rfl, h⟩
  | cons batch rest => exact .inl ⟨batch, rest, rfl, h⟩

@[simp] theorem writeOn_collection (plan : Plan) (rest : List (List IndexItem)) (s : VectorStore) :
    (s.writeOn plan rest).collection = s.collection := by
  cases rest <;> rfl

/-- A sync that writes nothing leaves the collection, whatever becomes of its request. -/
theorem mayLeave_of_reads {sync : Sync} {collection' : Option Collection} (h : sync.MayLeave rt collection collection')
    (hreads : sync.writes = false) : collection' = collection := by
  rcases h with h | h
  · exact h
  · cases sync <;> first | exact h.elim | cases hreads

/-! ## What a step keeps -/

/-- **What a sync works on was read**: now, or before. -/
theorem corpus_step {sync' : Sync} {signature : String} (step : Step rt s label s') (hs' : s'.syncPromise = some sync')
    (hcorpus : sync'.corpus? = some (documents, signature)) :
    (∃ sync, s.syncPromise = some sync ∧ sync.corpus? = some (documents, signature)) ∨
      ∃ products, label = .corpus products ∧ documents = buildKnowledgeDocuments rt products ∧
        signature = computeSignature rt documents := by
  have hwriteOn : ∀ {plan : Plan} {rest : List (List IndexItem)} {t : VectorStore}, (t.writeOn plan rest).syncPromise = some sync' →
      (documents, signature) = (plan.documents, plan.signature) := by
    intro plan rest t ht
    cases rest with
    | nil => cases ht; cases hcorpus
    | cons batch rest => cases ht; exact (Option.some.inj hcorpus).symm
  cases step with
  | ensureSynced =>
    rcases ensureSynced_cases s with h | ⟨-, h⟩ <;> rw [h] at hs'
    · exact .inl ⟨sync', hs', hcorpus⟩
    · cases hs'; cases hcorpus
  | reindex =>
    rcases reindex_cases s with ⟨sync, hsync, h⟩ | ⟨-, h⟩ <;> rw [h] at hs'
    · exact .inl ⟨sync', hs', hcorpus⟩
    · cases hs'; cases hcorpus
  | corpus products _ _ =>
    rcases hasCorpus_cases rt (buildKnowledgeDocuments rt products) s with ⟨-, h⟩ | ⟨-, h⟩ <;> rw [h] at hs' <;> cases hs'
    · cases hcorpus
    · cases hcorpus
      exact .inr ⟨products, rfl, rfl, rfl⟩
  | @vectors docs sig vectors hs =>
    rcases hasVectors_cases docs sig vectors s with ⟨error, h⟩ | ⟨vectors', size, -, h⟩ <;> rw [h] at hs' <;> cases hs'
    · cases hcorpus
    · exact .inl ⟨_, hs, hcorpus⟩
  | @looked plan size force hs =>
    refine .inl ⟨_, hs, ?_⟩
    rcases looked_cases plan size force s with ⟨-, sync, rfl | rfl, h⟩ | ⟨-, c, -, h⟩ <;> rw [h] at hs'
    · cases hs'; exact hcorpus
    · cases hs'; exact hcorpus
    · rw [hwriteOn hs']; rfl
  | deleted hs =>
    cases hs'
    exact .inl ⟨_, hs, hcorpus⟩
  | created hs _ => exact .inl ⟨_, hs, by rw [hwriteOn hs']; rfl⟩
  | upserted hs _ => exact .inl ⟨_, hs, by rw [hwriteOn hs']; rfl⟩
  | failed => cases hs'; cases hcorpus
  | cleared => cases hs'
  | noted => exact .inl ⟨sync', hs', hcorpus⟩
  | restarted => cases hs'

/-- **A sync that ends well or goes on writing has carried out its plan so far**, or it found the signature unchanged. -/
theorem writes_step (step : Step rt s label s')
    (hwritten : ∀ plan batch rest, s.syncPromise = some (.upserting plan batch rest) →
      ∃ base, Written rt base plan (batch :: rest) s.collection)
    (hs' : (∃ plan batch rest, s'.syncPromise = some (.upserting plan batch rest)) ∨ s'.syncPromise = some (.settled none) ∧ ¬ s.over) :
    (∃ base plan, (∃ sync, s.syncPromise = some sync ∧ sync.plan? = some plan) ∧ s'.Writes rt base plan) ∨
      ∃ products, label = .corpus products ∧ s.syncPromise = some .readingCorpus ∧
        some (computeSignature rt (buildKnowledgeDocuments rt products)) = s.syncedSignature ∧ s' = s.settle none := by
  have hstays : ∀ plan batch rest, s.syncPromise = some (.upserting plan batch rest) → s'.syncPromise = s.syncPromise →
      s'.collection = s.collection → ∃ base plan,
        (∃ sync, s.syncPromise = some sync ∧ sync.plan? = some plan) ∧ s'.Writes rt base plan := by
    intro plan batch rest hs hsame hcol
    obtain ⟨base, h⟩ := hwritten plan batch rest hs
    exact ⟨base, plan, ⟨_, hs, rfl⟩, .inl ⟨batch, rest, hsame.trans hs, hcol ▸ h⟩⟩
  have hsame : s'.syncPromise = s.syncPromise → s'.collection = s.collection → ∃ base plan,
      (∃ sync, s.syncPromise = some sync ∧ sync.plan? = some plan) ∧ s'.Writes rt base plan := by
    intro hp hcol
    rcases hs' with ⟨plan, batch, rest, h⟩ | ⟨h, hopen⟩
    · exact hstays plan batch rest (hp ▸ h) hp hcol
    · exact absurd ⟨none, hp ▸ h⟩ hopen
  cases step with
  | ensureSynced =>
    rcases ensureSynced_cases s with h | ⟨-, h⟩
    · exact .inl (hsame (by rw [h]) (by rw [h]))
    · rw [h] at hs'
      rcases hs' with ⟨_, _, _, hs'⟩ | ⟨hs', -⟩ <;> cases hs'
  | reindex =>
    rcases reindex_cases s with ⟨sync, hsync, h⟩ | ⟨-, h⟩
    · exact .inl (hsame (by rw [h]) (by rw [h]))
    · rw [h] at hs'
      rcases hs' with ⟨_, _, _, hs'⟩ | ⟨hs', -⟩ <;> cases hs'
  | corpus products _ hs =>
    rcases hasCorpus_cases rt (buildKnowledgeDocuments rt products) s with ⟨hsig, h⟩ | ⟨-, h⟩
    · exact .inr ⟨products, rfl, hs, hsig, h⟩
    · rw [h] at hs'
      rcases hs' with ⟨_, _, _, hs'⟩ | ⟨hs', -⟩ <;> cases hs'
  | @vectors docs sig vectors hs =>
    rcases hasVectors_cases docs sig vectors s with ⟨error, h⟩ | ⟨vectors', size, -, h⟩ <;> rw [h] at hs' <;>
      rcases hs' with ⟨_, _, _, hs'⟩ | ⟨hs', -⟩ <;> cases hs'
  | @looked plan size force hs =>
    rcases looked_cases plan size force s with ⟨-, sync, rfl | rfl, h⟩ | ⟨-, c, hc, h⟩ <;> rw [h] at hs' ⊢
    · rcases hs' with ⟨_, _, _, hs'⟩ | ⟨hs', -⟩ <;> cases hs'
    · rcases hs' with ⟨_, _, _, hs'⟩ | ⟨hs', -⟩ <;> cases hs'
    · refine .inl ⟨c.points, plan, ⟨_, hs, rfl⟩, writeOn_writes ?_⟩
      rw [hc]
      exact written_start
  | deleted hs => rcases hs' with ⟨_, _, _, hs'⟩ | ⟨hs', -⟩ <;> cases hs'
  | @created plan size hs _ => exact .inl ⟨∅, plan, ⟨_, hs, rfl⟩, writeOn_writes written_start⟩
  | @upserted plan batch rest hs _ =>
    obtain ⟨base, h⟩ := hwritten plan batch rest hs
    exact .inl ⟨base, plan, ⟨_, hs, rfl⟩, writeOn_writes h.next⟩
  | failed => rcases hs' with ⟨_, _, _, hs'⟩ | ⟨hs', -⟩ <;> cases hs'
  | cleared => rcases hs' with ⟨_, _, _, hs'⟩ | ⟨hs', -⟩ <;> cases hs'
  | noted => exact .inl (hsame rfl rfl)
  | restarted => rcases hs' with ⟨_, _, _, hs'⟩ | ⟨hs', -⟩ <;> cases hs'

/-- **What a sync carries out was given for its corpus**: now, or before. -/
theorem plan_step {sync' : Sync} (step : Step rt s label s') (hs' : s'.syncPromise = some sync') (hplan : sync'.plan? = some plan) :
    (∃ sync, s.syncPromise = some sync ∧ sync.plan? = some plan) ∨
      ∃ signature, label = .vectors (some plan.vectors) ∧ s.syncPromise = some (.embedding plan.documents signature) := by
  have hwriteOn : ∀ {plan' : Plan} {rest : List (List IndexItem)} {t : VectorStore}, (t.writeOn plan' rest).syncPromise = some sync' →
      plan' = plan := by
    intro plan' rest t ht
    cases rest with
    | nil => cases ht; cases hplan
    | cons batch rest => cases ht; exact Option.some.inj hplan
  cases step with
  | ensureSynced =>
    rcases ensureSynced_cases s with h | ⟨-, h⟩ <;> rw [h] at hs'
    · exact .inl ⟨sync', hs', hplan⟩
    · cases hs'; cases hplan
  | reindex =>
    rcases reindex_cases s with ⟨sync, hsync, h⟩ | ⟨-, h⟩ <;> rw [h] at hs'
    · exact .inl ⟨sync', hs', hplan⟩
    · cases hs'; cases hplan
  | corpus products _ _ =>
    rcases hasCorpus_cases rt (buildKnowledgeDocuments rt products) s with ⟨-, h⟩ | ⟨-, h⟩ <;> rw [h] at hs' <;> cases hs' <;> cases hplan
  | @vectors docs sig vectors hs =>
    rcases hasVectors_cases docs sig vectors s with ⟨error, h⟩ | ⟨vectors', size, rfl, h⟩ <;> rw [h] at hs' <;> cases hs' <;> cases hplan
    exact .inr ⟨sig, rfl, hs⟩
  | @looked plan size force hs =>
    refine .inl ⟨_, hs, ?_⟩
    rcases looked_cases plan size force s with ⟨-, sync, rfl | rfl, h⟩ | ⟨-, c, -, h⟩ <;> rw [h] at hs'
    · cases hs'; exact hplan
    · cases hs'; exact hplan
    · exact congrArg some (hwriteOn hs')
  | deleted hs =>
    cases hs'
    exact .inl ⟨_, hs, hplan⟩
  | created hs _ => exact .inl ⟨_, hs, congrArg some (hwriteOn hs')⟩
  | upserted hs _ => exact .inl ⟨_, hs, congrArg some (hwriteOn hs')⟩
  | failed => cases hs'; cases hplan
  | cleared => cases hs'
  | noted => exact .inl ⟨sync', hs', hplan⟩
  | restarted => cases hs'

/-! ## Whole runs -/

theorem CorpusRead.mono {moves' : List (Move VectorStore Label)} (h : CorpusRead rt moves documents) :
    CorpusRead rt (moves ++ moves') documents := by
  obtain ⟨m, hm, h⟩ := h
  exact ⟨m, List.mem_append_left _ hm, h⟩

theorem Embedded.mono {moves' : List (Move VectorStore Label)} (h : Embedded rt moves documents vectors) :
    Embedded rt (moves ++ moves') documents vectors := by
  obtain ⟨before, m, after, rfl, hm⟩ := h
  exact ⟨before, m, after ++ moves', by simp, hm⟩

theorem lastCorpus_snoc (moves : List (Move VectorStore Label)) (m : Move VectorStore Label) :
    lastCorpus rt (moves ++ [m]) = match m.label with
      | .corpus products => some (buildKnowledgeDocuments rt products)
      | _ => lastCorpus rt moves := by
  unfold lastCorpus
  rw [List.foldl_append]
  rfl

theorem lastVectors_snoc (moves : List (Move VectorStore Label)) (m : Move VectorStore Label) :
    lastVectors (moves ++ [m]) = match m.label with
      | .vectors (some vectors) => some vectors
      | _ => lastVectors moves := by
  unfold lastVectors
  rw [List.foldl_append]
  rfl

theorem corpusRead_of_last : ∀ {moves : List (Move VectorStore Label)}, lastCorpus rt moves = some documents →
    CorpusRead rt moves documents := by
  intro moves
  induction moves using List.reverseRecOn with
  | nil => exact fun h => nomatch h
  | append_singleton moves m ih =>
    intro h
    rw [lastCorpus_snoc] at h
    split at h
    · rename_i products hlabel
      cases h
      exact ⟨m, List.mem_append_right _ List.mem_cons_self, products, hlabel, rfl⟩
    · exact (ih h).mono

theorem Embedded.read (h : Embedded rt moves documents vectors) : CorpusRead rt moves documents := by
  obtain ⟨before, m, after, rfl, -, hlast⟩ := h
  exact (corpusRead_of_last hlast).mono

/-- What the sync works on was read last, its vectors were given last, and what it has written is in the collection. -/
structure Known (rt : Runtime) (moves : List (Move VectorStore Label)) (s : VectorStore) : Prop where
  corpus : ∀ sync documents signature, s.syncPromise = some sync → sync.corpus? = some (documents, signature) →
    lastCorpus rt moves = some documents ∧ signature = computeSignature rt documents
  vectors : ∀ sync plan, s.syncPromise = some sync → sync.plan? = some plan →
    lastVectors moves = some plan.vectors ∧ Embedded rt moves plan.documents plan.vectors
  written : ∀ plan batch rest, s.syncPromise = some (.upserting plan batch rest) →
    ∃ base, Written rt base plan (batch :: rest) s.collection

theorem label_of_corpus {sync : Sync} {signature : String} (step : Step rt s label s') (hs : s.syncPromise = some sync)
    (hcorpus : sync.corpus? = some (documents, signature)) (products : List ProductContext) : label ≠ .corpus products := by
  rintro rfl
  cases step with
  | corpus _ _ hreading =>
    cases hreading.symm.trans hs
    cases hcorpus

theorem label_of_plan {sync : Sync} (step : Step rt s label s') (hs : s.syncPromise = some sync) (hplan : sync.plan? = some plan)
    (vectors : Option (List Embedding)) : label ≠ .vectors vectors := by
  rintro rfl
  cases step with
  | vectors _ hembedding =>
    cases hembedding.symm.trans hs
    cases hplan

theorem Known.step (h : Known rt moves s) (step : Step rt s label s') : Known rt (moves ++ [⟨s, label, s'⟩]) s' := by
  refine ⟨fun sync documents signature hs' hcorpus => ?_, fun sync plan hs' hplan => ?_, fun plan batch rest hs' => ?_⟩
  · rw [lastCorpus_snoc]
    rcases corpus_step step hs' hcorpus with ⟨sync, hs, hcorpus⟩ | ⟨products, rfl, rfl, hsig⟩
    · split
      · rename_i products hlabel
        exact absurd hlabel (label_of_corpus step hs hcorpus products)
      · exact h.corpus _ _ _ hs hcorpus
    · exact ⟨rfl, hsig⟩
  · rw [lastVectors_snoc]
    rcases plan_step step hs' hplan with ⟨sync, hs, hplan⟩ | ⟨signature, rfl, hs⟩
    · obtain ⟨hlast, hembedded⟩ := h.vectors _ _ hs hplan
      split
      · rename_i vectors hlabel
        exact absurd hlabel (label_of_plan step hs hplan _)
      · exact ⟨hlast, hembedded.mono⟩
    · exact ⟨rfl, moves, _, [], rfl, rfl, (h.corpus _ _ _ hs rfl).1⟩
  · rcases writes_step step h.written (.inl ⟨plan, batch, rest, hs'⟩) with ⟨base, plan', -, ⟨_, _, hp, hw⟩ | ⟨hp, -⟩⟩ | ⟨_, _, _, _, rfl⟩
    · cases hp.symm.trans hs'
      exact ⟨base, hw⟩
    · cases hp.symm.trans hs'
    · cases hs'

theorem known (collection : Option Collection) (run : Run (Step rt) (.started collection) moves s) : Known rt moves s := by
  refine run.invariant (fun _ => True) (Known rt)
    ⟨fun _ _ _ h => (by cases h), fun _ _ h => (by cases h), fun _ _ _ h => (by cases h)⟩ ?_ fun _ _ => trivial
  exact fun _ _ _ _ h step _ => h.step step

/-- A sync gives up while it writes, and the signature from before stays recorded. -/
def Spoils (m : Move VectorStore Label) : Prop :=
  (∃ error, m.label = .failed error) ∧ m.before.writing = true ∧ m.before.syncedSignature ≠ none

/-- A sync has written its corpus to the end, and records the signature. -/
def Records (m : Move VectorStore Label) : Prop :=
  m.after.syncPromise = some (.settled none) ∧ ¬ m.before.over ∧ ∀ products, m.label ≠ .corpus products

/-- Since a sync gave up while it wrote another has written its corpus to the end. -/
def Repaired (moves : List (Move VectorStore Label)) : Prop :=
  ∀ before m since, moves = before ++ m :: since → Spoils m → ∃ r ∈ since, Records r

/-- Where a signature is recorded and nothing is being written, a corpus of that signature is indexed. -/
def Kept (rt : Runtime) (moves : List (Move VectorStore Label)) (s : VectorStore) : Prop :=
  ∀ signature, s.syncedSignature = some signature → s.writing = false →
    ∃ documents vectors, Embedded rt moves documents vectors ∧ computeSignature rt documents = signature ∧
      Indexed rt documents vectors s.collection

theorem Kept.same (h : Kept rt moves s) (hcollection : s'.collection = s.collection)
    (hsignature : s'.syncedSignature = s.syncedSignature) (hwriting : s'.writing = false → s.writing = false) :
    Kept rt (moves ++ [⟨s, label, s'⟩]) s' := by
  intro signature hs hw
  obtain ⟨documents, vectors, hread, hsig, hindexed⟩ := h signature (hsignature ▸ hs) (hwriting hw)
  exact ⟨documents, vectors, hread.mono, hsig, hcollection ▸ hindexed⟩

theorem kept_none (h : s'.syncedSignature = none) : Kept rt (moves ++ [⟨s, label, s'⟩]) s' := by
  intro signature hs
  cases h.symm.trans hs

theorem kept_writing (h : s'.writing = true) : Kept rt (moves ++ [⟨s, label, s'⟩]) s' := by
  intro signature _ hw
  cases h.symm.trans hw

theorem writing_of {sync : Sync} (h : s.syncPromise = some sync) : s.writing = sync.writes := by
  unfold VectorStore.writing
  rw [h]
  rfl

theorem corpus_of_plan {sync : Sync} (h : sync.plan? = some plan) : sync.corpus? = some (plan.documents, plan.signature) := by
  cases sync <;> cases h <;> rfl

theorem distinct_of_read (hids : ∀ m ∈ moves, DistinctPoints rt m.label) (h : CorpusRead rt moves documents) :
    (documents.map fun d => toQdrantPointId rt d.id).Nodup := by
  obtain ⟨m, hm, products, hlabel, rfl⟩ := h
  exact hids m hm products hlabel

/-- What a sync has written to the end is indexed. -/
theorem kept_writes (known : Known rt moves s) (hids : ∀ m ∈ moves, DistinctPoints rt m.label)
    (hplan : ∃ sync, s.syncPromise = some sync ∧ sync.plan? = some plan) (h : s'.Writes rt base plan) :
    Kept rt (moves ++ [⟨s, label, s'⟩]) s' := by
  rcases h with ⟨batch, rest, hp, -⟩ | ⟨-, hsig, -, hw⟩
  · exact kept_writing (writing_of hp)
  · obtain ⟨sync, hs, hplan⟩ := hplan
    obtain ⟨-, hembedded⟩ := known.vectors _ _ hs hplan
    obtain ⟨-, hsignature⟩ := known.corpus _ _ _ hs (corpus_of_plan hplan)
    intro signature hs' _
    refine ⟨plan.documents, plan.vectors, hembedded.mono, ?_, hw.indexed (distinct_of_read hids hembedded.read)⟩
    rw [← hsignature]
    exact Option.some.inj (hsig.symm.trans hs')

/-- **The recorded signature stands for what is indexed**, unless a move spoils it. -/
theorem Kept.step (h : Kept rt moves s) (known : Known rt moves s) (hids : ∀ m ∈ moves, DistinctPoints rt m.label)
    (step : Step rt s label s') (hkept : ¬ Spoils ⟨s, label, s'⟩) : Kept rt (moves ++ [⟨s, label, s'⟩]) s' := by
  cases step with
  | ensureSynced =>
    rcases ensureSynced_cases s with hs | ⟨hnone, hs⟩ <;> rw [hs]
    · exact h.same rfl rfl id
    · refine h.same rfl rfl fun _ => ?_
      unfold VectorStore.writing
      rw [hnone]
      rfl
  | reindex => rcases reindex_cases s with ⟨sync, _, hs⟩ | ⟨_, hs⟩ <;> rw [hs] <;> exact kept_none rfl
  | corpus products _ hs =>
    rcases hasCorpus_cases rt (buildKnowledgeDocuments rt products) s with ⟨-, hs'⟩ | ⟨-, hs'⟩ <;> rw [hs'] <;>
      exact h.same rfl rfl fun _ => writing_of hs
  | @vectors docs sig vectors hs =>
    rcases hasVectors_cases docs sig vectors s with ⟨error, hs'⟩ | ⟨vectors', size, -, hs'⟩ <;> rw [hs'] <;>
      exact h.same rfl rfl fun _ => writing_of hs
  | @looked plan size force hs =>
    rcases looked_cases plan size force s with ⟨-, sync, rfl | rfl, hs'⟩ | ⟨-, c, hc, hs'⟩ <;> rw [hs']
    · exact kept_writing rfl
    · exact kept_writing rfl
    · exact kept_writes known hids ⟨_, hs, rfl⟩ (writeOn_writes (hc ▸ written_start))
  | deleted hs => exact kept_writing rfl
  | created hs _ => exact kept_writes known hids ⟨_, hs, rfl⟩ (writeOn_writes written_start)
  | @upserted plan batch rest hs _ =>
    obtain ⟨base, hw⟩ := known.written plan batch rest hs
    exact kept_writes known hids ⟨_, hs, rfl⟩ (writeOn_writes hw.next)
  | @failed sync error collection hs _ hleft =>
    cases hw : sync.writes with
    | false => exact h.same (mayLeave_of_reads hleft hw) rfl fun _ => (writing_of hs).trans hw
    | true =>
      by_cases hsig : s.syncedSignature = none
      · exact kept_none hsig
      · exact absurd ⟨⟨error, rfl⟩, (writing_of hs).trans hw, hsig⟩ hkept
  | cleared hs => exact h.same rfl rfl fun _ => writing_of hs
  | noted => exact h.same rfl rfl id
  | restarted => exact kept_none rfl

/-- **A sync that writes to the end repairs** whatever was spoiled before. -/
theorem kept_records (known : Known rt moves s) (hids : ∀ m ∈ moves, DistinctPoints rt m.label) (step : Step rt s label s')
    (hrecords : Records ⟨s, label, s'⟩) : Kept rt (moves ++ [⟨s, label, s'⟩]) s' := by
  obtain ⟨hend, hopen, hlabel⟩ := hrecords
  rcases writes_step step known.written (.inr ⟨hend, hopen⟩) with ⟨base, plan, hplan, hwrites⟩ | ⟨products, hcorpus, -⟩
  · exact kept_writes known hids hplan hwrites
  · exact absurd hcorpus (hlabel products)

/-- What is repaired with the last move was before it, where that move writes nothing to the end. -/
theorem Repaired.before {m : Move VectorStore Label} (h : Repaired (moves ++ [m])) (hm : ¬ Records m) : Repaired moves ∧ ¬ Spoils m := by
  refine ⟨fun before m' since heq hspoils => ?_, fun hspoils => ?_⟩
  · obtain ⟨r, hr, hrecords⟩ := h before m' (since ++ [m]) (by rw [heq]; simp) hspoils
    rcases List.mem_append.1 hr with hr | hr
    · exact ⟨r, hr, hrecords⟩
    · exact absurd (List.mem_singleton.1 hr ▸ hrecords) hm
  · obtain ⟨r, hr, -⟩ := h moves m [] rfl hspoils
    cases hr

theorem kept (collection : Option Collection) (run : Run (Step rt) (.started collection) moves s)
    (hids : ∀ m ∈ moves, DistinctPoints rt m.label) (hrepaired : Repaired moves) : Kept rt moves s := by
  have hall := run.invariant (fun m => DistinctPoints rt m.label)
    (fun moves s => (∀ m ∈ moves, DistinctPoints rt m.label) ∧ Known rt moves s ∧ (Repaired moves → Kept rt moves s))
    ⟨fun m hm => (by cases hm), known collection .start, fun _ _ h => (by cases h)⟩ ?_ hids
  · exact hall.2.2 hrepaired
  · intro moves s label s' h step hm
    refine ⟨fun m hmem => ?_, h.2.1.step step, fun hrepaired => ?_⟩
    · rcases List.mem_append.1 hmem with hmem | hmem
      · exact h.1 m hmem
      · rw [List.mem_singleton.1 hmem]
        exact hm
    · by_cases hrecords : Records ⟨s, label, s'⟩
      · exact kept_records h.2.1 h.1 step hrecords
      · obtain ⟨hbefore, hspoils⟩ := hrepaired.before hrecords
        exact (h.2.2 hbefore).step h.2.1 h.1 step hspoils

/-- **After a sync that ends well the index has the corpus that it read**, each document with the vector it was given for it; or, where
the sync found the signature unchanged and whatever gave up while it wrote was made good since, an earlier corpus with the same
signature, with the vectors given for that. -/
theorem sync_indexes (collection : Option Collection) (run : Run (Step rt) (.started collection) moves s)
    (hids : ∀ m ∈ moves, DistinctPoints rt m.label) {pre post : List (Move VectorStore Label)} {m : Move VectorStore Label}
    (hm : moves = pre ++ m :: post) (hopen : ¬ m.before.over) (hend : m.after.syncPromise = some (.settled none))
    (hkept : (∃ products, m.label = .corpus products) → Repaired pre) :
    ∃ read documents vectors, lastCorpus rt (pre ++ [m]) = some read ∧ Embedded rt pre documents vectors ∧
      computeSignature rt documents = computeSignature rt read ∧
      ((∀ products, m.label ≠ .corpus products) → documents = read ∧ lastVectors pre = some vectors) ∧
      Indexed rt documents vectors m.after.collection := by
  obtain ⟨hpre, -⟩ := run.split hm
  have hids' : ∀ m' ∈ pre, DistinctPoints rt m'.label := fun m' hm' => hids m' (hm ▸ List.mem_append_left _ hm')
  have step : Step rt m.before m.label m.after := run.mem (hm ▸ List.mem_append_right _ List.mem_cons_self)
  have hknown := known collection hpre
  rw [lastCorpus_snoc]
  rcases writes_step step hknown.written (.inr ⟨hend, hopen⟩) with
    ⟨base, plan, ⟨sync, hs, hplan⟩, hwrites⟩ | ⟨products, hlabel, hs, hsig, hafter⟩
  · obtain ⟨_, _, hp, _⟩ | ⟨-, -, -, hw⟩ := hwrites
    · cases hend.symm.trans hp
    · obtain ⟨hlast, hembedded⟩ := hknown.vectors _ _ hs hplan
      obtain ⟨hcorpus, -⟩ := hknown.corpus _ _ _ hs (corpus_of_plan hplan)
      refine ⟨plan.documents, plan.documents, plan.vectors, ?_, hembedded, rfl, fun _ => ⟨rfl, hlast⟩,
        hw.indexed (distinct_of_read hids' hembedded.read)⟩
      split
      · rename_i products hlabel
        exact absurd hlabel (label_of_corpus step hs (corpus_of_plan hplan) products)
      · exact hcorpus
  · obtain ⟨documents, vectors, hembedded, hsame, hindexed⟩ := kept collection hpre hids' (hkept ⟨products, hlabel⟩) _ hsig.symm
      (writing_of hs)
    refine ⟨buildKnowledgeDocuments rt products, documents, vectors, by rw [hlabel], hembedded, hsame, ?_, ?_⟩
    · exact fun hno => absurd hlabel (hno products)
    · rw [hafter]
      exact hindexed

end

/-! ### A first sync -/

def sampleRuntime : Runtime where
  localeText := JsNumber.text
  sha1 input := toString input.length
  sha256 input := List.replicate 32 (UInt8.ofNat (input.toList.map Char.toNat).sum)

def sampleVectors : List Embedding := [[.num 0], [.num 1], [.num 2], [.num 3]]

/-- A collection with a point of a document that is no more. -/
def oldCollection : Collection := ⟨some (.single 1), (∅ : Table String Point).insert "old" ⟨none, .null⟩⟩

theorem samplePoints : ((buildKnowledgeDocuments sampleRuntime []).map fun d => toQdrantPointId sampleRuntime d.id).Nodup := by decide

/-- The first sync after the start keeps the collection, and its one batch is sent. -/
theorem sampleRun : ∃ pre s plan batch, Run (Step sampleRuntime) (started (some oldCollection)) pre s ∧
    s.syncPromise = some (.upserting plan batch []) ∧ s.collection = some oldCollection ∧
      ∀ m ∈ pre, DistinctPoints sampleRuntime m.label := by
  have hstart : Run (Step sampleRuntime) (started (some oldCollection)) [] (started (some oldCollection)) := .start
  have run := (((hstart.step .ensureSynced).step (.corpus [] List.nodup_nil rfl)).step (.vectors (some sampleVectors) rfl)).step
    (.looked rfl)
  refine ⟨_, _, _, _, run, rfl, rfl, ?_⟩
  simp only [DistinctPoints, List.nil_append, List.cons_append, List.mem_cons, List.not_mem_nil, or_false, forall_eq_or_imp, forall_eq,
    reduceCtorEq, false_imp_iff, implies_true, true_and, and_true, Label.corpus.injEq]
  rintro _ rfl
  exact samplePoints

/-- `sync_indexes` of this sync. -/
theorem sampleSync_indexes : ∃ pre m read vectors, Run (Step sampleRuntime) (started (some oldCollection)) (pre ++ [m]) m.after ∧
    lastCorpus sampleRuntime (pre ++ [m]) = some read ∧ lastVectors pre = some vectors ∧
      Indexed sampleRuntime read vectors m.after.collection := by
  obtain ⟨pre, s, plan, batch, run, hs, hc, hids⟩ := sampleRun
  have run' := run.step (.upserted hs (by rw [hc]; rfl))
  have hlast : DistinctPoints sampleRuntime .upserted := fun _ h => by cases h
  obtain ⟨read, documents, vectors, hread, -, -, hsame, hindexed⟩ := sync_indexes (some oldCollection) run'
    (fun m hm => by
      rcases List.mem_append.1 hm with hm | hm
      · exact hids m hm
      · rw [List.mem_singleton.1 hm]
        exact hlast) rfl (fun ⟨_, hover⟩ => by cases hs.symm.trans hover) rfl fun ⟨_, h⟩ => by cases h
  obtain ⟨rfl, hvectors⟩ := hsame nofun
  exact ⟨pre, _, documents, vectors, run', hread, hvectors, hindexed⟩

end Balii.Chatbot
