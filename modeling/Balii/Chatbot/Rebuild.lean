import Balii.Chatbot.IndexSync
/-!
# Chatbot.Rebuild — a rebuild asked for while a sync is under way

`reindex` asks the next sync to make the collection anew and waits for the sync that is under way.  Which one reads the request, and
what the administrator is told is rebuilt, depends on how far that sync is.
-/
namespace Balii.Chatbot

open Batches Machine VectorStore

/-- A rebuild that is asked for now is done by the sync it waits for. -/
def VectorStore.rebuilds (s : VectorStore) : Bool :=
  match s.syncPromise with
  | none | some .readingCorpus | some (.embedding ..) | some (.deleting ..) | some (.creating ..) => true
  | some (.looking _ size force) => s.recreates size force
  | some (.upserting ..) | some (.settled _) => false

/-- As if no rebuild were asked for. -/
def Label.asSearch : Label → Label
  | reindex => ensureSynced
  | label => label

def Recreated (moves : List (Move VectorStore Label)) : Prop := ∃ m ∈ moves, m.label = .created

/-- The plan is of the corpus that was read last, and of the vectors that were given last. -/
def LastRead (rt : Runtime) (moves : List (Move VectorStore Label)) (plan : Plan) : Prop :=
  lastCorpus rt moves = some plan.documents ∧ lastVectors moves = some plan.vectors

/-- The sync will make the collection anew, or has and writes into the new one. -/
def Rebuilding (rt : Runtime) (pre moves : List (Move VectorStore Label)) (s : VectorStore) : Prop :=
  match s.syncPromise with
  | none => False
  | some .readingCorpus | some (.embedding ..) => s.syncedSignature = none ∧ s.forceRecreateOnNextSync = true
  | some (.looking _ size force) => s.recreates size force = true
  | some (.deleting ..) | some (.creating ..) | some (.settled (some _)) => True
  | some (.upserting plan batch rest) => Recreated moves ∧ Written rt ∅ plan (batch :: rest) s.collection
  | some (.settled none) => Recreated moves ∧ ∃ plan, LastRead rt (pre ++ moves) plan ∧ Written rt ∅ plan [] s.collection

/-- The sync writes into the collection that is there. -/
def Keeping (s : VectorStore) : Prop :=
  match s.syncPromise with
  | some (.looking _ size force) => s.recreates size force = false
  | some (.upserting ..) | some (.settled _) => True
  | _ => False

section
variable {rt : Runtime} {plan : Plan} {s s' : VectorStore} {label : Label} {pre moves : List (Move VectorStore Label)}

/-! ## The request is read -/

theorem Recreated.mono {moves' : List (Move VectorStore Label)} (h : Recreated moves) : Recreated (moves ++ moves') := by
  obtain ⟨m, hm, h⟩ := h
  exact ⟨m, List.mem_append_left _ hm, h⟩

theorem LastRead.snoc {m : Move VectorStore Label} (h : LastRead rt moves plan) (hcorpus : ∀ products, m.label ≠ .corpus products)
    (hvectors : ∀ vectors, m.label ≠ .vectors vectors) : LastRead rt (moves ++ [m]) plan := by
  refine ⟨?_, ?_⟩
  · rw [lastCorpus_snoc]
    split
    · rename_i products hlabel
      exact absurd hlabel (hcorpus products)
    · exact h.1
  · rw [lastVectors_snoc]
    split
    · rename_i vectors hlabel
      exact absurd hlabel (hvectors _)
    · exact h.2

theorem Known.lastRead {sync : Sync} (h : Known rt moves s) (hs : s.syncPromise = some sync) (hplan : sync.plan? = some plan) :
    LastRead rt moves plan :=
  ⟨(h.corpus _ _ _ hs (corpus_of_plan hplan)).1, (h.vectors _ _ hs hplan).1⟩

theorem Rebuilding.same {m : Move VectorStore Label} (h : Rebuilding rt pre moves s) (hpromise : s'.syncPromise = s.syncPromise)
    (hcollection : s'.collection = s.collection) (hopen : ∀ outcome, s.syncPromise ≠ some (.settled outcome))
    (hflags : s.syncedSignature = none ∧ s.forceRecreateOnNextSync = true → s'.syncedSignature = none ∧ s'.forceRecreateOnNextSync = true) :
    Rebuilding rt pre (moves ++ [m]) s' := by
  unfold Rebuilding at h ⊢
  rw [hpromise, hcollection]
  unfold recreates at h ⊢
  rw [hcollection]
  split at h
  · exact h
  · exact hflags h
  · exact hflags h
  · exact h
  · trivial
  · trivial
  · trivial
  · exact h.imp_left Recreated.mono
  · rename_i hs
    exact absurd hs (hopen none)

/-- What is written into the new collection goes on, or is all. -/
theorem rebuilding_writes {m : Move VectorStore Label} (hrec : Recreated (moves ++ [m])) (hread : LastRead rt (pre ++ moves) plan)
    (hcorpus : ∀ products, m.label ≠ .corpus products) (hvectors : ∀ vectors, m.label ≠ .vectors vectors)
    (h : s'.Writes rt ∅ plan) : Rebuilding rt pre (moves ++ [m]) s' := by
  unfold Rebuilding
  rcases h with ⟨batch, rest, hp, hw⟩ | ⟨hp, -, -, hw⟩ <;> rw [hp]
  · exact ⟨hrec, hw⟩
  · exact ⟨hrec, plan, by rw [← List.append_assoc]; exact hread.snoc hcorpus hvectors, hw⟩

theorem rebuilding_of_failed {error : String} (h : s'.syncPromise = some (.settled (some error))) : Rebuilding rt pre moves s' := by
  unfold Rebuilding
  rw [h]
  trivial

theorem Rebuilding.step (h : Rebuilding rt pre moves s) (known : Known rt (pre ++ moves) s) (step : Step rt s label s') (hopen : ¬ s.over)
    (hup : label ≠ .restarted) : Rebuilding rt pre (moves ++ [⟨s, label, s'⟩]) s' := by
  have hunsettled : ∀ outcome, s.syncPromise ≠ some (.settled outcome) := fun outcome hs => hopen ⟨outcome, hs⟩
  cases step with
  | ensureSynced =>
    rcases ensureSynced_cases s with hs | ⟨hnone, -⟩
    · rw [hs]
      exact h.same rfl rfl hunsettled id
    · unfold Rebuilding at h
      rw [hnone] at h
      exact h.elim
  | reindex =>
    rcases reindex_cases s with ⟨sync, _, hs⟩ | ⟨hnone, -⟩
    · rw [hs]
      exact h.same rfl rfl hunsettled fun _ => ⟨rfl, rfl⟩
    · unfold Rebuilding at h
      rw [hnone] at h
      exact h.elim
  | corpus products _ hs =>
    unfold Rebuilding at h
    rw [hs] at h
    rcases hasCorpus_cases rt (buildKnowledgeDocuments rt products) s with ⟨hsig, -⟩ | ⟨-, hs'⟩
    · cases hsig.trans h.1
    · rw [hs']
      exact h
  | @vectors docs sig vectors hs =>
    unfold Rebuilding at h
    rw [hs] at h
    rcases hasVectors_cases docs sig vectors s with ⟨error, hs'⟩ | ⟨vectors', size, -, hs'⟩ <;> rw [hs']
    · exact rebuilding_of_failed rfl
    · rw [h.2]
      simp [Rebuilding, recreates]
  | @looked plan size force hs =>
    unfold Rebuilding at h
    rw [hs] at h
    rcases looked_cases plan size force s with ⟨-, sync, rfl | rfl, hs'⟩ | ⟨hkeeps, -⟩
    · rw [hs']
      trivial
    · rw [hs']
      trivial
    · cases hkeeps.symm.trans h
  | deleted hs => trivial
  | created hs _ =>
    exact rebuilding_writes ⟨_, List.mem_append_right _ List.mem_cons_self, rfl⟩ (known.lastRead hs rfl) nofun nofun
      (writeOn_writes written_start)
  | upserted hs _ =>
    unfold Rebuilding at h
    rw [hs] at h
    exact rebuilding_writes h.1.mono (known.lastRead hs rfl) nofun nofun (writeOn_writes h.2.next)
  | failed => exact rebuilding_of_failed rfl
  | cleared hs => exact absurd ⟨_, hs⟩ hopen
  | noted => exact h.same rfl rfl hunsettled id
  | restarted => exact absurd rfl hup

theorem rebuilding_reindex (h : s.rebuilds = true) : Rebuilding rt pre [] s.reindex := by
  obtain ⟨collection, promise, signature, error, force⟩ := s
  unfold rebuilds at h
  cases promise with
  | none => exact ⟨rfl, rfl⟩
  | some sync =>
    cases sync with
    | readingCorpus => exact ⟨rfl, rfl⟩
    | embedding => exact ⟨rfl, rfl⟩
    | looking => exact h
    | deleting => trivial
    | creating => trivial
    | upserting => cases h
    | settled => cases h

theorem Known.reindex (h : Known rt moves s) : Known rt moves s.reindex := by
  rcases reindex_cases s with ⟨sync, _, hs⟩ | ⟨_, hs⟩ <;> rw [hs]
  · exact ⟨h.corpus, h.vectors, h.written⟩
  · exact ⟨fun _ _ _ hs hcorpus => (by cases hs; cases hcorpus), fun _ _ hs hplan => (by cases hs; cases hplan),
      fun _ _ _ hs => (by cases hs)⟩

/-! ## The request comes too late -/

/-- The two differ in what the next sync is asked for, until this one is done. -/
def SameButAsked (s t : VectorStore) : Prop :=
  s.syncPromise = t.syncPromise ∧ s.collection = t.collection ∧ s.lastError = t.lastError ∧ Keeping s ∧
    (s.syncPromise = some (.settled none) → s = t)

theorem keeping_writeOn (plan : Plan) (rest : List (List IndexItem)) (s : VectorStore) : Keeping (s.writeOn plan rest) := by
  cases rest <;> trivial

theorem sameButAsked_writeOn {t : VectorStore} (rest : List (List IndexItem)) (hcollection : s.collection = t.collection)
    (herror : s.lastError = t.lastError) : SameButAsked (s.writeOn plan rest) (t.writeOn plan rest) := by
  refine ⟨by cases rest <;> rfl, by simp [hcollection], by cases rest <;> simp [writeOn, herror], keeping_writeOn plan rest s, ?_⟩
  cases rest with
  | nil => exact fun _ => by simp only [writeOn, hcollection]
  | cons => exact fun h => by cases h

theorem SameButAsked.step {t : VectorStore} (h : SameButAsked s t) (step : Step rt s label s') (hopen : ¬ s.over)
    (hup : label ≠ .restarted) : label ≠ .created ∧ ∃ t', Step rt t label.asSearch t' ∧ SameButAsked s' t' := by
  obtain ⟨hpromise, hcollection, herror, hkeep, hdone⟩ := h
  have hsearch : Step rt t .ensureSynced t := by
    have hthere : t.ensureSynced = t := by
      rcases ensureSynced_cases t with h | ⟨hnone, -⟩
      · exact h
      · unfold Keeping at hkeep
        rw [hpromise, hnone] at hkeep
        exact hkeep.elim
    have hstep : Step rt t .ensureSynced t.ensureSynced := .ensureSynced
    rwa [hthere] at hstep
  have hnone : s.syncPromise ≠ none := by
    intro hnone
    unfold Keeping at hkeep
    rw [hnone] at hkeep
    exact hkeep
  have hnot : ∀ sync, (sync = .readingCorpus ∨ ∃ docs sig, sync = .embedding docs sig) → s.syncPromise ≠ some sync := by
    intro sync hsync hs
    unfold Keeping at hkeep
    rw [hs] at hkeep
    rcases hsync with rfl | ⟨_, _, rfl⟩ <;> exact hkeep
  cases step with
  | ensureSynced =>
    refine ⟨nofun, t, hsearch, ?_⟩
    rcases ensureSynced_cases s with hs | ⟨h, -⟩
    · rw [hs]
      exact ⟨hpromise, hcollection, herror, hkeep, hdone⟩
    · exact absurd h hnone
  | reindex =>
    refine ⟨nofun, t, hsearch, ?_⟩
    rcases reindex_cases s with ⟨sync, _, hs⟩ | ⟨h, -⟩
    · rw [hs]
      exact ⟨hpromise, hcollection, herror, hkeep, fun h => absurd ⟨none, h⟩ hopen⟩
    · exact absurd h hnone
  | corpus _ _ hs => exact absurd hs (hnot _ (.inl rfl))
  | vectors _ hs => exact absurd hs (hnot _ (.inr ⟨_, _, rfl⟩))
  | @looked plan size force hs =>
    refine ⟨nofun, _, .looked (hpromise ▸ hs), ?_⟩
    unfold Keeping at hkeep
    rw [hs] at hkeep
    have hkeep' : t.recreates size force = false := by
      unfold recreates at hkeep ⊢
      rwa [← hcollection]
    rcases looked_cases plan size force s with ⟨hrec, -⟩ | ⟨-, _, -, hs'⟩
    · cases hrec.symm.trans hkeep
    · rcases looked_cases plan size force t with ⟨hrec, -⟩ | ⟨-, _, -, ht'⟩
      · cases hrec.symm.trans hkeep'
      · rw [hs', ht']
        exact sameButAsked_writeOn _ hcollection herror
  | deleted hs =>
    unfold Keeping at hkeep
    rw [hs] at hkeep
    exact hkeep.elim
  | created hs _ =>
    unfold Keeping at hkeep
    rw [hs] at hkeep
    exact hkeep.elim
  | @upserted plan batch rest hs hthere =>
    exact ⟨nofun, _, .upserted (hpromise ▸ hs) (hcollection ▸ hthere), sameButAsked_writeOn rest (by rw [hcollection]) herror⟩
  | failed error collection hs hnotOver hleft =>
    refine ⟨nofun, _, .failed error collection (hpromise ▸ hs) hnotOver (hcollection ▸ hleft), rfl, rfl, herror, trivial, fun h => ?_⟩
    cases h
  | cleared hs => exact absurd ⟨_, hs⟩ hopen
  | noted lastError =>
    exact ⟨nofun, _, .noted lastError, hpromise, hcollection, rfl, hkeep, fun h => absurd ⟨none, h⟩ hopen⟩
  | restarted => exact absurd rfl hup

theorem keeping_of_late (h : s.rebuilds = false) : Keeping s := by
  unfold rebuilds at h
  unfold Keeping
  cases hs : s.syncPromise with
  | none =>
    rw [hs] at h
    cases h
  | some sync =>
    rw [hs] at h
    cases sync <;> first | exact h | trivial

theorem sameButAsked_reindex (h : s.rebuilds = false) (hopen : ¬ s.over) : SameButAsked s.reindex s := by
  rcases reindex_cases s with ⟨sync, hs, hs'⟩ | ⟨hs, -⟩
  · rw [hs']
    exact ⟨rfl, rfl, rfl, keeping_of_late h, fun hover => absurd ⟨none, hover⟩ hopen⟩
  · unfold rebuilds at h
    rw [hs] at h
    cases h

/-! ## What the administrator is told -/

/-- **A rebuild that is said to have succeeded has made the collection anew exactly if it was asked for before the sync had decided to
keep the collection or made it anew already.**  Then there is nothing in it but the corpus that this sync read, with the vectors given for
it; otherwise all is as if only a search had come. -/
theorem rebuilt_iff (collection : Option Collection) (run : Run (Step rt) (.started collection) pre s) (hopen : ¬ s.over)
    (run' : Run (Step rt) s.reindex moves s') (hwaits : ∀ m ∈ moves, ¬ m.before.over ∧ m.label ≠ .restarted)
    (hend : s'.syncPromise = some (.settled none)) (hids : ∀ m ∈ pre ++ moves, DistinctPoints rt m.label) :
    (Recreated moves ↔ s.rebuilds = true) ∧
      (s.rebuilds = true → ∃ documents vectors, lastCorpus rt (pre ++ moves) = some documents ∧
        lastVectors (pre ++ moves) = some vectors ∧ Indexed rt documents vectors s'.collection ∧ OnlyOf rt documents s'.collection) ∧
      (s.rebuilds = false → ∃ moves', Run (Step rt) s moves' s' ∧ moves'.map (·.label) = moves.map fun m => m.label.asSearch) := by
  have hknown : Known rt pre s.reindex := (known collection run).reindex
  cases hreb : s.rebuilds with
  | true =>
    have hall := run'.invariant (fun m => ¬ m.before.over ∧ m.label ≠ .restarted)
      (fun moves s => Known rt (pre ++ moves) s ∧ Rebuilding rt pre moves s)
      ⟨by rwa [List.append_nil], rebuilding_reindex hreb⟩
      (fun moves s label s' h step hm => ⟨by rw [← List.append_assoc]; exact h.1.step step, h.2.step h.1 step hm.1 hm.2⟩) hwaits
    have hdone := hall.2
    unfold Rebuilding at hdone
    rw [hend] at hdone
    obtain ⟨hrec, plan, ⟨hcorpus, hvectors⟩, hw⟩ := hdone
    have hindexed := hw.indexed (distinct_of_read hids (corpusRead_of_last hcorpus))
    exact ⟨iff_of_true hrec rfl, fun _ => ⟨plan.documents, plan.vectors, hcorpus, hvectors, hindexed, hw.onlyOf⟩, fun h => by cases h⟩
  | false =>
    have hstart := sameButAsked_reindex hreb hopen
    obtain ⟨moves', t, followed, hlabels, hsame⟩ := run'.simulates SameButAsked Label.asSearch
      (fun m => ¬ m.before.over ∧ m.label ≠ .restarted) hstart (fun _ _ _ _ step hm h => (h.step step hm.1 hm.2).2) hwaits
    have hnever := run'.invariant (fun m => ¬ m.before.over ∧ m.label ≠ .restarted)
      (fun moves x => ¬ Recreated moves ∧ ∃ t, SameButAsked x t) ⟨fun ⟨_, hm, _⟩ => (by cases hm), _, hstart⟩
      (fun moves x label x' h step hm => by
        obtain ⟨hnot, t, h⟩ := h
        obtain ⟨hlabel, t', -, h'⟩ := h.step step hm.1 hm.2
        refine ⟨fun ⟨m, hmem, hm⟩ => ?_, t', h'⟩
        rcases List.mem_append.1 hmem with hmem | hmem
        · exact hnot ⟨m, hmem, hm⟩
        · rw [List.mem_singleton.1 hmem] at hm
          exact hlabel hm) hwaits
    obtain rfl : s' = t := hsame.2.2.2.2 hend
    exact ⟨iff_of_false hnever.1 (by decide), fun h => (by cases h), fun _ => ⟨moves', followed, hlabels⟩⟩

end

/-- A rebuild that is asked for while the last batch is on its way is said to have succeeded, and the old point is still there. -/
theorem lateRebuild_keeps : ∃ pre s moves s', Run (Step sampleRuntime) (started (some oldCollection)) pre s ∧
    Run (Step sampleRuntime) s.reindex moves s' ∧ s'.syncPromise = some (.settled none) ∧ ¬ Recreated moves ∧
      s'.forceRecreateOnNextSync = false := by
  obtain ⟨pre, s, plan, batch, run, hs, hc, hids⟩ := sampleRun
  have hreb : s.rebuilds = false := by
    unfold rebuilds
    rw [hs]
  have hopen : ¬ s.over := fun ⟨_, hover⟩ => by cases hs.symm.trans hover
  obtain ⟨sync, -, hs'⟩ | ⟨hnone, -⟩ := reindex_cases s
  · have hs'' : s.reindex.syncPromise = some (.upserting plan batch []) := by rw [hs', ← hs]
    have hc'' : s.reindex.collection.isSome = true := by rw [hs']; simp [hc]
    have hstart : Run (Step sampleRuntime) s.reindex [] s.reindex := .start
    have run' := hstart.step (.upserted hs'' hc'')
    have hmove : ∀ m ∈ [] ++ [(⟨s.reindex, .upserted, s.reindex.upserted sampleRuntime plan batch []⟩ : Move VectorStore Label)],
        ¬ m.before.over ∧ m.label ≠ .restarted ∧ DistinctPoints sampleRuntime m.label := by
      intro m hm
      rw [List.mem_singleton.1 hm]
      exact ⟨fun ⟨_, hover⟩ => (by cases hs''.symm.trans hover), nofun, fun _ h => by cases h⟩
    have hall := rebuilt_iff (some oldCollection) run hopen run' (fun m hm => ⟨(hmove m hm).1, (hmove m hm).2.1⟩) rfl fun m hm => by
      rcases List.mem_append.1 hm with hm | hm
      · exact hids m hm
      · exact (hmove m hm).2.2
    refine ⟨pre, s, _, _, run, run', rfl, fun hrec => ?_, rfl⟩
    cases (hall.1.1 hrec).symm.trans hreb
  · cases hnone.symm.trans hs

end Balii.Chatbot
