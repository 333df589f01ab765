import Balii.Lib.Machine
/-!
# Threads — programs that take turns over shared data

A thread is at a statement; its turn performs the statement with what comes from outside and goes on.  A turn may also go unanswered:
then the statement has been performed or not, and the thread gives up.  What each thread may rely on and what each turn guarantees add
up to what holds in every run (`Run.holds`).
-/
namespace Threads

open Machine

variable {σ τ α : Type}

structure System (σ τ α : Type) where
  /-- How a thread may begin. -/
  starts : τ → Prop
  turn : τ → α → σ → σ × τ
  /-- Where a thread is that got no answer. -/
  broken : τ
  /-- What others may do to the shared data. -/
  others : σ → σ → Prop

structure World (σ τ : Type) where
  shared : σ
  threads : List τ

inductive Label (τ α : Type)
  | spawn (t : τ)
  | turn (i : ℕ) (a : α)
  | lost (i : ℕ) (a : α) (took : Bool)
  | other

abbrev Moves (σ τ α : Type) := List (Move (World σ τ) (Label τ α))

inductive Step (S : System σ τ α) (w : World σ τ) : Label τ α → World σ τ → Prop
  | spawn {t : τ} (h : S.starts t) : Step S w (.spawn t) { w with threads := w.threads ++ [t] }
  | turn {i : ℕ} {t : τ} (a : α) (h : w.threads[i]? = some t) :
      Step S w (.turn i a) ⟨(S.turn t a w.shared).1, w.threads.set i (S.turn t a w.shared).2⟩
  | lost {i : ℕ} {t : τ} (a : α) (took : Bool) (h : w.threads[i]? = some t) :
      Step S w (.lost i a took) ⟨if took then (S.turn t a w.shared).1 else w.shared, w.threads.set i S.broken⟩
  | other {s : σ} (h : S.others w.shared s) : Step S w .other { w with shared := s }

/-- The move performs a statement of this thread. -/
def Performs (t : τ) (a : α) (m : Move (World σ τ) (Label τ α)) : Prop :=
  ∃ i, m.before.threads[i]? = some t ∧ (m.label = .turn i a ∨ m.label = .lost i a true)

/-- The move performs no statement. -/
def Idle (m : Move (World σ τ) (Label τ α)) : Prop := ∀ t a, ¬ Performs t a m

theorem Performs.unique {t t' : τ} {a a' : α} {m : Move (World σ τ) (Label τ α)} (h : Performs t a m) (h' : Performs t' a' m) :
    t = t' ∧ a = a' := by
  obtain ⟨i, ht, hl⟩ := h
  obtain ⟨i', ht', hl'⟩ := h'
  have hsame : i = i' ∧ a = a' := by
    rcases hl with hl | hl <;> rcases hl' with hl' | hl' <;> simpa using hl.symm.trans hl'
  obtain ⟨rfl, ha⟩ := hsame
  exact ⟨Option.some.inj (ht.symm.trans ht'), ha⟩

/-- **What the turns guarantee**: `I` of the shared data, `J` of each thread, while every move changes the shared data as `C` allows,
which leaves the `J` of the other threads. -/
structure Holds (S : System σ τ α) (I : Moves σ τ α → σ → Prop) (J : Moves σ τ α → σ → τ → Prop) (C : σ → σ → Prop) : Prop where
  refl : ∀ s, C s s
  stable : ∀ h m s s' t, C s s' → J h s t → J (h ++ [m]) s' t
  mono : ∀ h m s, Idle m → I h s → I (h ++ [m]) s
  start : ∀ h s t, S.starts t → J h s t
  broken : ∀ h s, J h s S.broken
  turn : ∀ h m s t a, I h s → J h s t → m.before.shared = s → Performs t a m →
    C s (S.turn t a s).1 ∧ I (h ++ [m]) (S.turn t a s).1 ∧ J (h ++ [m]) (S.turn t a s).1 (S.turn t a s).2
  others : ∀ h m s s', Idle m → I h s → S.others s s' → C s s' ∧ I (h ++ [m]) s'

section
variable {S : System σ τ α} {I : Moves σ τ α → σ → Prop} {J : Moves σ τ α → σ → τ → Prop} {C : σ → σ → Prop}

/-- The other threads and the one that has moved. -/
theorem forall_set {P Q : τ → Prop} {threads : List τ} (h : ∀ t ∈ threads, P t) (hPQ : ∀ t, P t → Q t) {i : ℕ} {t' : τ} (ht' : Q t') :
    ∀ t ∈ threads.set i t', Q t := by
  intro t ht
  rcases List.mem_or_eq_of_mem_set ht with ht | rfl
  · exact hPQ t (h t ht)
  · exact ht'

/-- **It holds in every run.** -/
theorem Holds.run (holds : Holds S I J C) {s₀ : σ} (h₀ : I [] s₀) {moves : Moves σ τ α} {w : World σ τ}
    (run : Run (Step S) ⟨s₀, []⟩ moves w) : I moves w.shared ∧ ∀ t ∈ w.threads, J moves w.shared t := by
  have hidle : ∀ {w w' : World σ τ} {label : Label τ α}, (∀ i a, label ≠ .turn i a ∧ label ≠ .lost i a true) → Idle ⟨w, label, w'⟩ := by
    rintro w w' label hl t a ⟨i, -, h | h⟩
    · exact (hl i a).1 h
    · exact (hl i a).2 h
  refine run.invariant (fun _ => True) (fun moves w => I moves w.shared ∧ ∀ t ∈ w.threads, J moves w.shared t)
    ⟨h₀, fun t ht => (by cases ht)⟩ ?_ fun _ _ => trivial
  rintro moves w label w' ⟨hI, hJ⟩ step -
  cases step with
  | @spawn t ht =>
    refine ⟨holds.mono _ _ _ (hidle (by simp)) hI, fun t' ht' => ?_⟩
    rcases List.mem_append.1 ht' with ht' | ht'
    · exact holds.stable _ _ _ _ _ (holds.refl _) (hJ t' ht')
    · obtain rfl := List.mem_singleton.1 ht'
      exact holds.start _ _ _ ht
  | @turn i t a ht =>
    obtain ⟨hC, hI', hJ'⟩ := holds.turn moves ⟨w, .turn i a, _⟩ w.shared t a hI (hJ t (List.mem_of_getElem? ht)) rfl ⟨i, ht, .inl rfl⟩
    exact ⟨hI', forall_set hJ (fun t' h => holds.stable _ _ _ _ _ hC h) hJ'⟩
  | @lost i t a took ht =>
    cases took with
    | false =>
      exact ⟨holds.mono _ _ _ (hidle (by simp)) hI, forall_set hJ (fun t' h => holds.stable _ _ _ _ _ (holds.refl _) h) (holds.broken _ _)⟩
    | true =>
      obtain ⟨hC, hI', -⟩ := holds.turn moves ⟨w, .lost i a true, _⟩ w.shared t a hI (hJ t (List.mem_of_getElem? ht)) rfl
        ⟨i, ht, .inr rfl⟩
      exact ⟨hI', forall_set hJ (fun t' h => holds.stable _ _ _ _ _ hC h) (holds.broken _ _)⟩
  | other hs =>
    obtain ⟨hC, hI'⟩ := holds.others moves ⟨w, .other, _⟩ _ _ (hidle (by simp)) hI hs
    exact ⟨hI', fun t ht => holds.stable _ _ _ _ _ hC (hJ t ht)⟩

end

end Threads
