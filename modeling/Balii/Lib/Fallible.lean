import Mathlib.Data.List.Forall2
/-!
# Fallible — results that may be errors

A sequence succeeds part by part, and a list is read element by element; the first error is the result of the whole.
-/
namespace Rowdb

variable {α β ε : Type}

theorem bind_eq_ok {x : Except ε α} {f : α → Except ε β} {b : β} : (x >>= f) = .ok b ↔ ∃ a, x = .ok a ∧ f a = .ok b := by
  cases x with
  | error e => exact ⟨fun h => (nomatch h), fun ⟨_, h, _⟩ => (nomatch h)⟩
  | ok a =>
    refine ⟨fun h => ⟨a, rfl, h⟩, ?_⟩
    rintro ⟨_, h, hf⟩
    cases h
    exact hf

theorem map_eq_ok {x : Except ε α} {f : α → β} {b : β} : x.map f = .ok b ↔ ∃ a, x = .ok a ∧ f a = b := by
  cases x with
  | error e => exact ⟨fun h => (nomatch h), fun ⟨_, h, _⟩ => (nomatch h)⟩
  | ok a =>
    refine ⟨fun h => ⟨a, rfl, Except.ok.inj h⟩, ?_⟩
    rintro ⟨_, h, rfl⟩
    cases h
    rfl

section Lists
variable {f : α → Except ε β}

/-- **A list is read when each of its elements is.** -/
theorem mapM_eq_ok : ∀ {l : List α} {bs : List β}, l.mapM f = .ok bs ↔ List.Forall₂ (fun a b => f a = .ok b) l bs
  | [], bs => by
    rw [List.mapM_nil, List.forall₂_nil_left_iff]
    exact ⟨fun h => (Except.ok.inj h).symm, fun h => h ▸ rfl⟩
  | a :: l, bs => by
    rw [List.mapM_cons, bind_eq_ok, List.forall₂_cons_left_iff]
    constructor
    · rintro ⟨b, hb, h⟩
      obtain ⟨bs', hbs', h⟩ := bind_eq_ok.1 h
      exact ⟨b, bs', hb, mapM_eq_ok.1 hbs', (Except.ok.inj h).symm⟩
    · rintro ⟨b, bs', hb, hbs', rfl⟩
      exact ⟨b, hb, bind_eq_ok.2 ⟨bs', mapM_eq_ok.2 hbs', rfl⟩⟩

theorem mapM_mem {l : List α} {bs : List β} (h : l.mapM f = .ok bs) : ∀ b ∈ bs, ∃ a ∈ l, f a = .ok b := by
  have hread := mapM_eq_ok.1 h
  clear h
  induction hread with
  | nil => exact fun b hb => (nomatch hb)
  | cons hab _ ih =>
    refine List.forall_mem_cons.2 ⟨⟨_, List.mem_cons_self, hab⟩, fun b hb => ?_⟩
    obtain ⟨a, ha, hfa⟩ := ih b hb
    exact ⟨a, List.mem_cons_of_mem _ ha, hfa⟩

theorem exists_mapM_ok : ∀ {l : List α}, (∃ bs, l.mapM f = .ok bs) ↔ ∀ a ∈ l, ∃ b, f a = .ok b
  | [] => ⟨fun _ a ha => (nomatch ha), fun _ => ⟨[], rfl⟩⟩
  | a :: l => by
    rw [List.forall_mem_cons, ← exists_mapM_ok]
    constructor
    · rintro ⟨bs, h⟩
      obtain ⟨b, bs', hb, hbs', -⟩ := List.forall₂_cons_left_iff.1 (mapM_eq_ok.1 h)
      exact ⟨⟨b, hb⟩, bs', mapM_eq_ok.2 hbs'⟩
    · rintro ⟨⟨b, hb⟩, bs, hbs⟩
      exact ⟨b :: bs, mapM_eq_ok.2 (.cons hb (mapM_eq_ok.1 hbs))⟩

/-- A reading that fails exactly where `p` fails. -/
theorem mapM_ok {g : α → β} {p : α → Prop} (hok : ∀ a, p a → f a = .ok (g a)) (herror : ∀ a, ¬ p a → ∃ e, f a = .error e)
    {l : List α} {bs : List β} : l.mapM f = .ok bs ↔ (∀ a ∈ l, p a) ∧ bs = l.map g := by
  have heach : ∀ a b, f a = .ok b ↔ p a ∧ b = g a := by
    intro a b
    by_cases ha : p a
    · rw [hok a ha]
      exact ⟨fun h => ⟨ha, (Except.ok.inj h).symm⟩, fun h => congrArg Except.ok h.2.symm⟩
    · obtain ⟨e, he⟩ := herror a ha
      rw [he]
      exact ⟨fun h => (nomatch h), fun h => absurd h.1 ha⟩
  simp only [mapM_eq_ok, heach]
  induction l generalizing bs with
  | nil => simp [List.forall₂_nil_left_iff]
  | cons a l ih =>
    rw [List.forall₂_cons_left_iff, List.forall_mem_cons, List.map_cons]
    constructor
    · rintro ⟨b, bs', ⟨ha, rfl⟩, hbs', rfl⟩
      obtain ⟨hl, rfl⟩ := ih.1 hbs'
      exact ⟨⟨ha, hl⟩, rfl⟩
    · rintro ⟨⟨ha, hl⟩, rfl⟩
      exact ⟨g a, l.map g, ⟨ha, rfl⟩, ih.2 ⟨hl, rfl⟩, rfl⟩

end Lists

end Rowdb
