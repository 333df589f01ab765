import Mathlib.Data.List.Basic
import Mathlib.Data.List.Nodup
/-!
# Greedy — choosing from a list what shares nothing with what is chosen

Every element asks for resources.  The list is gone through once: an element is passed over if it asks for something that
one chosen before it asks for.
-/
namespace Greedy

variable {α β : Type} [DecidableEq β]

/-- It asks for something that one of them asks for. -/
def Meets (f : α → List β) (a : α) (taken : List α) : Prop := ∃ x ∈ f a, ∃ b ∈ taken, x ∈ f b

instance (f : α → List β) (a : α) (taken : List α) : Decidable (Meets f a taken) :=
  inferInstanceAs (Decidable (∃ x ∈ f a, ∃ b ∈ taken, x ∈ f b))

/-- What is chosen of a list after some are taken. -/
def choose (f : α → List β) : List α → List α → List α
  | [], _ => []
  | a :: rest, taken => if Meets f a taken then choose f rest taken else a :: choose f rest (taken ++ [a])

theorem choose_sublist (f : α → List β) : ∀ l taken : List α, (choose f l taken).Sublist l
  | [], _ => .slnil
  | a :: rest, taken => by
    unfold choose
    split
    · exact (choose_sublist f rest taken).cons a
    · exact (choose_sublist f rest _).cons_cons a

/-- **What is chosen shares nothing.** -/
theorem choose_apart (f : α → List β) : ∀ l taken : List α, (taken.Pairwise fun a b => ∀ x ∈ f b, x ∉ f a) →
    (taken ++ choose f l taken).Pairwise fun a b => ∀ x ∈ f b, x ∉ f a
  | [], taken, h => by simpa [choose] using h
  | a :: rest, taken, h => by
    unfold choose
    split
    · exact choose_apart f rest taken h
    · rename_i hnot
      have htaken : (taken ++ [a]).Pairwise fun a b => ∀ x ∈ f b, x ∉ f a := by
        rw [List.pairwise_append]
        refine ⟨h, List.pairwise_singleton _ _, fun b hb c hc x hx hxb => ?_⟩
        rw [List.mem_singleton.1 hc] at hx
        exact hnot ⟨x, hx, b, hb, hxb⟩
      have ih := choose_apart f rest (taken ++ [a]) htaken
      rwa [List.append_assoc] at ih

/-- Two ways to ask decide alike along a list. -/
def Alike (f g : α → List β) (l taken : List α) : Prop :=
  ∀ pre a post, l = pre ++ a :: post →
    (Meets f a (taken ++ choose g pre taken) ↔ Meets g a (taken ++ choose g pre taken))

theorem alike_cons {f g : α → List β} {a : α} {rest taken : List α} :
    Alike f g (a :: rest) taken ↔ (Meets f a taken ↔ Meets g a taken) ∧
      Alike f g rest (if Meets g a taken then taken else taken ++ [a]) := by
  have hchoose (pre : List α) : taken ++ choose g (a :: pre) taken =
      (if Meets g a taken then taken else taken ++ [a]) ++
        choose g pre (if Meets g a taken then taken else taken ++ [a]) := by
    rw [choose]
    split
    · rfl
    · simp
  constructor
  · intro h
    constructor
    · have := h [] a rest rfl
      simpa [choose] using this
    · intro pre b post hl
      have := h (a :: pre) b post (by rw [hl, List.cons_append])
      rwa [hchoose] at this
  · rintro ⟨hhead, htail⟩ pre b post hl
    cases pre with
    | nil =>
      obtain ⟨rfl, rfl⟩ := List.cons.inj hl
      simpa [choose] using hhead
    | cons c pre =>
      obtain ⟨rfl, rfl⟩ := List.cons.inj hl
      rw [hchoose]
      exact htail pre b post rfl

/-- **Two ways to ask choose the same exactly if they decide alike** on every element, given what the second has chosen. -/
theorem choose_eq_iff (f g : α → List β) : ∀ l taken : List α, l.Nodup →
    (choose f l taken = choose g l taken ↔ Alike f g l taken)
  | [], taken, _ => by
    constructor
    · intro _ pre a post hl
      cases pre <;> cases hl
    · exact fun _ => rfl
  | a :: rest, taken, hl => by
    rw [List.nodup_cons] at hl
    have hsub (h : α → List β) (taken' : List α) : a ∉ choose h rest taken' := fun ha =>
      hl.1 ((choose_sublist h rest taken').subset ha)
    rw [alike_cons, choose, choose]
    by_cases hf : Meets f a taken
    · by_cases hg : Meets g a taken
      · rw [if_pos hf, if_pos hg, if_pos hg, choose_eq_iff f g rest taken hl.2]
        simp [hf, hg]
      · rw [if_pos hf, if_neg hg]
        constructor
        · intro h
          exact absurd (h ▸ List.mem_cons_self) (hsub f taken)
        · rintro ⟨h, _⟩
          exact absurd (h.1 hf) hg
    · by_cases hg : Meets g a taken
      · rw [if_neg hf, if_pos hg]
        constructor
        · intro h
          exact absurd (h ▸ List.mem_cons_self) (hsub g taken)
        · rintro ⟨h, _⟩
          exact absurd (h.2 hg) hf
      · rw [if_neg hf, if_neg hg, if_neg hg, List.cons.injEq, choose_eq_iff f g rest (taken ++ [a]) hl.2]
        simp [hf, hg]

end Greedy
