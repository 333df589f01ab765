import Mathlib.Data.List.Sort
/-!
# Ranked — the first elements of a sorted list

`ORDER BY … LIMIT n` answers with the first `n` rows of a sorted list: an element is among them exactly as few or as many stand before
it as that.
-/
namespace Rowdb

open List

variable {α : Type} {R : α → α → Prop} {l : List α} {n : ℕ} {a : α}

/-- What stands before one of the first `n` is among them, and still before it. -/
theorem pair_sublist_take {b : α} (hl : l.Pairwise R) (hne : a ≠ b) (ha : a ∈ l) (hba : ¬ R b a) (hb : b ∈ l.take n) :
    [a, b] <+ l.take n := by
  obtain ⟨s, t, hst⟩ := append_of_mem hb
  have hlist : l = s ++ (b :: (t ++ l.drop n)) := by
    rw [← cons_append, ← append_assoc, ← hst, take_append_drop]
  have hs : a ∈ s := by
    rw [hlist] at ha hl
    rcases mem_append.1 ha with ha | ha
    · exact ha
    · exact absurd (rel_of_pairwise_cons (pairwise_append.1 hl).2.1 ((mem_cons.1 ha).resolve_left hne)) hba
  rw [hst]
  exact (singleton_sublist.2 hs).append (singleton_sublist.2 mem_cons_self)

/-- In a list without repetition one of two elements stands before the other. -/
theorem mem_of_pair_sublist {b : α} {pre post : List α} (h : [a, b] <+ pre ++ b :: post) (hnodup : (pre ++ b :: post).Nodup) :
    a ∈ pre := by
  obtain ⟨l₁, l₂, hl, h₁, h₂⟩ := sublist_append_iff.1 h
  cases l₁ with
  | nil =>
    obtain rfl : l₂ = [a, b] := hl.symm
    have hafter : b ∉ post := (nodup_cons.1 (nodup_append.1 hnodup).2.1).1
    cases h₂ with
    | cons _ h => exact absurd (h.subset (mem_cons_of_mem _ mem_cons_self)) hafter
    | cons_cons _ h => exact absurd (h.subset mem_cons_self) hafter
  | cons x l₁ =>
    obtain ⟨rfl, -⟩ := List.cons.inj hl
    exact h₁.subset mem_cons_self

variable [DecidableRel R]

/-- Fewer than `n` stand before one of the first `n`. -/
theorem countP_lt_of_mem_take (hl : l.Pairwise R) (hrefl : R a a) (h : a ∈ l.take n) : l.countP (fun b => ¬ R a b) < n := by
  obtain ⟨s, t, hst⟩ := append_of_mem h
  have hlist : l = s ++ (a :: (t ++ l.drop n)) := by
    rw [← cons_append, ← append_assoc, ← hst, take_append_drop]
  have hlast : (a :: (t ++ l.drop n)).countP (fun b => ¬ R a b) = 0 := by
    rw [countP_eq_zero]
    intro b hb
    rw [hlist] at hl
    rcases mem_cons.1 hb with rfl | hb
    · simpa using hrefl
    · simpa using rel_of_pairwise_cons (pairwise_append.1 hl).2.1 hb
  have hshort : s.length < n := by
    have hlength := congrArg List.length hst
    rw [length_append, length_cons] at hlength
    have := length_take_le n l
    omega
  rw [hlist, countP_append, hlast, Nat.add_zero]
  exact lt_of_le_of_lt countP_le_length hshort

/-- An element is among the first `n` when no more than `n` may come up to it. -/
theorem mem_take_of_countP_le (hl : l.Pairwise R) (hrefl : R a a) (ha : a ∈ l) (h : l.countP (fun b => R b a) ≤ n) : a ∈ l.take n := by
  by_contra hnot
  have hdrop : a ∈ l.drop n := by
    rw [← take_append_drop n l] at ha
    exact (mem_append.1 ha).resolve_left hnot
  have hpairs := hl
  rw [← take_append_drop n l] at hpairs h
  have hfirst : (l.take n).countP (fun b => R b a) = n := by
    have hall : ∀ b ∈ l.take n, decide (R b a) = true := fun b hb => decide_eq_true ((pairwise_append.1 hpairs).2.2 b hb a hdrop)
    rw [countP_eq_length.2 hall, length_take]
    have := length_pos_of_mem hdrop
    rw [length_drop] at this
    omega
  have hself : 0 < (l.drop n).countP (fun b => R b a) := countP_pos_iff.2 ⟨a, hdrop, decide_eq_true hrefl⟩
  rw [countP_append, hfirst] at h
  omega

end Rowdb
