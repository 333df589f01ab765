import Mathlib.Data.List.Basic
/-!
# Grouping — digits written in threes

A separator stands before every third digit from the end.  Taking the separators out gives the digits back, and before the first of
them there are at most three.
-/
namespace Grouping

variable {α : Type} {sep x : α} {l : List α}

/-- In threes from the front. -/
def threes (sep : α) : List α → List α
  | a :: b :: c :: d :: rest => a :: b :: c :: sep :: threes sep (d :: rest)
  | l => l

/-- In threes from the end, as numbers are written. -/
def group (sep : α) (l : List α) : List α := (threes sep l.reverse).reverse

theorem mem_threes (h : x ∈ threes sep l) : x ∈ l ∨ x = sep := by
  fun_induction threes sep l with
  | case1 a b c d rest ih =>
    simp only [List.mem_cons] at h ih ⊢
    rcases h with h | h | h | h | h
    · exact .inl (.inl h)
    · exact .inl (.inr (.inl h))
    · exact .inl (.inr (.inr (.inl h)))
    · exact .inr h
    · rcases ih h with h | h
      · exact .inl (.inr (.inr (.inr h)))
      · exact .inr h
  | case2 l => exact .inl h

theorem filter_threes {p : α → Bool} (hsep : p sep = false) (hl : ∀ x ∈ l, p x = true) : (threes sep l).filter p = l := by
  fun_induction threes sep l with
  | case1 a b c d rest ih =>
    simp only [List.forall_mem_cons] at hl
    obtain ⟨ha, hb, hc, hrest⟩ := hl
    have hgroups := ih fun x hx => (List.mem_cons.1 hx).elim (fun h => h ▸ hrest.1) (hrest.2 x)
    simp [ha, hb, hc, hsep, hgroups]
  | case2 l => exact List.filter_eq_self.2 hl

/-- Of four or more the last are at most three, behind a separator. -/
theorem threes_split (sep : α) (hl : 4 ≤ l.length) :
    ∃ front last, threes sep l = front ++ sep :: last ∧ last ≠ [] ∧ last.length ≤ 3 ∧ last.length + 3 ≤ l.length ∧ ∀ x ∈ last, x ∈ l := by
  fun_induction threes sep l with
  | case1 a b c d rest ih =>
    by_cases hrest : 4 ≤ (d :: rest).length
    · obtain ⟨front, last, heq, hne, hlen, hshorter, hmem⟩ := ih hrest
      refine ⟨a :: b :: c :: sep :: front, last, by simp [heq], hne, hlen, Nat.le_trans hshorter (by simp), fun x hx => ?_⟩
      exact List.mem_cons_of_mem _ (List.mem_cons_of_mem _ (List.mem_cons_of_mem _ (hmem x hx)))
    · refine ⟨[a, b, c], d :: rest, ?_, List.cons_ne_nil _ _, by omega, Nat.le_refl _, fun x hx => ?_⟩
      · rw [threes.eq_2 sep (d :: rest) fun e f g h t heq => hrest (by simp [heq])]
        rfl
      · exact List.mem_cons_of_mem _ (List.mem_cons_of_mem _ (List.mem_cons_of_mem _ hx))
  | case2 l hshort =>
    match l, hl with
    | a :: b :: c :: d :: rest, _ => exact absurd rfl (hshort a b c d rest)

theorem mem_group (h : x ∈ group sep l) : x ∈ l ∨ x = sep := by
  simpa using mem_threes (List.mem_reverse.1 h)

/-- **The separators taken out**, the digits are left. -/
theorem filter_group {p : α → Bool} (hsep : p sep = false) (hl : ∀ x ∈ l, p x = true) : (group sep l).filter p = l := by
  unfold group
  rw [List.filter_reverse, filter_threes hsep fun x hx => hl x (List.mem_reverse.1 hx), List.reverse_reverse]

/-- **Of four or more the first are at most three**, before a separator, and at least three come behind it. -/
theorem group_split (sep : α) (hl : 4 ≤ l.length) :
    ∃ first rest, group sep l = first ++ sep :: rest ∧ first ≠ [] ∧ first.length ≤ 3 ∧ first.length + 3 ≤ l.length ∧ ∀ x ∈ first, x ∈ l := by
  obtain ⟨front, last, heq, hne, hlen, hshorter, hmem⟩ := threes_split sep (l := l.reverse) (by simpa using hl)
  refine ⟨last.reverse, front.reverse, ?_, by simpa using hne, by simpa using hlen, by simpa using hshorter, fun x hx => ?_⟩
  · simp [group, heq]
  · exact List.mem_reverse.1 (hmem x (List.mem_reverse.1 hx))

example : group '.' "1234567".toList = "1.234.567".toList := by decide

end Grouping
