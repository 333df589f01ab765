import Mathlib.Data.List.AList
import Mathlib.Algebra.BigOperators.Group.Finset.Basic
import Mathlib.Algebra.BigOperators.Group.List.Basic
import Mathlib.Algebra.Order.BigOperators.Group.Finset
import Mathlib.Algebra.Order.BigOperators.Group.List
import Mathlib.Algebra.Order.Group.Int
import Mathlib.Tactic.Abel
/-!
# Table — a table is an association list, newest row first

A table keeps one row per primary key (`AList`'s `nodupKeys`), and `AList.insert` of a new key puts its row in front, so
the entries are in the order `ORDER BY created_at DESC` reads them.  What SQL adds to `AList` is here: the update of one
row (`modify`), the first row that matches (`find`), and the sum of a column (`total`), each with its law for every other
operation.
-/

abbrev Table (κ ρ : Type) := AList (fun _ : κ => ρ)

namespace AList

variable {κ ρ : Type} [DecidableEq κ]

/-! ## Updating one row -/

/-- `UPDATE t SET … WHERE key = k`. -/
def modify (t : Table κ ρ) (k : κ) (f : ρ → ρ) : Table κ ρ :=
  ⟨t.entries.map (fun e => if e.1 = k then ⟨e.1, f e.2⟩ else e), by
    have h : (t.entries.map (fun e => if e.1 = k then (⟨e.1, f e.2⟩ : Sigma fun _ : κ => ρ) else e)).keys = t.entries.keys := by
      simp only [List.keys, List.map_map]
      apply List.map_congr_left
      intro e _
      simp only [Function.comp_apply]
      split <;> rfl
    rw [List.NodupKeys, h]
    exact t.nodupKeys⟩

theorem dlookup_map_modify (k k' : κ) (f : ρ → ρ) : ∀ l : List (Sigma fun _ : κ => ρ),
    List.dlookup k' (l.map (fun e => if e.1 = k then ⟨e.1, f e.2⟩ else e)) =
      if k' = k then (List.dlookup k' l).map f else List.dlookup k' l
  | [] => by simp
  | ⟨a, r⟩ :: l => by
    rw [List.map_cons]
    by_cases hak : a = k
    · subst hak
      rw [if_pos rfl]
      by_cases hk' : k' = a
      · subst hk'
        rw [List.dlookup_cons_eq, List.dlookup_cons_eq, if_pos rfl, Option.map_some]
      · rw [List.dlookup_cons_ne _ _ hk', List.dlookup_cons_ne _ _ hk', dlookup_map_modify]
    · rw [if_neg hak]
      by_cases hk' : k' = a
      · subst hk'
        rw [List.dlookup_cons_eq, List.dlookup_cons_eq, if_neg hak]
      · rw [List.dlookup_cons_ne _ _ hk', List.dlookup_cons_ne _ _ hk', dlookup_map_modify]

theorem lookup_modify (t : Table κ ρ) (k k' : κ) (f : ρ → ρ) :
    (t.modify k f).lookup k' = if k' = k then (t.lookup k').map f else t.lookup k' :=
  dlookup_map_modify k k' f t.entries

@[simp] theorem lookup_modify_self (t : Table κ ρ) (k : κ) (f : ρ → ρ) :
    (t.modify k f).lookup k = (t.lookup k).map f := by
  rw [lookup_modify, if_pos rfl]

@[simp] theorem lookup_modify_ne (t : Table κ ρ) {k k' : κ} (f : ρ → ρ) (h : k' ≠ k) :
    (t.modify k f).lookup k' = t.lookup k' := by
  rw [lookup_modify, if_neg h]

theorem modify_congr {t : Table κ ρ} {k : κ} {f g : ρ → ρ} (h : ∀ r, t.lookup k = some r → f r = g r) :
    t.modify k f = t.modify k g := by
  unfold modify
  congr 1
  apply List.map_congr_left
  intro e he
  by_cases hk : e.1 = k
  · subst hk
    rw [if_pos rfl, if_pos rfl, h e.2 (mem_lookup_iff.2 he)]
  · rw [if_neg hk, if_neg hk]

/-- An update that leaves its row as it is leaves the table. -/
theorem modify_eq_self {t : Table κ ρ} {k : κ} {f : ρ → ρ} (h : ∀ r, t.lookup k = some r → f r = r) : t.modify k f = t := by
  rw [modify_congr (g := fun r => r) h]
  unfold modify
  congr 1
  refine (List.map_congr_left fun e _ => ?_).trans (List.map_id _)
  split <;> rfl

/-- Two updates of one row are one. -/
theorem modify_modify (t : Table κ ρ) (k : κ) (f g : ρ → ρ) : (t.modify k f).modify k g = t.modify k fun r => g (f r) := by
  unfold modify
  congr 1
  rw [List.map_map]
  apply List.map_congr_left
  intro e _
  by_cases hk : e.1 = k
  · simp [hk]
  · simp [hk]

/-- The rows that are kept. -/
def keep (t : Table κ ρ) (p : κ → ρ → Bool) : Table κ ρ :=
  ⟨t.entries.filter fun e => p e.1 e.2, List.NodupKeys.sublist List.filter_sublist t.nodupKeys⟩

theorem lookup_keep (t : Table κ ρ) (p : κ → ρ → Bool) (k : κ) : (t.keep p).lookup k = (t.lookup k).filter (p k) := by
  apply Option.ext
  intro r
  rw [Option.filter_eq_some_iff, ← Option.mem_def, ← Option.mem_def, mem_lookup_iff, mem_lookup_iff]
  exact List.mem_filter

/-- `INSERT` of a row whose key is not there yet; a table that has the key stays as it is. -/
def insertNew (t : Table κ ρ) (k : κ) (r : ρ) : Table κ ρ :=
  match t.lookup k with
  | none => t.insert k r
  | some _ => t

theorem insertNew_of_none {t : Table κ ρ} {k : κ} (r : ρ) (h : t.lookup k = none) : t.insertNew k r = t.insert k r := by
  rw [insertNew, h]

theorem lookup_insertNew (t : Table κ ρ) (k k' : κ) (r : ρ) :
    (t.insertNew k r).lookup k' = if k' = k then some ((t.lookup k').getD r) else t.lookup k' := by
  unfold insertNew
  cases h : t.lookup k with
  | none =>
    by_cases hk : k' = k
    · subst hk
      simp [h]
    · simp [hk]
  | some x =>
    by_cases hk : k' = k
    · subst hk
      simp [h]
    · simp [hk]

@[simp] theorem lookup_insertNew_ne (t : Table κ ρ) {k k' : κ} (r : ρ) (h : k' ≠ k) :
    (t.insertNew k r).lookup k' = t.lookup k' := by
  rw [lookup_insertNew, if_neg h]

theorem lookup_erase_eq (t : Table κ ρ) (k k' : κ) :
    (t.erase k).lookup k' = if k' = k then none else t.lookup k' := by
  by_cases h : k' = k
  · subst h
    simp
  · simp [h]

/-! ## Reading rows -/

/-- The rows that satisfy `p`, newest first. -/
def select (t : Table κ ρ) (p : κ → ρ → Bool) : List (κ × ρ) :=
  (t.entries.filter (fun e => p e.1 e.2)).map (fun e => (e.1, e.2))

theorem mem_select {t : Table κ ρ} {p : κ → ρ → Bool} {k : κ} {r : ρ} :
    (k, r) ∈ t.select p ↔ t.lookup k = some r ∧ p k r = true := by
  unfold select
  rw [← Option.mem_def, mem_lookup_iff]
  simp only [List.mem_map, List.mem_filter, Prod.mk.injEq]
  constructor
  · rintro ⟨⟨a, b⟩, ⟨hm, hp⟩, rfl, rfl⟩
    exact ⟨hm, hp⟩
  · rintro ⟨hm, hp⟩
    exact ⟨⟨k, r⟩, ⟨hm, hp⟩, rfl, rfl⟩

omit [DecidableEq κ] in
theorem nodup_select (t : Table κ ρ) (p : κ → ρ → Bool) : (t.select p).Nodup := by
  unfold select
  refine List.Nodup.map ?_ (t.nodupKeys.nodup.filter _)
  rintro ⟨a, b⟩ ⟨a', b'⟩ h
  cases h
  rfl

omit [DecidableEq κ] in
theorem nodup_keys_select (t : Table κ ρ) (p : κ → ρ → Bool) : ((t.select p).map Prod.fst).Nodup := by
  unfold select
  rw [List.map_map]
  exact t.nodupKeys.sublist List.filter_sublist

/-- An update that a selection does not see leaves it in its order. -/
theorem select_modify {t : Table κ ρ} {p : κ → ρ → Bool} {k : κ} {f : ρ → ρ} (h : ∀ k' r, p k' (f r) = p k' r) :
    (t.modify k f).select p = (t.select p).map fun e => if e.1 = k then (e.1, f e.2) else e := by
  unfold select modify
  rw [List.filter_map, List.map_map, List.map_map]
  have hsame : ((fun e : Sigma fun _ : κ => ρ => p e.1 e.2) ∘ fun e => if e.1 = k then ⟨e.1, f e.2⟩ else e) = fun e => p e.1 e.2 := by
    funext e
    by_cases hk : e.1 = k <;> simp [hk, h]
  rw [hsame]
  apply List.map_congr_left
  intro e _
  by_cases hk : e.1 = k <;> simp [hk]

/-- The newest row that satisfies `p`: `ORDER BY created_at DESC LIMIT 1`. -/
def find (t : Table κ ρ) (p : κ → ρ → Bool) : Option (κ × ρ) := (t.select p).head?

theorem find_some {t : Table κ ρ} {p : κ → ρ → Bool} {k : κ} {r : ρ} (h : t.find p = some (k, r)) :
    t.lookup k = some r ∧ p k r = true :=
  mem_select.1 (List.mem_of_mem_head? h)

theorem find_eq_none {t : Table κ ρ} {p : κ → ρ → Bool} :
    t.find p = none ↔ ∀ k r, t.lookup k = some r → p k r = false := by
  unfold find
  rw [List.head?_eq_none_iff, List.eq_nil_iff_forall_not_mem]
  constructor
  · intro h k r hr
    cases hp : p k r with
    | false => rfl
    | true => exact absurd (mem_select.2 ⟨hr, hp⟩) (h (k, r))
  · rintro h ⟨k, r⟩ hm
    obtain ⟨hr, hp⟩ := mem_select.1 hm
    rw [h k r hr] at hp
    cases hp

/-! ## The sum of a column -/

section Total
variable {M : Type} [AddCommGroup M]

/-- `SELECT COALESCE(SUM(f), 0)`. -/
def total (t : Table κ ρ) (f : κ → ρ → M) : M := (t.entries.map (fun e => f e.1 e.2)).sum

omit [DecidableEq κ] in
@[simp] theorem total_empty (f : κ → ρ → M) : (∅ : Table κ ρ).total f = 0 := rfl

theorem total_congr {t : Table κ ρ} {f g : κ → ρ → M} (h : ∀ k r, t.lookup k = some r → f k r = g k r) :
    t.total f = t.total g := by
  unfold total
  congr 1
  apply List.map_congr_left
  intro e he
  exact h e.1 e.2 (mem_lookup_iff.2 he)

theorem total_insert {t : Table κ ρ} {k : κ} (r : ρ) (f : κ → ρ → M) (h : t.lookup k = none) :
    (t.insert k r).total f = f k r + t.total f := by
  unfold total
  rw [entries_insert_of_notMem (lookup_eq_none.1 h), List.map_cons, List.sum_cons]

theorem sum_map_modify (k : κ) (g : ρ → ρ) (f : κ → ρ → M) : ∀ l : List (Sigma fun _ : κ => ρ), l.NodupKeys →
    ((l.map (fun e => if e.1 = k then (⟨e.1, g e.2⟩ : Sigma fun _ : κ => ρ) else e)).map (fun e => f e.1 e.2)).sum =
      (l.map (fun e => f e.1 e.2)).sum + (match List.dlookup k l with | none => 0 | some r => f k (g r) - f k r)
  | [], _ => by simp
  | ⟨a, r⟩ :: l, h => by
    rw [List.nodupKeys_cons] at h
    rw [List.map_cons, List.map_cons, List.map_cons, List.sum_cons, List.sum_cons, sum_map_modify k g f l h.2]
    by_cases hak : a = k
    · subst hak
      have hn : List.dlookup a l = none := List.dlookup_eq_none.2 h.1
      rw [if_pos rfl, List.dlookup_cons_eq, hn]
      simp only
      abel
    · rw [if_neg hak, List.dlookup_cons_ne _ _ (Ne.symm hak)]
      abel

/-- **Updating one row changes a sum by the change of that row.** -/
theorem total_modify {t : Table κ ρ} {k : κ} {r : ρ} (g : ρ → ρ) (f : κ → ρ → M) (h : t.lookup k = some r) :
    (t.modify k g).total f = t.total f + (f k (g r) - f k r) := by
  have := sum_map_modify k g f t.entries t.nodupKeys
  rw [show List.dlookup k t.entries = some r from h] at this
  exact this

/-- A sum depends on the rows alone, not on their order. -/
theorem total_eq_of_lookup {t t' : Table κ ρ} (f : κ → ρ → M) (h : ∀ k, t.lookup k = t'.lookup k) : t.total f = t'.total f := by
  have hperm : t.entries.Perm t'.entries := by
    refine List.lookup_ext t.nodupKeys t'.nodupKeys fun k r => ?_
    rw [show List.dlookup k t.entries = _ from h k]
    rfl
  exact (hperm.map _).sum_eq

/-- A row apart from all the others. -/
theorem total_erase (t : Table κ ρ) (k : κ) (f : κ → ρ → M) : t.total f = (t.lookup k).elim 0 (f k) + (t.erase k).total f := by
  cases hk : t.lookup k with
  | none =>
    rw [Option.elim_none, zero_add]
    refine total_eq_of_lookup f fun k' => ?_
    rw [lookup_erase_eq]
    split
    · rename_i h
      rw [h, hk]
    · rfl
  | some r =>
    rw [Option.elim_some, ← total_insert r f (lookup_erase k t)]
    refine total_eq_of_lookup f fun k' => ?_
    by_cases h : k' = k
    · rw [h, hk, lookup_insert]
    · rw [lookup_insert_ne h, lookup_erase_ne h]

/-- **Where only one row changes, a sum changes by the change of that row.** -/
theorem total_step {t t' : Table κ ρ} {k : κ} (f : κ → ρ → M) (h : ∀ k', k' ≠ k → t'.lookup k' = t.lookup k') :
    t'.total f + (t.lookup k).elim 0 (f k) = t.total f + (t'.lookup k).elim 0 (f k) := by
  have hrest : (t'.erase k).total f = (t.erase k).total f := by
    refine total_eq_of_lookup f fun k' => ?_
    by_cases hk : k' = k
    · rw [hk, lookup_erase, lookup_erase]
    · rw [lookup_erase_ne hk, lookup_erase_ne hk, h k' hk]
  rw [total_erase t' k f, total_erase t k f, hrest]
  abel

/-- A sum as a sum over keys, among them all the table has. -/
theorem total_eq_sum (f : κ → ρ → M) (t : Table κ ρ) : ∀ S : Finset κ, (∀ k ∈ t, k ∈ S) →
    t.total f = ∑ k ∈ S, (t.lookup k).elim 0 (f k) := by
  induction t using AList.insertRec with
  | H0 =>
    intro S _
    simp
  | IH k r t hk ih =>
    intro S hS
    have hkS : k ∈ S := hS k ((mem_insert _).2 (.inl rfl))
    have hrest : ∀ k' ∈ S.erase k, ((t.insert k r).lookup k').elim 0 (f k') = (t.lookup k').elim 0 (f k') := by
      intro k' hk'
      rw [lookup_insert_ne (Finset.ne_of_mem_erase hk')]
    rw [total_insert r f (lookup_eq_none.2 hk), ← Finset.add_sum_erase S _ hkS, lookup_insert, Finset.sum_congr rfl hrest,
      ih (S.erase k) fun k' hk' => Finset.mem_erase.2 ⟨fun h => hk (h ▸ hk'), hS k' ((mem_insert _).2 (.inr hk'))⟩]
    rfl

/-- **Where only one row counts for more or less, a sum changes by what it counts for.** -/
theorem total_change {t : Table κ ρ} {k : κ} {r : ρ} {f g : κ → ρ → M} (hr : t.lookup k = some r)
    (h : ∀ k' r', k' ≠ k → g k' r' = f k' r') : t.total g = t.total f + (g k r - f k r) := by
  have hrest : (t.erase k).total g = (t.erase k).total f := by
    refine total_congr fun k' r' hr' => h k' r' ?_
    rintro rfl
    rw [lookup_erase] at hr'
    cases hr'
  rw [total_erase t k f, total_erase t k g, hrest, hr, Option.elim_some, Option.elim_some]
  abel

/-- Where no key counts for more or less, the sums agree. -/
theorem total_eq_of_elim {t t' : Table κ ρ} {f : κ → ρ → M} (h : ∀ k, (t.lookup k).elim 0 (f k) = (t'.lookup k).elim 0 (f k)) :
    t.total f = t'.total f := by
  have hmem : ∀ {t : Table κ ρ} {k}, k ∈ t → k ∈ t.keys.toFinset := fun h => List.mem_toFinset.2 (mem_keys.1 h)
  rw [total_eq_sum f t (t.keys.toFinset ∪ t'.keys.toFinset) fun k hk => Finset.mem_union_left _ (hmem hk),
    total_eq_sum f t' (t.keys.toFinset ∪ t'.keys.toFinset) fun k hk => Finset.mem_union_right _ (hmem hk)]
  exact Finset.sum_congr rfl fun k _ => h k

end Total

section Order
variable {M : Type} [AddCommGroup M] [PartialOrder M] [IsOrderedAddMonoid M]

theorem total_nonneg {t : Table κ ρ} {f : κ → ρ → M} (h : ∀ k r, t.lookup k = some r → 0 ≤ f k r) : 0 ≤ t.total f := by
  unfold total
  apply List.sum_nonneg
  intro x hx
  obtain ⟨e, he, rfl⟩ := List.mem_map.1 hx
  exact h e.1 e.2 (mem_lookup_iff.2 he)

theorem total_le_total {t : Table κ ρ} {f g : κ → ρ → M} (h : ∀ k r, t.lookup k = some r → f k r ≤ g k r) : t.total f ≤ t.total g := by
  unfold total
  exact List.sum_le_sum fun e he => h e.1 e.2 (mem_lookup_iff.2 he)

/-- A column that is nowhere more than another has its sum only when it is the same. -/
theorem total_eq_total_iff {t : Table κ ρ} {f g : κ → ρ → M} (h : ∀ k r, t.lookup k = some r → f k r ≤ g k r) :
    t.total f = t.total g ↔ ∀ k r, t.lookup k = some r → f k r = g k r := by
  refine ⟨fun heq k r hr => ?_, total_congr⟩
  have hrest : (t.erase k).total f ≤ (t.erase k).total g := by
    refine total_le_total fun k' r' hr' => h k' r' ?_
    rw [lookup_erase_eq] at hr'
    split at hr'
    · cases hr'
    · exact hr'
  rw [total_erase t k f, total_erase t k g, hr, Option.elim_some, Option.elim_some] at heq
  exact ((add_eq_add_iff_eq_and_eq (h k r hr) hrest).1 heq).1

/-- One row of a nonnegative column is at most the sum. -/
theorem le_total {t : Table κ ρ} {f : κ → ρ → M} (h : ∀ k r, t.lookup k = some r → 0 ≤ f k r) {k : κ} {r : ρ}
    (hk : t.lookup k = some r) : f k r ≤ t.total f := by
  have hm : (⟨k, r⟩ : Sigma fun _ : κ => ρ) ∈ t.entries := mem_lookup_iff.1 hk
  unfold total
  obtain ⟨l₁, l₂, hl⟩ := List.append_of_mem hm
  have h1 : 0 ≤ (l₁.map (fun e => f e.1 e.2)).sum := List.sum_nonneg (fun x hx => by
    obtain ⟨e, he, rfl⟩ := List.mem_map.1 hx
    exact h e.1 e.2 (mem_lookup_iff.2 (by rw [hl]; exact List.mem_append_left _ he)))
  have h2 : 0 ≤ (l₂.map (fun e => f e.1 e.2)).sum := List.sum_nonneg (fun x hx => by
    obtain ⟨e, he, rfl⟩ := List.mem_map.1 hx
    exact h e.1 e.2 (mem_lookup_iff.2 (by rw [hl]; exact List.mem_append_right _ (List.mem_cons_of_mem _ he))))
  rw [hl, List.map_append, List.map_cons, List.sum_append, List.sum_cons]
  calc f k r = 0 + (f k r + 0) := by rw [zero_add, add_zero]
    _ ≤ _ := add_le_add h1 (add_le_add le_rfl h2)

/-- Where every key counts for no more, the sum is no more. -/
theorem total_le_of_elim {t t' : Table κ ρ} {f : κ → ρ → M} (h : ∀ k, (t.lookup k).elim 0 (f k) ≤ (t'.lookup k).elim 0 (f k)) :
    t.total f ≤ t'.total f := by
  have hmem : ∀ {t : Table κ ρ} {k}, k ∈ t → k ∈ t.keys.toFinset := fun h => List.mem_toFinset.2 (mem_keys.1 h)
  rw [total_eq_sum f t (t.keys.toFinset ∪ t'.keys.toFinset) fun k hk => Finset.mem_union_left _ (hmem hk),
    total_eq_sum f t' (t.keys.toFinset ∪ t'.keys.toFinset) fun k hk => Finset.mem_union_right _ (hmem hk)]
  exact Finset.sum_le_sum fun k _ => h k

end Order

/-! ## How many rows -/

section Count
variable {p : κ → ρ → Bool}

/-- `SELECT COUNT(*) … WHERE p`. -/
def count (t : Table κ ρ) (p : κ → ρ → Bool) : ℤ := t.total fun k r => if p k r then 1 else 0

omit [DecidableEq κ] in
theorem count_eq_length (t : Table κ ρ) (p : κ → ρ → Bool) : t.count p = (t.select p).length := by
  unfold count total select
  induction t.entries with
  | nil => rfl
  | cons e es ih =>
    rw [List.map_cons, List.sum_cons, ih, List.filter_cons]
    by_cases hp : p e.1 e.2 = true
    · rw [if_pos hp, List.map_cons, List.length_cons, Nat.cast_add, Nat.cast_one, add_comm]
      simp only [hp, if_true]
    · rw [if_neg hp]
      simp only [hp, Bool.false_eq_true, if_false, zero_add]

omit [DecidableEq κ] in
theorem count_nonneg (t : Table κ ρ) (p : κ → ρ → Bool) : 0 ≤ t.count p := by
  rw [count_eq_length]
  exact Int.natCast_nonneg _

omit [DecidableEq κ] in
theorem count_le_count {t : Table κ ρ} {p q : κ → ρ → Bool} (h : ∀ k r, p k r = true → q k r = true) : t.count p ≤ t.count q := by
  unfold count total
  refine List.sum_le_sum fun e _ => ?_
  by_cases hp : p e.1 e.2 = true
  · simp only [hp, h _ _ hp, if_true, le_refl]
  · simp only [hp, Bool.false_eq_true, if_false]
    split <;> decide

theorem count_erase {t : Table κ ρ} {k : κ} {r : ρ} (h : t.lookup k = some r) :
    t.count p = (if p k r then 1 else 0) + (t.erase k).count p := by
  unfold count
  rw [total_erase t k, h]
  rfl

theorem count_insertNew {t : Table κ ρ} {k : κ} (r : ρ) (h : t.lookup k = none) :
    (t.insertNew k r).count p = (if p k r then 1 else 0) + t.count p := by
  unfold count
  rw [insertNew_of_none r h, total_insert r _ h]

/-- Where every counted row was there before, there are no more of them. -/
theorem count_mono {t t' : Table κ ρ} (h : ∀ k r, t'.lookup k = some r → p k r = true → t.lookup k = some r) :
    t'.count p ≤ t.count p := by
  have hpos : ∀ k (x : Option ρ), 0 ≤ x.elim (0 : ℤ) fun r => if p k r then 1 else 0 := by
    intro k x
    cases x with
    | none => exact le_rfl
    | some r =>
      rw [Option.elim_some]
      split <;> decide
  refine total_le_of_elim fun k => ?_
  cases hk : t'.lookup k with
  | none => exact hpos _ _
  | some r =>
    by_cases hp : p k r = true
    · rw [h k r hk hp]
    · rw [Option.elim_some, if_neg hp]
      exact hpos _ _

end Count

end AList
