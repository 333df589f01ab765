import Mathlib.Algebra.BigOperators.Group.List.Basic
import Mathlib.Data.List.Nodup
/-!
# Fusion — contributions put together by key

A list of entries stands for a map in the order its keys came in.  A contribution is added to the entry of its key, or put at
the end as a new one: the scores are added up (`total_addAll`), and what becomes of the values is up to the caller
(`valueOf_addAll`).
-/
namespace Fusion

variable {κ α M : Type} [DecidableEq κ] [AddCommMonoid M]

structure Entry (κ α M : Type) where
  key : κ
  value : α
  score : M

def keys (entries : List (Entry κ α M)) : List κ := entries.map (·.key)

/-- The scores of a key's entries, added up. -/
def total (entries : List (Entry κ α M)) (k : κ) : M := (entries.map fun e => if e.key = k then e.score else 0).sum

/-- One contribution; of the value there is and the new one, `keep` is kept. -/
def add (keep : α → α → α) (entries : List (Entry κ α M)) (c : Entry κ α M) : List (Entry κ α M) :=
  match entries with
  | [] => [c]
  | e :: rest => if e.key = c.key then { e with value := keep e.value c.value, score := e.score + c.score } :: rest
    else e :: add keep rest c

theorem total_append (X Y : List (Entry κ α M)) (k : κ) : total (X ++ Y) k = total X k + total Y k := by
  unfold total
  rw [List.map_append, List.sum_append]

theorem total_cons (e : Entry κ α M) (rest : List (Entry κ α M)) (k : κ) :
    total (e :: rest) k = (if e.key = k then e.score else 0) + total rest k := by
  unfold total
  rw [List.map_cons, List.sum_cons]

theorem total_eq_zero {entries : List (Entry κ α M)} {k : κ} (h : k ∉ keys entries) : total entries k = 0 := by
  refine List.sum_eq_zero fun x hx => ?_
  obtain ⟨e, he, rfl⟩ := List.mem_map.1 hx
  exact if_neg fun hk => h (List.mem_map.2 ⟨e, he, hk⟩)

theorem total_of_mem {entries : List (Entry κ α M)} (hnodup : (keys entries).Nodup) {e : Entry κ α M} (he : e ∈ entries) :
    total entries e.key = e.score := by
  induction entries with
  | nil => cases he
  | cons x rest ih =>
    obtain ⟨hnot, hrest⟩ := List.nodup_cons.1 hnodup
    rw [total_cons]
    obtain rfl | he := List.mem_cons.1 he
    · rw [if_pos rfl, total_eq_zero hnot, add_zero]
    · have hne : x.key ≠ e.key := fun h => hnot (List.mem_map.2 ⟨e, he, h.symm⟩)
      rw [if_neg hne, zero_add, ih hrest he]

section Adding
variable (keep : α → α → α)

theorem keys_add (entries : List (Entry κ α M)) (c : Entry κ α M) :
    keys (add keep entries c) = if c.key ∈ keys entries then keys entries else keys entries ++ [c.key] := by
  induction entries with
  | nil => rfl
  | cons e rest ih =>
    unfold add
    by_cases h : e.key = c.key
    · simp [keys, h]
    · have hne : c.key ≠ e.key := fun hc => h hc.symm
      have hkeys : keys (e :: rest) = e.key :: keys rest := rfl
      rw [if_neg h, hkeys, show keys (e :: add keep rest c) = e.key :: keys (add keep rest c) from rfl, ih]
      by_cases hm : c.key ∈ keys rest <;> simp [hm, hne]

theorem add_of_new {entries : List (Entry κ α M)} {c : Entry κ α M} (h : c.key ∉ keys entries) :
    add keep entries c = entries ++ [c] := by
  induction entries with
  | nil => rfl
  | cons e rest ih =>
    obtain ⟨hne, hrest⟩ := not_or.1 (mt List.mem_cons.2 h)
    rw [add, if_neg fun he => hne he.symm, ih hrest, List.cons_append]

theorem mem_keys_add (entries : List (Entry κ α M)) (c : Entry κ α M) (k : κ) :
    k ∈ keys (add keep entries c) ↔ k ∈ keys entries ∨ k = c.key := by
  rw [keys_add]
  split
  · rename_i hm
    exact ⟨.inl, fun h => h.elim id fun hk => hk ▸ hm⟩
  · rw [List.mem_append, List.mem_singleton]

theorem nodup_add {entries : List (Entry κ α M)} (h : (keys entries).Nodup) (c : Entry κ α M) :
    (keys (add keep entries c)).Nodup := by
  rw [keys_add]
  split
  · exact h
  · rename_i hm
    exact List.nodup_append.2 ⟨h, List.nodup_singleton _, fun a ha b hb hab => hm (List.mem_singleton.1 hb ▸ hab ▸ ha)⟩

theorem total_add (entries : List (Entry κ α M)) (c : Entry κ α M) (k : κ) :
    total (add keep entries c) k = total entries k + if c.key = k then c.score else 0 := by
  induction entries with
  | nil => rw [add, total_cons]; exact add_comm _ _
  | cons e rest ih =>
    unfold add
    by_cases h : e.key = c.key
    · rw [if_pos h, total_cons, total_cons]
      by_cases hk : e.key = k
      · rw [if_pos hk, if_pos hk, if_pos (h ▸ hk), add_right_comm]
      · rw [if_neg hk, if_neg hk, if_neg (h ▸ hk), add_zero]
    · rw [if_neg h, total_cons, total_cons, ih, add_assoc]

/-- What holds of every key and its value keeps holding. -/
theorem forall_add {P : κ → α → Prop} (hkeep : ∀ k a b, P k a → P k b → P k (keep a b)) {entries : List (Entry κ α M)}
    (h : ∀ e ∈ entries, P e.key e.value) {c : Entry κ α M} (hc : P c.key c.value) :
    ∀ e ∈ add keep entries c, P e.key e.value := by
  induction entries with
  | nil => intro e he; rw [List.mem_singleton.1 he]; exact hc
  | cons x rest ih =>
    obtain ⟨hx, hrest⟩ := List.forall_mem_cons.1 h
    unfold add
    split
    · rename_i heq
      exact List.forall_mem_cons.2 ⟨hkeep _ _ _ hx (heq ▸ hc), hrest⟩
    · exact List.forall_mem_cons.2 ⟨hx, ih hrest⟩

end Adding

/-- All contributions, one after another. -/
def addAll (keep : α → α → α) (entries cs : List (Entry κ α M)) : List (Entry κ α M) := cs.foldl (add keep) entries

section All
variable (keep : α → α → α)

theorem mem_keys_addAll (cs entries : List (Entry κ α M)) (k : κ) :
    k ∈ keys (addAll keep entries cs) ↔ k ∈ keys entries ∨ k ∈ keys cs := by
  induction cs generalizing entries with
  | nil => simp [addAll, keys]
  | cons c cs ih =>
    rw [addAll, List.foldl_cons, ← addAll, ih, mem_keys_add, show keys (c :: cs) = c.key :: keys cs from rfl, List.mem_cons, or_assoc]

theorem nodup_addAll (cs : List (Entry κ α M)) {entries : List (Entry κ α M)} (h : (keys entries).Nodup) :
    (keys (addAll keep entries cs)).Nodup := by
  induction cs generalizing entries with
  | nil => exact h
  | cons c cs ih => exact ih (nodup_add keep h c)

/-- **Every key has the sum of its contributions.** -/
theorem total_addAll (cs entries : List (Entry κ α M)) (k : κ) :
    total (addAll keep entries cs) k = total entries k + total cs k := by
  induction cs generalizing entries with
  | nil => exact (add_zero _).symm
  | cons c cs ih => rw [addAll, List.foldl_cons, ← addAll, ih, total_add, total_cons, add_assoc]

theorem forall_addAll {P : κ → α → Prop} (hkeep : ∀ k a b, P k a → P k b → P k (keep a b)) {cs entries : List (Entry κ α M)}
    (h : ∀ e ∈ entries, P e.key e.value) (hcs : ∀ c ∈ cs, P c.key c.value) :
    ∀ e ∈ addAll keep entries cs, P e.key e.value := by
  induction cs generalizing entries with
  | nil => exact h
  | cons c cs ih =>
    obtain ⟨hc, hrest⟩ := List.forall_mem_cons.1 hcs
    exact ih (forall_add keep hkeep h hc) hrest

/-- Contributions of different keys are the map themselves. -/
theorem addAll_of_nodup (cs entries : List (Entry κ α M)) (h : (keys (entries ++ cs)).Nodup) :
    addAll keep entries cs = entries ++ cs := by
  induction cs generalizing entries with
  | nil => exact (List.append_nil _).symm
  | cons c cs ih =>
    have hnew : c.key ∉ keys entries := by
      unfold keys at h
      rw [List.map_append, List.map_cons] at h
      exact fun hmem => (List.nodup_append.1 h).2.2 _ hmem _ List.mem_cons_self rfl
    rw [addAll, List.foldl_cons, ← addAll, add_of_new keep hnew, ih _ (by rwa [List.append_assoc, List.singleton_append]),
      List.append_assoc, List.singleton_append]

/-- A map as long as its contributions has one for each key. -/
theorem nodup_of_length {cs : List (Entry κ α M)} (h : cs.length ≤ (addAll keep [] cs).length) : (keys cs).Nodup := by
  have hnil : (keys ([] : List (Entry κ α M))).Nodup := List.nodup_nil
  have hnodup := nodup_addAll keep cs hnil
  have hsub : keys (addAll keep [] cs) ⊆ keys cs := fun k hk =>
    ((mem_keys_addAll keep cs [] k).1 hk).resolve_left fun hk => (nomatch hk)
  have hperm : (keys (addAll keep [] cs)).Perm (keys cs) :=
    (List.subperm_of_subset hnodup hsub).perm_of_length_le (by simpa [keys] using h)
  exact hperm.nodup_iff.1 hnodup

end All

/-! ## The value of a key -/

def valueOf (entries : List (Entry κ α M)) (k : κ) : Option α := (entries.find? fun e => e.key = k).map (·.value)

/-- The values of a key, put together in the order they come in. -/
def merged (keep : α → α → α) : List α → Option α
  | [] => none
  | v :: vs => some (vs.foldl keep v)

omit [AddCommMonoid M] in
theorem valueOf_cons (e : Entry κ α M) (rest : List (Entry κ α M)) (k : κ) :
    valueOf (e :: rest) k = if e.key = k then some e.value else valueOf rest k := by
  unfold valueOf
  by_cases h : e.key = k <;> simp [h]

omit [AddCommMonoid M] in
theorem valueOf_of_mem {entries : List (Entry κ α M)} (hnodup : (keys entries).Nodup) {e : Entry κ α M} (he : e ∈ entries) :
    valueOf entries e.key = some e.value := by
  induction entries with
  | nil => cases he
  | cons x rest ih =>
    obtain ⟨hnot, hrest⟩ := List.nodup_cons.1 hnodup
    rw [valueOf_cons]
    obtain rfl | he := List.mem_cons.1 he
    · exact if_pos rfl
    · have hne : x.key ≠ e.key := fun h => hnot (List.mem_map.2 ⟨e, he, h.symm⟩)
      rw [if_neg hne, ih hrest he]

omit [AddCommMonoid M] in
theorem exists_of_valueOf {entries : List (Entry κ α M)} {k : κ} {v : α} (h : valueOf entries k = some v) :
    ∃ e ∈ entries, e.key = k ∧ e.value = v := by
  obtain ⟨e, he, rfl⟩ := Option.map_eq_some_iff.1 h
  exact ⟨e, List.mem_of_find?_eq_some he, by simpa using List.find?_some he, rfl⟩

section Values
variable (keep : α → α → α)

theorem valueOf_add (entries : List (Entry κ α M)) (c : Entry κ α M) (k : κ) : valueOf (add keep entries c) k =
    if c.key = k then some ((valueOf entries k).elim c.value fun v => keep v c.value) else valueOf entries k := by
  induction entries with
  | nil => rw [add, valueOf_cons]; rfl
  | cons e rest ih =>
    unfold add
    by_cases hkey : e.key = c.key
    · rw [if_pos hkey, valueOf_cons, valueOf_cons]
      by_cases hk : e.key = k
      · rw [if_pos hk, if_pos hk, if_pos (hkey ▸ hk)]
        rfl
      · rw [if_neg hk, if_neg hk, if_neg (hkey ▸ hk)]
    · rw [if_neg hkey, valueOf_cons, valueOf_cons, ih]
      by_cases hk : e.key = k
      · rw [if_pos hk, if_pos hk, if_neg fun hc => hkey (hk.trans hc.symm)]
      · rw [if_neg hk, if_neg hk]

/-- **A key's value** is what its contributions put together are. -/
theorem valueOf_addAll (cs entries : List (Entry κ α M)) (k : κ) : valueOf (addAll keep entries cs) k =
    merged keep ((valueOf entries k).toList ++ (cs.filter fun c => c.key = k).map (·.value)) := by
  induction cs generalizing entries with
  | nil => cases h : valueOf entries k <;> simp [addAll, merged, h]
  | cons c cs ih =>
    rw [addAll, List.foldl_cons, ← addAll, ih, valueOf_add]
    by_cases hc : c.key = k
    · cases h : valueOf entries k <;> simp [hc, merged]
    · simp [hc]

end Values
end Fusion
