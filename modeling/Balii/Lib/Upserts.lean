import Balii.Lib.Table
import Mathlib.Data.List.Range
/-!
# Upserts — a table written batch by batch

A row is written over the one that has its key.  Rows that are written in batches leave what they leave in one (`upsert_append`,
`flatten_batches`), and where their keys differ each of them is found afterwards.
-/

namespace AList

variable {κ ρ : Type} [DecidableEq κ] {t : Table κ ρ} {rows : List (κ × ρ)} {k : κ} {r : ρ}

/-- Each row in the place of the row with its key, or added. -/
def upsert (t : Table κ ρ) (rows : List (κ × ρ)) : Table κ ρ := rows.foldl (fun t e => t.insert e.1 e.2) t

theorem upsert_append (t : Table κ ρ) (rows rows' : List (κ × ρ)) : t.upsert (rows ++ rows') = (t.upsert rows).upsert rows' :=
  List.foldl_append

theorem upsert_snoc (t : Table κ ρ) (rows : List (κ × ρ)) (e : κ × ρ) : t.upsert (rows ++ [e]) = (t.upsert rows).insert e.1 e.2 :=
  upsert_append t rows [e]

/-- **A row is found under its key**, where the keys differ. -/
theorem lookup_upsert_of_mem (hrows : (rows.map Prod.fst).Nodup) (h : (k, r) ∈ rows) : (t.upsert rows).lookup k = some r := by
  induction rows using List.reverseRecOn with
  | nil => cases h
  | append_singleton rows e ih =>
    rw [List.map_append, List.nodup_append] at hrows
    obtain ⟨hinit, -, hne⟩ := hrows
    rw [upsert_snoc]
    rcases List.mem_append.1 h with h | h
    · have hk : k ≠ e.1 := hne k (List.mem_map_of_mem h) e.1 (by simp)
      rw [lookup_insert_ne hk, ih hinit h]
    · obtain rfl := List.mem_singleton.1 h
      exact lookup_insert _

/-- What is found was written, or was there. -/
theorem lookup_upsert_cases (h : (t.upsert rows).lookup k = some r) : (k, r) ∈ rows ∨ t.lookup k = some r := by
  induction rows using List.reverseRecOn with
  | nil => exact .inr h
  | append_singleton rows e ih =>
    rw [upsert_snoc] at h
    by_cases hk : k = e.1
    · subst hk
      rw [lookup_insert] at h
      exact .inl (by simp [← Option.some.inj h])
    · rw [lookup_insert_ne hk] at h
      exact (ih h).imp_left fun hmem => List.mem_append_left _ hmem

end AList

namespace Batches

variable {α : Type}

/-- `for (let index = 0; index < items.length; index += size) chunks.push(items.slice(index, index + size))`. -/
def batches (size : ℕ) (items : List α) : List (List α) :=
  (List.range' 0 ((items.length + size - 1) / size) size).map fun index => (items.drop index).take size

theorem flatMap_slices (size : ℕ) (items : List α) (start count : ℕ) :
    (List.range' start count size).flatMap (fun index => (items.drop index).take size) = (items.drop start).take (count * size) := by
  induction count generalizing start with
  | zero => simp
  | succ count ih =>
    rw [List.range'_succ, List.flatMap_cons, ih, Nat.succ_mul, Nat.add_comm (count * size), List.take_add, List.drop_drop]

/-- **The batches are the items**, in their order. -/
theorem flatten_batches {size : ℕ} (h : 0 < size) (items : List α) : (batches size items).flatten = items := by
  have hcount : items.length ≤ (items.length + size - 1) / size * size := by
    have hdiv := Nat.div_add_mod (items.length + size - 1) size
    have hmod := Nat.mod_lt (items.length + size - 1) h
    rw [Nat.mul_comm] at hdiv
    omega
  unfold batches
  rw [← List.flatMap_def, flatMap_slices, List.drop_zero, List.take_of_length_le hcount]

end Batches
