import Balii.Lib.Table
import Balii.Lib.Tx
/-!
# Database — a family of tables as a row store

A schema names its tables, each with its key and row types, and the index entries an `INSERT` waits for.  Its database is
one table for each name and an append-only log; `Write` are the row writes of SQL.  Every write touches the one row it
names, so the database is a `Store`, and each write has its law for every table.
-/
namespace Rowdb

structure Schema where
  Tab : Type
  Key : Tab → Type
  Row : Tab → Type
  Entry : Type
  Log : Type
  decTab : DecidableEq Tab
  decKey : (t : Tab) → DecidableEq (Key t)

variable {D : Schema}

@[reducible] instance : DecidableEq D.Tab := D.decTab

@[reducible] instance (t : D.Tab) : DecidableEq (D.Key t) := D.decKey t

structure Database (D : Schema) where
  rows : (t : D.Tab) → Table (D.Key t) (D.Row t)
  log : List D.Log

/-- What a transaction can lock: a row, there or not yet there, or the entry of a unique index. -/
inductive LockKey (D : Schema)
  | row (t : D.Tab) (k : D.Key t)
  | entry (e : D.Entry)

def LockKey.Content : LockKey D → Type
  | .row t _ => Option (D.Row t)
  | .entry _ => Unit

inductive Write (D : Schema)
  | insert (t : D.Tab) (k : D.Key t) (r : D.Row t)
  | update (t : D.Tab) (k : D.Key t) (f : D.Row t → D.Row t)
  | delete (t : D.Tab) (k : D.Key t)
  | append (l : D.Log)

namespace Database

def find (s : Database D) (t : D.Tab) (k : D.Key t) : Option (D.Row t) := (s.rows t).lookup k

def set (s : Database D) (t : D.Tab) (tab : Table (D.Key t) (D.Row t)) : Database D :=
  { s with rows := Function.update s.rows t tab }

@[simp] theorem set_rows_self (s : Database D) (t : D.Tab) (tab : Table (D.Key t) (D.Row t)) : (s.set t tab).rows t = tab :=
  Function.update_self ..

@[simp] theorem set_rows_ne (s : Database D) {t t' : D.Tab} (tab : Table (D.Key t) (D.Row t)) (h : t' ≠ t) :
    (s.set t tab).rows t' = s.rows t' :=
  Function.update_of_ne h ..

theorem find_of_modify {s b : Database D} {t : D.Tab} {k : D.Key t} {f : D.Row t → D.Row t}
    (h : b.rows t = (s.rows t).modify k f) (k' : D.Key t) :
    b.find t k' = if k' = k then (s.find t k').map f else s.find t k' := by
  unfold find
  rw [h, AList.lookup_modify]

theorem find_of_rows {s b : Database D} {t : D.Tab} (h : b.rows t = s.rows t) (k : D.Key t) : b.find t k = s.find t k := by
  unfold find
  rw [h]

end Database

namespace Write

def apply (w : Write D) (s : Database D) : Database D :=
  match w with
  | .insert t k r => s.set t ((s.rows t).insertNew k r)
  | .update t k f => s.set t ((s.rows t).modify k f)
  | .delete t k => s.set t ((s.rows t).erase k)
  | .append l => { s with log := s.log ++ [l] }

def keys : Write D → List (LockKey D)
  | .insert t k _ => [.row t k]
  | .update t k _ => [.row t k]
  | .delete t k => [.row t k]
  | .append _ => []

/-- The tables a write can change. -/
def tab? : Write D → Option D.Tab
  | .insert t _ _ => some t
  | .update t _ _ => some t
  | .delete t _ => some t
  | .append _ => none

end Write

def LockKey.get (s : Database D) : (k : LockKey D) → k.Content
  | .row t k => s.find t k
  | .entry _ => ()

/-- A row changes only by a write that names it. -/
theorem Write.get_apply_of_notMem {w : Write D} {k : LockKey D} (s : Database D) (h : k ∉ w.keys) :
    k.get (w.apply s) = k.get s := by
  cases k with
  | entry e => rfl
  | row t k =>
    have set_ne : ∀ (t' : D.Tab) (k' : D.Key t') (tab : Table (D.Key t') (D.Row t')), LockKey.row t k ≠ .row t' k' →
        (∀ q, q ≠ k' → tab.lookup q = (s.rows t').lookup q) → ((s.set t' tab).rows t).lookup k = (s.rows t).lookup k := by
      intro t' k' tab hne hq
      by_cases ht : t = t'
      · subst ht
        rw [Database.set_rows_self]
        exact hq k fun hk => hne (hk ▸ rfl)
      · rw [Database.set_rows_ne _ _ ht]
    cases w with
    | insert t' k' r => exact set_ne t' k' _ (List.ne_of_not_mem_cons h) fun q hq => AList.lookup_insertNew_ne _ _ hq
    | update t' k' f => exact set_ne t' k' _ (List.ne_of_not_mem_cons h) fun q hq => AList.lookup_modify_ne _ _ hq
    | delete t' k' => exact set_ne t' k' _ (List.ne_of_not_mem_cons h) fun q hq => AList.lookup_erase_ne hq
    | append l => rfl

/-- What a write makes of its row depends on that row alone. -/
theorem Write.get_apply_congr {w : Write D} {s s' : Database D} (h : ∀ k ∈ w.keys, k.get s = k.get s') :
    ∀ k ∈ w.keys, k.get (w.apply s) = k.get (w.apply s') := by
  intro q hq
  cases w with
  | insert t k r =>
    cases List.mem_singleton.1 hq
    have hk : (s.rows t).lookup k = (s'.rows t).lookup k := h _ List.mem_cons_self
    show ((s.set t _).rows t).lookup k = ((s'.set t _).rows t).lookup k
    rw [Database.set_rows_self, Database.set_rows_self, AList.lookup_insertNew, AList.lookup_insertNew, hk]
  | update t k f =>
    cases List.mem_singleton.1 hq
    have hk : (s.rows t).lookup k = (s'.rows t).lookup k := h _ List.mem_cons_self
    show ((s.set t _).rows t).lookup k = ((s'.set t _).rows t).lookup k
    rw [Database.set_rows_self, Database.set_rows_self, AList.lookup_modify_self, AList.lookup_modify_self, hk]
  | delete t k =>
    cases List.mem_singleton.1 hq
    show ((s.set t _).rows t).lookup k = ((s'.set t _).rows t).lookup k
    rw [Database.set_rows_self, Database.set_rows_self, AList.lookup_erase, AList.lookup_erase]
  | append l => cases hq

/-- The row a write names is in its table. -/
theorem Write.tab_of_mem_keys {w : Write D} {t : D.Tab} {k : D.Key t} (h : LockKey.row t k ∈ w.keys) : w.tab? = some t := by
  cases w with
  | append l => cases h
  | _ =>
    cases List.mem_singleton.1 h
    rfl

instance : Store (Database D) (LockKey.Content (D := D)) (Write D) where
  get := LockKey.get
  keys := Write.keys
  apply := Write.apply
  get_apply_of_notMem := Write.get_apply_of_notMem
  get_apply_congr := Write.get_apply_congr

/-! ## What the writes of a transaction leave -/

/-- The state after a list of writes. -/
def written (ws : List (Write D)) (s : Database D) : Database D := Tx.applyAll (LockKey.Content (D := D)) ws s

@[simp] theorem applyAll_eq_written (ws : List (Write D)) (s : Database D) :
    Tx.applyAll (LockKey.Content (D := D)) ws s = written ws s := rfl

@[simp] theorem written_nil (s : Database D) : written [] s = s := rfl

@[simp] theorem written_cons (w : Write D) (ws : List (Write D)) (s : Database D) :
    written (w :: ws) s = written ws (w.apply s) := rfl

@[simp] theorem written_append (ws vs : List (Write D)) (s : Database D) : written (ws ++ vs) s = written vs (written ws s) :=
  Tx.applyAll_append ws vs s

/-! ## One write, one table -/

section OneWrite
variable {s : Database D} {t : D.Tab} {k : D.Key t}

@[simp] theorem find_update (k' : D.Key t) (f : D.Row t → D.Row t) :
    ((Write.update t k f).apply s).find t k' = if k' = k then (s.find t k').map f else s.find t k' := by
  unfold Write.apply Database.find
  rw [Database.set_rows_self, AList.lookup_modify]

@[simp] theorem find_insert (k' : D.Key t) (r : D.Row t) :
    ((Write.insert t k r).apply s).find t k' = if k' = k then some ((s.find t k').getD r) else s.find t k' := by
  unfold Write.apply Database.find
  rw [Database.set_rows_self, AList.lookup_insertNew]

@[simp] theorem find_delete (k' : D.Key t) :
    ((Write.delete t k : Write D).apply s).find t k' = if k' = k then none else s.find t k' := by
  unfold Write.apply Database.find
  rw [Database.set_rows_self, AList.lookup_erase_eq]

@[simp] theorem rows_update (f : D.Row t → D.Row t) : ((Write.update t k f).apply s).rows t = (s.rows t).modify k f :=
  Database.set_rows_self ..

/-- A table no write names is the table it was. -/
theorem rows_apply {w : Write D} {t : D.Tab} (s : Database D) (h : w.tab? ≠ some t) : (w.apply s).rows t = s.rows t := by
  cases w with
  | insert t' k r => exact Database.set_rows_ne _ _ fun ht => h (congrArg some ht.symm)
  | update t' k f => exact Database.set_rows_ne _ _ fun ht => h (congrArg some ht.symm)
  | delete t' k => exact Database.set_rows_ne _ _ fun ht => h (congrArg some ht.symm)
  | append l => rfl

theorem find_apply {w : Write D} {t : D.Tab} (s : Database D) (k : D.Key t) (h : w.tab? ≠ some t) :
    (w.apply s).find t k = s.find t k := by
  unfold Database.find
  rw [rows_apply s h]

theorem rows_written {ws : List (Write D)} {t : D.Tab} : ∀ (s : Database D), (∀ w ∈ ws, w.tab? ≠ some t) →
    (written ws s).rows t = s.rows t := by
  induction ws with
  | nil => exact fun _ _ => rfl
  | cons w ws ih =>
    intro s h
    rw [written_cons, ih _ fun v hv => h v (List.mem_cons_of_mem _ hv), rows_apply s (h w List.mem_cons_self)]

theorem find_written {ws : List (Write D)} {t : D.Tab} (s : Database D) (k : D.Key t) (h : ∀ w ∈ ws, w.tab? ≠ some t) :
    (written ws s).find t k = s.find t k := by
  unfold Database.find
  rw [rows_written s h]

theorem find_written_of_notMem {ws : List (Write D)} (s : Database D) (h : ∀ w ∈ ws, LockKey.row t k ∉ w.keys) :
    (written ws s).find t k = s.find t k :=
  @Tx.get_applyAll_of_notMem _ _ _ LockKey.Content _ (LockKey.row t k) ws s h

/-- Whether a row is there after some writes depends on whether it was there before. -/
theorem isSome_apply {w : Write D} {t : D.Tab} {k : D.Key t} {s s' : Database D}
    (h : (s.find t k).isSome = (s'.find t k).isSome) : ((w.apply s).find t k).isSome = ((w.apply s').find t k).isSome := by
  by_cases ht : w.tab? = some t
  · cases w with
    | insert t' k' r =>
      cases ht
      rw [find_insert, find_insert]
      split
      · rfl
      · exact h
    | update t' k' f =>
      cases ht
      rw [find_update, find_update]
      split
      · rwa [Option.isSome_map, Option.isSome_map]
      · exact h
    | delete t' k' =>
      cases ht
      rw [find_delete, find_delete]
      split
      · rfl
      · exact h
    | append l => cases ht
  · rwa [find_apply s k ht, find_apply s' k ht]

theorem isSome_written {ws : List (Write D)} {t : D.Tab} {k : D.Key t} : ∀ {s s' : Database D},
    (s.find t k).isSome = (s'.find t k).isSome → ((written ws s).find t k).isSome = ((written ws s').find t k).isSome := by
  induction ws with
  | nil => exact fun h => h
  | cons w ws ih => exact fun h => ih (isSome_apply h)

@[simp] theorem rows_insert {s : Database D} {t : D.Tab} {k : D.Key t} (r : D.Row t) :
    ((Write.insert t k r).apply s).rows t = (s.rows t).insertNew k r :=
  Database.set_rows_self ..

@[simp] theorem rows_append (l : D.Log) : ((Write.append l).apply s).rows t = s.rows t := rfl

end OneWrite

/-! ## What becomes of a row -/

/-- A row that is there stays, and changes as `Change` says; where there was none, one that is `New` may come. -/
def RowStep {ρ : Type} (New : ρ → Prop) (Change : ρ → ρ → Prop) : Option ρ → Option ρ → Prop
  | none, none => True
  | none, some r => New r
  | some r, some r' => Change r r'
  | some _, none => False

namespace RowStep

variable {ρ : Type} {New : ρ → Prop} {Change : ρ → ρ → Prop} {x y : Option ρ} {r : ρ}

theorem refl (h : ∀ r, Change r r) (x : Option ρ) : RowStep New Change x x := by
  cases x with
  | none => trivial
  | some r => exact h r

theorem of_eq (h : ∀ r, Change r r) (he : y = x) : RowStep New Change x y := by
  rw [he]
  exact refl h x

/-- An update, of this row or of another. -/
theorem update {p : Prop} [Decidable p] {f : ρ → ρ} (h : ∀ r, Change r r) (hf : p → ∀ r, x = some r → Change r (f r))
    (hy : y = if p then x.map f else x) : RowStep New Change x y := by
  subst hy
  split
  · rename_i hp
    cases x with
    | none => trivial
    | some r => exact hf hp r rfl
  · exact refl h x

/-- An insertion, under this key or another. -/
theorem insert {p : Prop} [Decidable p] (h : ∀ r, Change r r) (hn : p → x = none ∧ New r)
    (hy : y = if p then some (x.getD r) else x) : RowStep New Change x y := by
  subst hy
  split
  · rename_i hp
    obtain ⟨rfl, hr⟩ := hn hp
    exact hr
  · exact refl h x

theorem mono {Change' : ρ → ρ → Prop} (h : ∀ r r', Change r r' → Change' r r') (hs : RowStep New Change x y) :
    RowStep New Change' x y := by
  cases x with
  | none => cases y <;> exact hs
  | some r =>
    cases y with
    | none => exact hs
    | some r' => exact h r r' hs

theorem after (h : RowStep New Change (some r) y) : ∃ r', y = some r' ∧ Change r r' := by
  cases y with
  | none => exact h.elim
  | some r' => exact ⟨r', rfl, h⟩

theorem before {r' : ρ} (h : RowStep New Change x (some r')) : (∃ r, x = some r ∧ Change r r') ∨ (x = none ∧ New r') := by
  cases x with
  | none => exact .inr ⟨rfl, h⟩
  | some r => exact .inl ⟨r, rfl, h⟩

/-- Where nothing is new and no change is one, the row is kept. -/
theorem kept (h : RowStep New Change x y) (hnew : ∀ r, ¬ New r) (hkept : ∀ r q, Change r q → q = r) : y = x := by
  cases x with
  | none =>
    cases y with
    | none => rfl
    | some q => exact absurd h (hnew q)
  | some r =>
    obtain ⟨q, rfl, hchange⟩ := h.after
    rw [hkept r q hchange]

end RowStep

end Rowdb
