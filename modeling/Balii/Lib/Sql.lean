import Balii.Lib.Database
/-!
# Sql — the statements transactions are made of

Each statement is a body over a database, with what its execution amounts to.  A statement that waits for a row first
finds it in its own snapshot and then reads the row again: a row that no longer qualifies is skipped, even if the
condition that fails is a join the row left in the meantime.
-/
namespace Rowdb

abbrev Sql (D : Schema) (ε α : Type) : Type := Tx (Database D) (LockKey.Content (D := D)) (Write D) ε α

namespace Sql

variable {D : Schema} {ε α β : Type}

/-- `SELECT … FROM t WHERE id = k FOR UPDATE`. -/
def forUpdate (t : D.Tab) (k : D.Key t) : Sql D ε (Option (D.Row t)) := Tx.lockRow (LockKey.row t k)

/-- The same with a join on the column `f` of the row: the row must still join with what the snapshot joined it with. -/
def forUpdateJoin [DecidableEq β] (t : D.Tab) (k : D.Key t) (f : D.Row t → β) : Sql D ε (Option (D.Row t)) := do
  let seen ← Tx.look fun s : Database D => (s.find t k).map f
  let row ← forUpdate t k
  pure (if row.map f = seen then row else none)

/-- A locking read that must find its row. -/
def fetch (t : D.Tab) (k : D.Key t) (e : ε) : Sql D ε (D.Row t) := do
  let row ← forUpdate t k
  Tx.need row e

def fetchJoin [DecidableEq β] (t : D.Tab) (k : D.Key t) (f : D.Row t → β) (e : ε) : Sql D ε (D.Row t) := do
  let row ← forUpdateJoin t k f
  Tx.need row e

/-- An index entry another insertion of the same value waits for. -/
def claim (e : D.Entry) : Sql D ε Unit := Tx.lockRow (LockKey.entry e)

/-- `INSERT` under a primary key; a duplicate key is the error `e`. -/
def insert (t : D.Tab) (k : D.Key t) (r : D.Row t) (e : ε) : Sql D ε Unit := do
  let row ← forUpdate t k
  Tx.ensure (row.isNone = true) e
  Tx.emit (.insert t k r)

/-- `INSERT … ON CONFLICT DO NOTHING`: whether the row was inserted. -/
def insertIgnore (t : D.Tab) (k : D.Key t) (r : D.Row t) : Sql D ε Bool := do
  let row ← forUpdate t k
  if row.isNone then do
    Tx.emit (.insert t k r)
    pure true
  else pure false

/-- `UPDATE t SET … WHERE id = k`. -/
def update (t : D.Tab) (k : D.Key t) (f : D.Row t → D.Row t) : Sql D ε Unit := Tx.emit (.update t k f)

/-- `UPDATE t SET … WHERE id = k AND p RETURNING …`: the row that was there and met `p`, as it was before. -/
def updateWhere (t : D.Tab) (k : D.Key t) (p : D.Row t → Bool) (f : D.Row t → D.Row t) : Sql D ε (Option (D.Row t)) := do
  let seen ← Tx.look fun s : Database D => s.find t k
  if seen.any p then do
    let row ← forUpdate t k
    match row.filter p with
    | some r => do
      update t k f
      pure (some r)
    | none => pure none
  else pure none

/-- A unique index: the entry is claimed, and no row has it yet. -/
def unique (i : D.Entry) (t : D.Tab) (p : D.Key t → D.Row t → Bool) (e : ε) : Sql D ε Unit := do
  claim i
  let clash ← Tx.look fun s : Database D => ((s.rows t).find p).isSome
  Tx.ensure (clash = false) e

/-- `DELETE FROM t WHERE id = k RETURNING …`. -/
def deleteReturning (t : D.Tab) (k : D.Key t) : Sql D ε (Option (D.Row t)) := do
  let seen ← Tx.look fun s : Database D => s.find t k
  if seen.isSome then do
    let row ← forUpdate t k
    match row with
    | some r => do
      Tx.emit (.delete t k)
      pure (some r)
    | none => pure none
  else pure none

def append (l : D.Log) : Sql D ε Unit := Tx.emit (.append l)

def select (f : Database D → α) : Sql D ε α := Tx.look f

/-! ## What they amount to -/

variable {R : List (LockKey D) → Database D → Database D → Prop} {s : Database D} {L : List (LockKey D)} {ws : List (Write D)}
  {t : D.Tab} {k : D.Key t} {e e' : ε}

@[simp] theorem exec_forUpdate {o : Outcome (LockKey D) (Write D) (Option (D.Row t))} :
    Tx.Exec R (forUpdate t k : Sql D ε _) s L ws o ↔ o = ⟨(written ws s).find t k, .row t k :: L, ws⟩ := Iff.rfl

/-- The row a locking join returns is the row as it is. -/
theorem exec_forUpdateJoin [DecidableEq β] {f : D.Row t → β} {o : Outcome (LockKey D) (Write D) (Option (D.Row t))}
    (h : Tx.Exec R (forUpdateJoin t k f : Sql D ε _) s L ws o) :
    (o.val = none ∨ o.val = (written ws s).find t k) ∧ o.locks = .row t k :: L ∧ o.writes = ws := by
  unfold forUpdateJoin at h
  simp only [Tx.exec_bind, Tx.exec_look, exec_forUpdate, Tx.exec_pure] at h
  obtain ⟨_, ⟨s₀, _, rfl⟩, _, rfl, rfl⟩ := h
  refine ⟨?_, rfl, rfl⟩
  split
  · exact .inr rfl
  · exact .inl rfl

theorem exec_fetch {o : Outcome (LockKey D) (Write D) (D.Row t)} (h : Tx.Exec R (fetch t k e) s L ws o) :
    ∃ r, (written ws s).find t k = some r ∧ o = ⟨r, .row t k :: L, ws⟩ := by
  unfold fetch at h
  simp only [Tx.exec_bind, exec_forUpdate, Tx.exec_need] at h
  obtain ⟨_, rfl, r, hr, rfl⟩ := h
  exact ⟨r, hr, rfl⟩

theorem exec_fetchJoin [DecidableEq β] {f : D.Row t → β} {o : Outcome (LockKey D) (Write D) (D.Row t)}
    (h : Tx.Exec R (fetchJoin t k f e) s L ws o) :
    ∃ r, (written ws s).find t k = some r ∧ o = ⟨r, .row t k :: L, ws⟩ := by
  unfold fetchJoin at h
  simp only [Tx.exec_bind, Tx.exec_need] at h
  obtain ⟨m, h1, r, hr, rfl⟩ := h
  obtain ⟨hv, hl, hw⟩ := exec_forUpdateJoin h1
  rw [hr] at hv
  rw [hl, hw]
  rcases hv with hv | hv
  · cases hv
  · exact ⟨r, hv.symm, rfl⟩

@[simp] theorem exec_claim {i : D.Entry} {o : Outcome (LockKey D) (Write D) Unit} :
    Tx.Exec R (claim i : Sql D ε _) s L ws o ↔ o = ⟨(), .entry i :: L, ws⟩ := Iff.rfl

theorem exec_insert {r : D.Row t} {o : Outcome (LockKey D) (Write D) Unit} (h : Tx.Exec R (insert t k r e) s L ws o) :
    (written ws s).find t k = none ∧ o = ⟨(), .row t k :: .row t k :: L, ws ++ [.insert t k r]⟩ := by
  unfold insert at h
  simp only [Tx.exec_bind, exec_forUpdate, Tx.exec_ensure, Tx.exec_emit] at h
  obtain ⟨_, rfl, _, ⟨hn, rfl⟩, rfl⟩ := h
  exact ⟨Option.isNone_iff_eq_none.1 hn, rfl⟩

theorem exec_insertIgnore {r : D.Row t} {o : Outcome (LockKey D) (Write D) Bool}
    (h : Tx.Exec R (insertIgnore t k r : Sql D ε _) s L ws o) :
    ((written ws s).find t k = none ∧ o = ⟨true, .row t k :: .row t k :: L, ws ++ [.insert t k r]⟩) ∨
      ∃ r', (written ws s).find t k = some r' ∧ o = ⟨false, .row t k :: L, ws⟩ := by
  unfold insertIgnore at h
  simp only [Tx.exec_bind, exec_forUpdate] at h
  obtain ⟨_, rfl, h⟩ := h
  split at h
  · rename_i hn
    simp only [Tx.exec_bind, Tx.exec_emit, Tx.exec_pure] at h
    obtain ⟨_, rfl, rfl⟩ := h
    exact .inl ⟨Option.isNone_iff_eq_none.1 hn, rfl⟩
  · rename_i hn
    cases h
    obtain ⟨r', hr'⟩ := Option.ne_none_iff_exists'.1 fun he => hn (Option.isNone_iff_eq_none.2 he)
    exact .inr ⟨r', hr', rfl⟩

@[simp] theorem exec_update {f : D.Row t → D.Row t} {o : Outcome (LockKey D) (Write D) Unit} :
    Tx.Exec R (update t k f : Sql D ε _) s L ws o ↔ o = ⟨(), .row t k :: L, ws ++ [.update t k f]⟩ := Iff.rfl

theorem exec_deleteReturning {o : Outcome (LockKey D) (Write D) (Option (D.Row t))}
    (h : Tx.Exec R (deleteReturning t k : Sql D ε _) s L ws o) :
    (o.val = none ∧ o.writes = ws ∧ (∃ K, o.locks = K ++ L) ∧
        ((written ws s).find t k = none ∨ ∃ s₀, R L s₀ s ∧ (written ws s₀).find t k = none)) ∨
      ∃ r, (written ws s).find t k = some r ∧ o = ⟨some r, .row t k :: .row t k :: L, ws ++ [.delete t k]⟩ := by
  unfold deleteReturning at h
  simp only [Tx.exec_bind, Tx.exec_look] at h
  obtain ⟨_, ⟨s₀, hs₀, rfl⟩, h⟩ := h
  split at h
  · simp only [Tx.exec_bind, exec_forUpdate] at h
    obtain ⟨_, rfl, h⟩ := h
    split at h
    · rename_i r hr
      simp only [Tx.exec_bind, Tx.exec_emit, Tx.exec_pure] at h
      obtain ⟨_, rfl, rfl⟩ := h
      exact .inr ⟨r, hr, rfl⟩
    · rename_i hr
      cases h
      exact .inl ⟨rfl, rfl, ⟨[_], rfl⟩, .inl hr⟩
  · rename_i hs
    cases h
    exact .inl ⟨rfl, rfl, ⟨[], rfl⟩, .inr ⟨s₀, hs₀, by simpa using hs⟩⟩

@[simp] theorem exec_append {l : D.Log} {o : Outcome (LockKey D) (Write D) Unit} :
    Tx.Exec R (append l : Sql D ε _) s L ws o ↔ o = ⟨(), L, ws ++ [.append l]⟩ := Iff.rfl

@[simp] theorem exec_select {f : Database D → α} {o : Outcome (LockKey D) (Write D) α} :
    Tx.Exec R (select f : Sql D ε _) s L ws o ↔ ∃ s₀, R L s₀ s ∧ o = ⟨f (written ws s₀), L, ws⟩ := Iff.rfl

/-- **A conditional update** writes the row it finds, which meets the condition, or it writes nothing: then the row did
not meet the condition, now or when the statement began. -/
theorem exec_updateWhere {p : D.Row t → Bool} {f : D.Row t → D.Row t} {o : Outcome (LockKey D) (Write D) (Option (D.Row t))}
    (h : Tx.Exec R (updateWhere t k p f : Sql D ε _) s L ws o) :
    (o.val = none ∧ o.writes = ws ∧ (∃ K, o.locks = K ++ L) ∧
        (((written ws s).find t k).any p = false ∨ ∃ s₀, R L s₀ s ∧ ((written ws s₀).find t k).any p = false)) ∨
      ∃ r, (written ws s).find t k = some r ∧ p r = true ∧
        o = ⟨some r, .row t k :: .row t k :: L, ws ++ [.update t k f]⟩ := by
  unfold updateWhere at h
  simp only [Tx.exec_bind, Tx.exec_look] at h
  obtain ⟨_, ⟨s₀, hs₀, rfl⟩, h⟩ := h
  split at h
  · simp only [Tx.exec_bind, exec_forUpdate] at h
    obtain ⟨_, rfl, h⟩ := h
    split at h
    · rename_i r hr
      simp only [Tx.exec_bind, exec_update, Tx.exec_pure] at h
      obtain ⟨_, rfl, rfl⟩ := h
      obtain ⟨hr, hp⟩ := Option.filter_eq_some_iff.1 hr
      exact .inr ⟨r, hr, hp, rfl⟩
    · rename_i hr
      cases h
      refine .inl ⟨rfl, rfl, ⟨[_], rfl⟩, .inl ?_⟩
      simpa [Option.any_eq_false, Option.filter_eq_none_iff] using hr
  · rename_i hs
    cases h
    exact .inl ⟨rfl, rfl, ⟨[], rfl⟩, .inr ⟨s₀, hs₀, by simpa using hs⟩⟩

theorem exec_unique {i : D.Entry} {p : D.Key t → D.Row t → Bool} {o : Outcome (LockKey D) (Write D) Unit}
    (h : Tx.Exec R (unique i t p e) s L ws o) :
    (∃ s₀, R (.entry i :: L) s₀ s ∧ ((written ws s₀).rows t).find p = none) ∧ o = ⟨(), .entry i :: L, ws⟩ := by
  unfold unique at h
  simp only [Tx.exec_bind, exec_claim, Tx.exec_look, Tx.exec_ensure] at h
  obtain ⟨_, rfl, _, ⟨s₀, hs₀, rfl⟩, hc, rfl⟩ := h
  exact ⟨⟨s₀, hs₀, by simpa using hc⟩, rfl⟩

/-! ## How they fail -/

@[simp] theorem fails_forUpdate : ¬ Tx.Fails R (forUpdate t k : Sql D ε _) s L ws e' := fun h => h

theorem fails_forUpdateJoin [DecidableEq β] {f : D.Row t → β} : ¬ Tx.Fails R (forUpdateJoin t k f : Sql D ε _) s L ws e' := by
  unfold forUpdateJoin
  simp [Tx.fails_bind]

theorem fails_fetch (h : Tx.Fails R (fetch t k e) s L ws e') : e' = e := by
  unfold fetch at h
  simp only [Tx.fails_bind, fails_forUpdate, Tx.fails_need, false_or] at h
  obtain ⟨_, _, _, rfl⟩ := h
  rfl

theorem fails_fetchJoin [DecidableEq β] {f : D.Row t → β} (h : Tx.Fails R (fetchJoin t k f e) s L ws e') : e' = e := by
  unfold fetchJoin at h
  simp only [Tx.fails_bind, fails_forUpdateJoin, Tx.fails_need, false_or] at h
  obtain ⟨_, _, _, rfl⟩ := h
  rfl

/-- With nobody about, a locking join finds the row that is there. -/
theorem not_fails_fetchJoin [DecidableEq β] {f : D.Row t → β} (hR : ∀ L s₀, R L s₀ s → s₀ = s) {r : D.Row t}
    (hr : (written ws s).find t k = some r) : ¬ Tx.Fails R (fetchJoin t k f e) s L ws e' := by
  intro h
  unfold fetchJoin forUpdateJoin at h
  simp only [Tx.fails_bind, Tx.exec_bind, Tx.exec_look, exec_forUpdate, Tx.exec_pure, Tx.fails_need] at h
  rcases h with (h | ⟨_, _, h | ⟨_, _, h⟩⟩) | ⟨_, ⟨_, ⟨s₀, hs₀, rfl⟩, _, rfl, rfl⟩, hnone, _⟩
  · exact Tx.fails_look h
  · exact h
  · exact h
  · rw [hR _ _ hs₀, applyAll_eq_written] at hnone
    simp [hr] at hnone

@[simp] theorem fails_update {f : D.Row t → D.Row t} : ¬ Tx.Fails R (update t k f : Sql D ε _) s L ws e' := fun h => h

theorem fails_deleteReturning : ¬ Tx.Fails R (deleteReturning t k : Sql D ε _) s L ws e' := by
  unfold deleteReturning
  intro h
  simp only [Tx.fails_bind, Tx.fails_look, false_or] at h
  obtain ⟨_, _, h⟩ := h
  split at h
  · simp only [Tx.fails_bind, fails_forUpdate, false_or] at h
    obtain ⟨_, _, h⟩ := h
    split at h
    · simp only [Tx.fails_bind, Tx.fails_emit, Tx.fails_pure, and_false, exists_false, or_false] at h
    · exact h
  · exact h

@[simp] theorem fails_select {f : Database D → α} : ¬ Tx.Fails R (select f : Sql D ε _) s L ws e' := fun ⟨_, _, h⟩ => h

theorem fails_updateWhere {p : D.Row t → Bool} {f : D.Row t → D.Row t} :
    ¬ Tx.Fails R (updateWhere t k p f : Sql D ε _) s L ws e' := by
  unfold updateWhere
  intro h
  simp only [Tx.fails_bind, Tx.fails_look, false_or] at h
  obtain ⟨_, _, h⟩ := h
  split at h
  · simp only [Tx.fails_bind, fails_forUpdate, false_or] at h
    obtain ⟨_, _, h⟩ := h
    split at h
    · simp only [Tx.fails_bind, fails_update, Tx.fails_pure, and_false, exists_false, or_false] at h
    · exact h
  · exact h

/-- With nobody about, a locking join finds exactly the row that is there. -/
theorem exec_fetchJoin_alone [DecidableEq β] {f : D.Row t → β} {o : Outcome (LockKey D) (Write D) (D.Row t)} :
    Tx.Exec (fun _ a b => a = b) (fetchJoin t k f e) s L ws o ↔
      ∃ r, (written ws s).find t k = some r ∧ o = ⟨r, .row t k :: L, ws⟩ := by
  refine ⟨exec_fetchJoin, ?_⟩
  rintro ⟨r, hr, rfl⟩
  unfold fetchJoin forUpdateJoin
  simp only [Tx.exec_bind, Tx.exec_look, exec_forUpdate, Tx.exec_pure, Tx.exec_need]
  exact ⟨_, ⟨_, ⟨s, rfl, rfl⟩, _, rfl, rfl⟩, r, by rw [applyAll_eq_written, if_pos rfl, hr], rfl⟩

/-- With nobody about, the check of an index is of the rows that are there. -/
theorem exec_unique_alone {i : D.Entry} {p : D.Key t → D.Row t → Bool} {o : Outcome (LockKey D) (Write D) Unit} :
    Tx.Exec (fun _ a b => a = b) (unique i t p e) s L ws o ↔
      ((written ws s).rows t).find p = none ∧ o = ⟨(), .entry i :: L, ws⟩ := by
  refine ⟨fun h => ?_, ?_⟩
  · obtain ⟨⟨_, rfl, hnone⟩, rfl⟩ := exec_unique h
    exact ⟨hnone, rfl⟩
  · rintro ⟨hnone, rfl⟩
    unfold unique
    simp only [Tx.exec_bind, exec_claim, Tx.exec_look, Tx.exec_ensure]
    exact ⟨_, rfl, _, ⟨s, rfl, rfl⟩, by rw [applyAll_eq_written, hnone]; rfl, rfl⟩

theorem exec_insert_iff {r : D.Row t} {o : Outcome (LockKey D) (Write D) Unit} : Tx.Exec R (insert t k r e) s L ws o ↔
    (written ws s).find t k = none ∧ o = ⟨(), .row t k :: .row t k :: L, ws ++ [.insert t k r]⟩ := by
  refine ⟨exec_insert, ?_⟩
  rintro ⟨hnone, rfl⟩
  unfold insert
  simp only [Tx.exec_bind, exec_forUpdate, Tx.exec_ensure, Tx.exec_emit]
  exact ⟨_, rfl, _, ⟨by rw [hnone]; rfl, rfl⟩, rfl⟩

/-! ## What they can write -/

variable {P : Write D → Prop}

theorem writes_forUpdate : Tx.Writes P (forUpdate t k : Sql D ε _) := Tx.writes_lockRow _

theorem writes_forUpdateJoin [DecidableEq β] {f : D.Row t → β} : Tx.Writes P (forUpdateJoin t k f : Sql D ε _) :=
  Tx.writes_bind (Tx.writes_look _) fun _ => Tx.writes_bind writes_forUpdate fun _ => Tx.writes_pure _

theorem writes_fetch : Tx.Writes P (fetch t k e) := Tx.writes_bind writes_forUpdate fun _ => Tx.writes_need _ _

theorem writes_fetchJoin [DecidableEq β] {f : D.Row t → β} : Tx.Writes P (fetchJoin t k f e) :=
  Tx.writes_bind writes_forUpdateJoin fun _ => Tx.writes_need _ _

theorem writes_claim {i : D.Entry} : Tx.Writes P (claim i : Sql D ε _) := Tx.writes_lockRow _

theorem writes_insert {r : D.Row t} (h : P (.insert t k r)) : Tx.Writes P (insert t k r e) :=
  Tx.writes_bind writes_forUpdate fun _ => Tx.writes_bind (Tx.writes_ensure _ _) fun _ => Tx.writes_emit h

theorem writes_insertIgnore {r : D.Row t} (h : P (.insert t k r)) : Tx.Writes P (insertIgnore t k r : Sql D ε _) := by
  refine Tx.writes_bind writes_forUpdate fun _ => ?_
  split
  · exact Tx.writes_bind (Tx.writes_emit h) fun _ => Tx.writes_pure _
  · exact Tx.writes_pure _

theorem writes_update {f : D.Row t → D.Row t} (h : P (.update t k f)) : Tx.Writes P (update t k f : Sql D ε _) :=
  Tx.writes_emit h

theorem writes_deleteReturning (h : P (.delete t k)) : Tx.Writes P (deleteReturning t k : Sql D ε _) := by
  refine Tx.writes_bind (Tx.writes_look _) fun _ => ?_
  split
  · refine Tx.writes_bind writes_forUpdate fun _ => ?_
    split
    · exact Tx.writes_bind (Tx.writes_emit h) fun _ => Tx.writes_pure _
    · exact Tx.writes_pure _
  · exact Tx.writes_pure _

theorem writes_append {l : D.Log} (h : P (.append l)) : Tx.Writes P (append l : Sql D ε _) := Tx.writes_emit h

theorem writes_select {f : Database D → α} : Tx.Writes P (select f : Sql D ε _) := Tx.writes_look _

theorem writes_updateWhere {p : D.Row t → Bool} {f : D.Row t → D.Row t} (h : P (.update t k f)) :
    Tx.Writes P (updateWhere t k p f : Sql D ε _) := by
  refine Tx.writes_bind (Tx.writes_look _) fun _ => ?_
  split
  · refine Tx.writes_bind writes_forUpdate fun _ => ?_
    split
    · exact Tx.writes_bind (writes_update h) fun _ => Tx.writes_pure _
    · exact Tx.writes_pure _
  · exact Tx.writes_pure _

theorem writes_unique {i : D.Entry} {p : D.Key t → D.Row t → Bool} : Tx.Writes P (unique i t p e) :=
  Tx.writes_bind writes_claim fun _ => Tx.writes_bind (Tx.writes_look _) fun _ => Tx.writes_ensure _ _

end Sql
end Rowdb
