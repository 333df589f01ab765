import Balii.Lib.Sql
/-!
# Under — what is locked when it is written

`Under P Q t L` says of a body that has the locks `L` that it writes only what `P` allows with the locks it has by then, and
that it ends as `Q` says of its value and its locks.  It is computed statement by statement.
-/
namespace Rowdb

namespace Tx

variable {σ κ ω ε α β : Type} {Row : κ → Type} [Store σ Row ω] {P : List κ → ω → Prop}

/-- From the locks `L` on, every write is one `P` allows with the locks held then, and at the end `Q` holds. -/
def Under (P : List κ → ω → Prop) (Q : α → List κ → Prop) : Tx σ Row ω ε α → List κ → Prop
  | done a, L => Q a L
  | fail _, _ => True
  | lock k next, L => ∀ r, Under P Q (next r) (k :: L)
  | write w rest, L => P L w ∧ Under P Q rest (Store.keys σ Row w ++ L)
  | peek next, L => ∀ s, Under P Q (next s) L

section Under
variable {Q : α → List κ → Prop} {L : List κ}

theorem under_bind {t : Tx σ Row ω ε α} {f : α → Tx σ Row ω ε β} {Q : β → List κ → Prop} {L : List κ} :
    Under P Q (t >>= f) L ↔ Under P (fun a L => Under P Q (f a) L) t L := by
  induction t generalizing L with
  | done a => exact Iff.rfl
  | fail e => exact Iff.rfl
  | lock k next ih => exact forall_congr' fun r => ih r
  | write w rest ih => exact and_congr_right' ih
  | peek next ih => exact forall_congr' fun s => ih s

theorem under_look {f : σ → α} : Under P Q (look f : Tx σ Row ω ε α) L ↔ ∀ s, Q (f s) L := Iff.rfl

theorem under_ensure {c : Prop} [Decidable c] {e : ε} {Q : Unit → List κ → Prop} :
    Under P Q (ensure c e : Tx σ Row ω ε Unit) L ↔ (c → Q () L) := by
  unfold ensure
  split
  · rename_i hc
    exact ⟨fun h _ => h, fun h => h hc⟩
  · rename_i hc
    exact ⟨fun _ h => absurd h hc, fun _ => trivial⟩

theorem under_need {x : Option α} {e : ε} : Under P Q (need x e : Tx σ Row ω ε α) L ↔ ∀ a, x = some a → Q a L := by
  cases x with
  | none => exact ⟨fun _ a h => (nomatch h), fun _ => trivial⟩
  | some a => exact ⟨fun h b hb => by cases hb; exact h, fun h => h a rfl⟩

end Under

theorem Under.mono {t : Tx σ Row ω ε α} {Q Q' : α → List κ → Prop} {L : List κ} (h : Under P Q t L)
    (hQ : ∀ a L, Q a L → Q' a L) : Under P Q' t L := by
  induction t generalizing L with
  | done a => exact hQ a L h
  | fail e => trivial
  | lock k next ih => exact fun r => ih r (h r)
  | write w rest ih => exact ⟨h.1, ih h.2⟩
  | peek next ih => exact fun s => ih s (h s)

/-- Whatever it holds when it begins, the body writes what `P` allows. -/
def Guarded (P : List κ → ω → Prop) (t : Tx σ Row ω ε α) : Prop := ∀ L, Under P (fun _ _ => True) t L

theorem guarded_of_writes {t : Tx σ Row ω ε α} (h : Writes (fun w => ∀ L, P L w) t) : Guarded P t := by
  intro L
  induction t generalizing L with
  | done a => trivial
  | fail e => trivial
  | lock k next ih => exact fun r => ih r (h r) _
  | write w rest ih => exact ⟨h.1 L, ih h.2 _⟩
  | peek next ih => exact fun s => ih s (h s) L

theorem Parts.guarded {Part : (α : Type) → Tx σ Row ω ε α → Prop} {t : Tx σ Row ω ε α} (h : Parts Part t)
    (hpart : ∀ {α : Type} {t : Tx σ Row ω ε α}, Part α t → Guarded P t) : Guarded P t := by
  induction h with
  | part h => exact hpart h
  | bind _ _ iht ihf => exact fun L => under_bind.2 ((iht L).mono fun a K _ => ihf a K)

/-- What a body has written when it has got somewhere, and what it will write. -/
theorem Path.under (hP : ∀ L L' w, (∀ k ∈ L, k ∈ L') → P L w → P L' w) {R : List κ → σ → σ → Prop} {s : σ}
    {t₀ t : Tx σ Row ω ε α} {L : List κ} {ws : List ω} (h : Path R s t₀ [] [] t L ws) {Q : α → List κ → Prop}
    (h0 : Under P Q t₀ []) : (∀ w ∈ ws, P L w) ∧ Under P Q t L := by
  induction h with
  | start => exact ⟨fun w hw => (nomatch hw), h0⟩
  | lock _ ih => exact ⟨fun w hw => hP _ _ w (fun _ hk => List.mem_cons_of_mem _ hk) (ih.1 w hw), ih.2 _⟩
  | @write w rest L ws _ ih =>
    have hmore : ∀ v, P L v → P (Store.keys σ Row w ++ L) v := fun v => hP _ _ v fun _ hk => List.mem_append_right _ hk
    refine ⟨fun v hv => ?_, ih.2.2⟩
    rcases List.mem_append.1 hv with hv | hv
    · exact hmore v (ih.1 v hv)
    · cases List.mem_singleton.1 hv
      exact hmore w ih.2.1
  | peek _ _ ih => exact ⟨ih.1, ih.2 _⟩

end Tx

namespace Sql

variable {D : Schema} {ε : Type} {P : List (LockKey D) → Write D → Prop} {L : List (LockKey D)} {t : D.Tab} {k : D.Key t}

theorem under_forUpdate {Q : Option (D.Row t) → List (LockKey D) → Prop} :
    Tx.Under P Q (forUpdate t k : Sql D ε _) L ↔ ∀ row, Q row (.row t k :: L) := Iff.rfl

theorem under_fetch {e : ε} {Q : D.Row t → List (LockKey D) → Prop} :
    Tx.Under P Q (fetch t k e) L ↔ ∀ row, Q row (.row t k :: L) := by
  unfold fetch
  simp only [Tx.under_bind, under_forUpdate, Tx.under_need]
  exact ⟨fun h row => h (some row) row rfl, fun h row r _ => h r⟩

theorem under_insert {r : D.Row t} {e : ε} {Q : Unit → List (LockKey D) → Prop}
    (hw : P (.row t k :: L) (.insert t k r)) (hQ : Q () (.row t k :: .row t k :: L)) :
    Tx.Under P Q (insert t k r e) L := by
  unfold insert
  simp only [Tx.under_bind, under_forUpdate, Tx.under_ensure]
  exact fun row _ => ⟨hw, hQ⟩

theorem under_updateWhere {p : D.Row t → Bool} {f : D.Row t → D.Row t} {Q : Option (D.Row t) → List (LockKey D) → Prop}
    (hw : P (.row t k :: L) (.update t k f)) (hnone : ∀ K, Q none K) (hsome : ∀ r, Q (some r) (.row t k :: .row t k :: L)) :
    Tx.Under P Q (updateWhere t k p f : Sql D ε _) L := by
  unfold updateWhere
  simp only [Tx.under_bind, Tx.under_look]
  intro s
  split
  · rw [Tx.under_bind, under_forUpdate]
    intro row
    split
    · exact ⟨hw, hsome _⟩
    · exact hnone _
  · exact hnone _

end Sql
end Rowdb
