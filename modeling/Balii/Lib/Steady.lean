import Balii.Lib.Guarantee
import Balii.Lib.Sql
/-!
# Steady — what a session counts on while it waits

A statement that joins tables takes its snapshot first and then waits for the row it locks, and what it gets depends on whether
the others leave the row as the snapshot joined it.  A run is undisturbed when they do: no step of one session changes what
another has read and waits for.  `Steady` says of a body that in such a run it fails only as `P` says of the state it fails at;
it is computed statement by statement.
-/
namespace Rowdb

namespace Tx

variable {σ κ ω ε α β : Type} {Row : κ → Type}

/-! ## The errors in a body -/

/-- Every error the body can reach satisfies `E`. -/
def Throws (E : ε → Prop) : Tx σ Row ω ε α → Prop
  | done _ => True
  | fail e => E e
  | lock _ next => ∀ r, Throws E (next r)
  | write _ rest => Throws E rest
  | peek next => ∀ s, Throws E (next s)

section Throws
variable {E : ε → Prop}

theorem throws_bind {t : Tx σ Row ω ε α} {f : α → Tx σ Row ω ε β} (ht : Throws E t) (hf : ∀ a, Throws E (f a)) :
    Throws E (t >>= f) := by
  induction t with
  | done a => exact hf a
  | fail e => exact ht
  | lock k next ih => exact fun r => ih r (ht r)
  | write w rest ih => exact ih ht
  | peek next ih => exact fun s => ih s (ht s)

theorem throws_pure (a : α) : Throws E (pure a : Tx σ Row ω ε α) := trivial

theorem throws_lockRow (k : κ) : Throws E (lockRow k : Tx σ Row ω ε (Row k)) := fun _ => trivial

theorem throws_emit (w : ω) : Throws E (emit w : Tx σ Row ω ε Unit) := trivial

theorem throws_look (f : σ → α) : Throws E (look f : Tx σ Row ω ε α) := fun _ => trivial

theorem throws_ensure {c : Prop} [Decidable c] {e : ε} (h : E e) : Throws E (ensure c e : Tx σ Row ω ε Unit) := by
  unfold ensure
  split
  · trivial
  · exact h

theorem throws_ite {c : Prop} [Decidable c] {a b : Tx σ Row ω ε α} (ha : Throws E a) (hb : Throws E b) :
    Throws E (if c then a else b) := by
  split
  · exact ha
  · exact hb

theorem throws_each {ι : Type} {f : ι → Tx σ Row ω ε Unit} {xs : List ι} (h : ∀ x, Throws E (f x)) : Throws E (each f xs) := by
  induction xs with
  | nil => trivial
  | cons x xs ih => exact throws_bind (h x) fun _ => ih

end Throws

/-! ## Bodies that fail for a reason -/

/-- The rows of `L` are the same. -/
def Agree (Row : κ → Type) (ω : Type) [Store σ Row ω] (L : List κ) (s s' : σ) : Prop :=
  ∀ k ∈ L, (Store.get ω s k : Row k) = Store.get ω s' k

variable [Store σ Row ω]

/-- **From the state `s` on, with the locks `L` and the writes `ws` so far, the body fails only as `P` says**, and comes to its end
as `Q` says, as long as the others leave the rows of `L` alone and, while it waits for a row, keep that row as `Kept` asks. -/
def Steady (Kept : κ → σ → σ → Prop) (P : ε → σ → Prop) (Q : Outcome κ ω α → σ → Prop) :
    Tx σ Row ω ε α → List κ → List ω → σ → Prop
  | done a, L, ws, s => Q ⟨a, L, ws⟩ s
  | fail e, L, _, s => ∀ s', Agree Row ω L s s' → P e s'
  | lock k next, L, ws, s => ∀ s', Agree Row ω L s s' → Kept k s s' →
      Steady Kept P Q (next (Store.get ω (applyAll Row ws s') k)) (k :: L) ws s'
  | write w rest, L, ws, s => ∀ s', Agree Row ω L s s' → Steady Kept P Q rest (Store.keys σ Row w ++ L) (ws ++ [w]) s'
  | peek next, L, ws, s => ∀ s', Agree Row ω L s s' → Steady Kept P Q (next (applyAll Row ws s')) L ws s'

section Rules
variable {Kept : κ → σ → σ → Prop} {P : ε → σ → Prop} {L : List κ} {ws : List ω} {s s' : σ}

theorem Agree.refl (L : List κ) (s : σ) : Agree Row ω L s s := fun _ _ => rfl

theorem Agree.trans {s'' : σ} (h : Agree Row ω L s s') (h' : Agree Row ω L s' s'') : Agree Row ω L s s'' :=
  fun k hk => (h k hk).trans (h' k hk)

/-- **A sequence is steady when its second part is after its first.** -/
theorem steady_bind {Q : Outcome κ ω β → σ → Prop} {t : Tx σ Row ω ε α} {f : α → Tx σ Row ω ε β} : ∀ {L : List κ} {ws : List ω} {s : σ},
    Steady Kept P Q (t >>= f) L ws s ↔
      Steady Kept P (fun o s => Steady Kept P Q (f o.val) o.locks o.writes s) t L ws s := by
  induction t with
  | done a => exact Iff.rfl
  | fail e => exact Iff.rfl
  | lock k next ih => exact forall_congr' fun _ => imp_congr_right fun _ => imp_congr_right fun _ => ih _
  | write w rest ih => exact forall_congr' fun _ => imp_congr_right fun _ => ih
  | peek next ih => exact forall_congr' fun _ => imp_congr_right fun _ => ih _

/-- A body whose errors are never out of place is steady. -/
theorem steady_of_throws {E : ε → Prop} (hE : ∀ e s, E e → P e s) {Q : Outcome κ ω α → σ → Prop} (hQ : ∀ o s, Q o s)
    {t : Tx σ Row ω ε α} : ∀ {L : List κ} {ws : List ω} {s : σ}, Throws E t → Steady Kept P Q t L ws s := by
  induction t with
  | done a => exact fun _ => hQ _ _
  | fail e => exact fun h s' _ => hE e s' h
  | lock k next ih => exact fun h s' _ _ => ih _ (h _)
  | write w rest ih => exact fun h s' _ => ih h
  | peek next ih => exact fun h s' _ => ih _ (h _)

/-- A body that may fail with anything is steady. -/
theorem steady_of_always (hP : ∀ e s, P e s) {Q : Outcome κ ω α → σ → Prop} (hQ : ∀ o s, Q o s) {t : Tx σ Row ω ε α} :
    ∀ {L : List κ} {ws : List ω} {s : σ}, Steady Kept P Q t L ws s := by
  induction t with
  | done a => exact hQ _ _
  | fail e => exact fun s' _ => hP e s'
  | lock k next ih => exact fun s' _ _ => ih _
  | write w rest ih => exact fun s' _ => ih
  | peek next ih => exact fun s' _ => ih _

theorem steady_ensure {Q : Outcome κ ω α → σ → Prop} {c : Prop} [Decidable c] {e : ε} {f : Unit → Tx σ Row ω ε α}
    (he : ∀ s, P e s) (hf : c → Steady Kept P Q (f ()) L ws s) : Steady Kept P Q (ensure c e >>= f) L ws s := by
  unfold ensure
  split
  · rename_i hc
    exact hf hc
  · exact fun s' _ => he s'

theorem steady_look {Q : Outcome κ ω α → σ → Prop} {f : σ → β} {g : β → Tx σ Row ω ε α}
    (hg : ∀ s, Steady Kept P Q (g (f (applyAll Row ws s))) L ws s) : Steady Kept P Q (look f >>= g) L ws s := fun s' _ => hg s'

/-- **What is steady stays so** while the others do as they promise. -/
theorem Steady.later (htrans : ∀ k a b c, Kept k a b → Kept k b c → Kept k a c) {t : Tx σ Row ω ε α}
    (h : Steady Kept P (fun _ _ => True) t L ws s) (hL : Agree Row ω L s s')
    (hkept : ∀ k next, t = lock k next → Kept k s s') : Steady Kept P (fun _ _ => True) t L ws s' := by
  cases t with
  | done a => trivial
  | fail e => exact fun s'' h' => h s'' (hL.trans h')
  | lock k next => exact fun s'' h' hk => h s'' (hL.trans h') (htrans _ _ _ _ (hkept k next rfl) hk)
  | write w rest => exact fun s'' h' => h s'' (hL.trans h')
  | peek next => exact fun s'' h' => h s'' (hL.trans h')

end Rules
end Tx

/-! ## Statements -/

namespace Sql

variable {D : Schema} {ε α β : Type} {E : ε → Prop} {t : D.Tab} {k : D.Key t} {e : ε}

theorem throws_forUpdate : Tx.Throws E (forUpdate t k : Sql D ε _) := Tx.throws_lockRow _

theorem throws_claim {i : D.Entry} : Tx.Throws E (claim i : Sql D ε _) := Tx.throws_lockRow _

theorem throws_select {f : Database D → α} : Tx.Throws E (select f : Sql D ε _) := Tx.throws_look _

theorem throws_append {l : D.Log} : Tx.Throws E (append l : Sql D ε _) := Tx.throws_emit _

theorem throws_update {f : D.Row t → D.Row t} : Tx.Throws E (update t k f : Sql D ε _) := Tx.throws_emit _

theorem throws_insert {r : D.Row t} (h : E e) : Tx.Throws E (insert t k r e) :=
  Tx.throws_bind throws_forUpdate fun _ => Tx.throws_bind (Tx.throws_ensure h) fun _ => Tx.throws_emit _

theorem throws_insertIgnore {r : D.Row t} : Tx.Throws E (insertIgnore t k r : Sql D ε _) :=
  Tx.throws_bind throws_forUpdate fun _ =>
    Tx.throws_ite (Tx.throws_bind (Tx.throws_emit _) fun _ => Tx.throws_pure _) (Tx.throws_pure _)

theorem throws_updateWhere {p : D.Row t → Bool} {f : D.Row t → D.Row t} : Tx.Throws E (updateWhere t k p f : Sql D ε _) := by
  refine Tx.throws_bind (Tx.throws_look _) fun _ => Tx.throws_ite (Tx.throws_bind throws_forUpdate fun row => ?_) (Tx.throws_pure _)
  split
  · exact Tx.throws_bind throws_update fun _ => Tx.throws_pure _
  · exact Tx.throws_pure _

theorem throws_deleteReturning : Tx.Throws E (deleteReturning t k : Sql D ε _) := by
  refine Tx.throws_bind (Tx.throws_look _) fun _ => Tx.throws_ite (Tx.throws_bind throws_forUpdate fun row => ?_) (Tx.throws_pure _)
  split
  · exact Tx.throws_bind (Tx.throws_emit _) fun _ => Tx.throws_pure _
  · exact Tx.throws_pure _

theorem throws_unique {i : D.Entry} {p : D.Key t → D.Row t → Bool} (h : E e) : Tx.Throws E (unique i t p e) :=
  Tx.throws_bind throws_claim fun _ => Tx.throws_bind (Tx.throws_look _) fun _ => Tx.throws_ensure h

variable {Kept : LockKey D → Database D → Database D → Prop} {P : ε → Database D → Prop}
  {Q : Outcome (LockKey D) (Write D) α → Database D → Prop} {L : List (LockKey D)} {s : Database D}

/-- A locking read fails when its row is not there. -/
theorem steady_fetch (hnone : ∀ s, s.find t k = none → P e s) {g : D.Row t → Sql D ε α}
    (hsome : ∀ r s, s.find t k = some r → Tx.Steady Kept P Q (g r) (.row t k :: L) [] s) :
    Tx.Steady Kept P Q (fetch t k e >>= g) L [] s := by
  intro s' _ _
  show Tx.Steady Kept P Q (Tx.need (s'.find t k) e >>= g) (.row t k :: L) [] s'
  cases hrow : s'.find t k with
  | none =>
    intro s'' h
    exact hnone s'' ((h (.row t k) List.mem_cons_self).symm.trans hrow)
  | some r => exact hsome r s' hrow

/-- **A locking join fails when its row is not there**, where the others keep what the snapshot joined it on. -/
theorem steady_fetchJoin [DecidableEq β] {f : D.Row t → β}
    (hkept : ∀ a b, Kept (.row t k) a b → (a.find t k).map f = (b.find t k).map f) (hnone : ∀ s, s.find t k = none → P e s)
    {g : D.Row t → Sql D ε α} (hsome : ∀ r s, s.find t k = some r → Tx.Steady Kept P Q (g r) (.row t k :: L) [] s) :
    Tx.Steady Kept P Q (fetchJoin t k f e >>= g) L [] s := by
  intro s₀ _ s' _ hk
  show Tx.Steady Kept P Q
    (Tx.need (if (s'.find t k).map f = (s₀.find t k).map f then s'.find t k else none) e >>= g) (.row t k :: L) [] s'
  rw [if_pos (hkept s₀ s' hk).symm]
  cases hrow : s'.find t k with
  | none =>
    intro s'' h
    exact hnone s'' ((h (.row t k) List.mem_cons_self).symm.trans hrow)
  | some r => exact hsome r s' hrow

end Sql

/-! ## Runs -/

namespace System

variable {S : System} (Kept : S.Op → S.Key → S.State → S.State → Prop)

/-- What a session waits for stays as it asks while another takes a step. -/
def World.Undisturbed (w w' : S.World) : Prop :=
  ∀ (i : ℕ) c op L ws k body next, w.sessions[i]? = some (c, Session.inTx op L ws (.lock k body) next) →
    w'.sessions[i]? = w.sessions[i]? → Kept op k w.db w'.db

/-- **A run none of whose steps disturbs a session that waits.** -/
inductive UndisturbedRun (w₀ : S.World) : List S.Event → S.World → Prop
  | start : UndisturbedRun w₀ [] w₀
  | step {es es' : List S.Event} {w w' : S.World} (run : UndisturbedRun w₀ es w) (step : Step w es' w')
      (h : w.Undisturbed Kept w') : UndisturbedRun w₀ (es ++ es') w'

variable {Kept}

/-- A step that leaves the state alone disturbs nobody. -/
theorem World.undisturbed_of_db (hrefl : ∀ op k a, Kept op k a a) {w w' : S.World} (h : w'.db = w.db) : w.Undisturbed Kept w' := by
  intro i c op L ws k body next _ _
  rw [h]
  exact hrefl op k w.db

theorem UndisturbedRun.run {w₀ w : S.World} {es : List S.Event} (h : UndisturbedRun Kept w₀ es w) : Run w₀ es w := by
  induction h with
  | start => exact .start
  | step _ step _ ih => exact .step ih step

/-- With nothing to keep, every world of a run is sound. -/
theorem Run.sound {s : S.State} {es : List S.Event} {w : S.World} (run : Run (quiet s) es w) :
    w.Sound (fun _ => True) fun _ _ _ => True := by
  have hk : Keeps (fun _ => True) (fun _ _ _ => True) (fun _ => True) (fun _ : S.Commit => True) := fun _ _ _ _ _ => ⟨trivial, trivial⟩
  rcases run.sound_or_first hk trivial fun _ _ => trivial with ⟨h, _⟩ | ⟨_, _, hbad, _⟩
  · exact h
  · exact absurd trivial hbad

variable {P : S.Op → S.Err → S.State → Prop}

/-- Every transaction under way is steady. -/
def World.Steady (Kept : S.Op → S.Key → S.State → S.State → Prop) (P : S.Op → S.Err → S.State → Prop) (w : S.World) : Prop :=
  ∀ (i : ℕ) c op L ws t next, w.sessions[i]? = some (c, Session.inTx op L ws t next) →
    Tx.Steady (Kept op) (P op) (fun _ _ => True) t L ws w.db

theorem World.Steady.put {w : S.World} (h : w.Steady Kept P) {i : ℕ} {x : S.Session}
    (hx : ∀ op L ws t next, x = Session.inTx op L ws t next → Tx.Steady (Kept op) (P op) (fun _ _ => True) t L ws w.db) :
    (w.put i x).Steady Kept P := by
  intro j c op L ws t next hj
  by_cases hij : i = j
  · subst hij
    exact hx op L ws t next (World.put_self hj).symm
  · rw [World.put_ne hij] at hj
    exact h j c op L ws t next hj

theorem World.Steady.idle {w : S.World} (h : w.Steady Kept P) {i : ℕ} {x : S.Session}
    (hx : ∀ op L ws t next, x ≠ Session.inTx op L ws t next) : (w.put i x).Steady Kept P :=
  h.put fun op L ws t next heq => absurd heq (hx op L ws t next)

theorem World.Steady.spawn {w : S.World} (h : w.Steady Kept P) (c : S.Call) : (w.spawn c).Steady Kept P := by
  intro i c' op L ws t next hi
  unfold World.spawn at hi
  rw [List.getElem?_append] at hi
  split at hi
  · exact h i c' op L ws t next hi
  · rw [List.getElem?_singleton] at hi
    split at hi
    · cases hi
    · cases hi

/-- A commit leaves the others as steady as they were, where it does not disturb them. -/
theorem World.Steady.commit (htrans : ∀ op k a b c, Kept op k a b → Kept op k b c → Kept op k a c) {w : S.World}
    (h : w.Steady Kept P) (hs : w.Sound (fun _ => True) fun _ _ _ => True) {i : ℕ} {c : S.Call} {op : S.Op} {L : List S.Key}
    {ws : List S.Write} {a : S.Res op} {next : Except S.Err (S.Res op) → S.Code} {p : S.Code}
    (hi : w.sessions[i]? = some (c, .inTx op L ws (.done a) next))
    (hu : w.Undisturbed Kept (World.put { w with db := Tx.applyAll S.Row ws w.db } i (.ready p))) :
    (World.put { w with db := Tx.applyAll S.Row ws w.db } i (.ready p)).Steady Kept P := by
  intro j c' op' L' ws' t next' hj
  by_cases hij : i = j
  · subst hij
    cases World.put_self hj
  · have hj' : w.sessions[j]? = some (c', .inTx op' L' ws' t next') := by rwa [World.put_ne hij] at hj
    refine (h j c' op' L' ws' t next' hj').later (htrans op') (fun k hk => ?_) fun k body ht => ?_
    · refine (Tx.get_applyAll_of_notMem _ fun v hv hkv => ?_).symm
      exact hs.apart i j _ _ hij hi hj' k ((hs.holds i _ hi).1 v hv k hkv) hk
    · subst ht
      exact hu j c' op' L' ws' k body next' hj' (hj.trans hj'.symm)

/-- **One step that disturbs nobody keeps the world steady**, and a transaction that it rolls back failed as `P` says. -/
theorem Step.steady (htrans : ∀ op k a b c, Kept op k a b → Kept op k b c → Kept op k a c)
    (hrefl : ∀ op k a, Kept op k a a) (hbody : ∀ op s, Tx.Steady (Kept op) (P op) (fun _ _ => True) (S.tx op) [] [] s)
    {w w' : S.World} {es : List S.Event} (step : Step w es w') (hs : w.Sound (fun _ => True) fun _ _ _ => True)
    (h : w.Steady Kept P) (hu : w.Undisturbed Kept w') :
    w'.Steady Kept P ∧ ∀ f, .failed f ∈ es → P f.op f.err f.before := by
  cases step with
  | spawn c => exact ⟨h.spawn c, fun f hf => (by cases hf)⟩
  | «begin» hi =>
    refine ⟨h.put fun op L ws t next heq => ?_, fun f hf => (by cases hf)⟩
    cases heq
    exact hbody _ _
  | lock hi hk =>
    refine ⟨h.put fun op L ws t next heq => ?_, fun f hf => (by cases hf)⟩
    cases heq
    exact h _ _ _ _ _ _ _ hi w.db (.refl _ _) (hrefl _ _ _)
  | write hi hk =>
    refine ⟨h.put fun op L ws t next heq => ?_, fun f hf => (by cases hf)⟩
    cases heq
    exact h _ _ _ _ _ _ _ hi w.db (.refl _ _)
  | peek hi =>
    refine ⟨h.put fun op L ws t next heq => ?_, fun f hf => (by cases hf)⟩
    cases heq
    exact h _ _ _ _ _ _ _ hi w.db (.refl _ _)
  | commit hi => exact ⟨h.commit htrans hs hi hu, fun f hf => (by cases List.mem_singleton.1 hf)⟩
  | commitUnheard hi => exact ⟨h.commit htrans hs hi hu, fun f hf => (by cases List.mem_singleton.1 hf)⟩
  | rollback hi =>
    refine ⟨h.idle fun _ _ _ _ _ => (by rintro ⟨⟩), fun f hf => ?_⟩
    cases List.mem_singleton.1 hf
    exact h _ _ _ _ _ _ _ hi w.db (.refl _ _)
  | returns hi => exact ⟨h.idle fun _ _ _ _ _ => (by rintro ⟨⟩), fun f hf => (by cases List.mem_singleton.1 hf)⟩
  | raises hi => exact ⟨h.idle fun _ _ _ _ _ => (by rintro ⟨⟩), fun f hf => (by cases List.mem_singleton.1 hf)⟩
  | send hi => exact ⟨(h.idle fun _ _ _ _ _ => (by rintro ⟨⟩)).spawn _, fun f hf => (by cases hf)⟩
  | _ => exact ⟨h.idle fun _ _ _ _ _ => (by rintro ⟨⟩), fun f hf => (by cases hf)⟩

/-- **In an undisturbed run every transaction that fails does so for a reason.** -/
theorem UndisturbedRun.failures (htrans : ∀ op k a b c, Kept op k a b → Kept op k b c → Kept op k a c)
    (hrefl : ∀ op k a, Kept op k a a) (hbody : ∀ op s, Tx.Steady (Kept op) (P op) (fun _ _ => True) (S.tx op) [] [] s)
    {s : S.State} {es : List S.Event} {w : S.World} (run : UndisturbedRun Kept (quiet s) es w) :
    w.Steady Kept P ∧ ∀ f, .failed f ∈ es → P f.op f.err f.before := by
  induction run with
  | start => exact ⟨fun i _ _ _ _ _ _ hi => (by cases hi), fun f hf => (by cases hf)⟩
  | step run step hu ih =>
    obtain ⟨hsteady, hall⟩ := ih
    obtain ⟨hsteady', hnew⟩ := step.steady htrans hrefl hbody run.run.sound hsteady hu
    refine ⟨hsteady', fun f hf => ?_⟩
    rcases List.mem_append.1 hf with hf | hf
    · exact hall f hf
    · exact hnew f hf

/-! ### A transaction that fails on the row it finds -/

section Waits
variable {s : S.State} {c : S.Call} {op : S.Op} {next : Except S.Err (S.Res op) → S.Code} {look : S.State → S.Body op} {k : S.Key}
  {body : S.Row k → S.Body op} {e : S.Err}

/-- A call has looked and waits for its row. -/
theorem waits (hrefl : ∀ op k a, Kept op k a a) (hproc : S.proc c = .exec op next) (htx : S.tx op = .peek look)
    (hlook : look s = .lock k body) : UndisturbedRun Kept (quiet s) [] ⟨s, [(c, .inTx op [] [] (.lock k body) next)]⟩ := by
  have hready : UndisturbedRun Kept (quiet s) [] ⟨s, [(c, .ready (.exec op next))]⟩ :=
    hproc ▸ UndisturbedRun.start.step (.spawn (quiet s) c) (World.undisturbed_of_db hrefl rfl)
  have hbegun : UndisturbedRun Kept (quiet s) [] ⟨s, [(c, .inTx op [] [] (.peek look) next)]⟩ :=
    htx ▸ hready.step (.begin (i := 0) rfl) (World.undisturbed_of_db hrefl rfl)
  exact hlook ▸ hbegun.step (.peek (i := 0) rfl) (World.undisturbed_of_db hrefl rfl)

/-- A transaction with nobody about fails on the row it finds. -/
theorem refused (hrefl : ∀ op k a, Kept op k a a) (hproc : S.proc c = .exec op next) (htx : S.tx op = .peek look)
    (hlook : look s = .lock k body) (hbody : body (Store.get S.Write s k) = .fail e) :
    ∃ es w, UndisturbedRun Kept (quiet s) es w ∧ .failed ⟨c, op, s, e⟩ ∈ es := by
  have hfree : World.Free ⟨s, [(c, .inTx op [] [] (.lock k body) next)]⟩ 0 k := by
    intro j hj p hp
    cases j with
    | zero => exact absurd rfl hj
    | succ j => cases hp
  have hlocked := (waits hrefl hproc htx hlook).step (.lock (i := 0) rfl hfree) (World.undisturbed_of_db hrefl rfl)
  rw [Tx.applyAll_nil, hbody] at hlocked
  exact ⟨_, _, hlocked.step (.rollback (i := 0) rfl) (World.undisturbed_of_db hrefl rfl),
    List.mem_append_right _ List.mem_cons_self⟩

theorem obey_go_ne {w : S.World} {i j : ℕ} (h : j ≠ i) (hi : i < w.sessions.length) :
    (obey w (.go j)).2.sessions[i]? = w.sessions[i]? := by
  have hlen : ∀ x, i < (w.put j x).sessions.length := by
    intro x
    show i < (w.sessions.modify j _).length
    rwa [List.length_modify]
  simp only [obey]
  split
  · split
    · exact World.put_ne (w := { w with db := _ }) h
    · exact World.put_ne h
  · unfold World.spawn
    rw [List.getElem?_append_left (hlen _), World.put_ne h]
  · exact World.put_ne h
  · exact World.put_ne h
  · split
    · exact World.put_ne h
    · rfl
  · rfl

/-- The world in which one call has looked and waits for its row, and another has done its first transaction meanwhile. -/
def overtaking (s : S.State) (c c' : S.Call) (op : S.Op) (t : S.Body op) (next : Except S.Err (S.Res op) → S.Code) : S.World :=
  (obey (World.spawn ⟨s, [(c, .inTx op [] [] t next)]⟩ c') (.go 1)).2

/-- **A transaction fails on the row it finds after another has overtaken it.** -/
theorem overtaken (c' : S.Call) (hproc : S.proc c = .exec op next) (htx : S.tx op = .peek look) (hlook : look s = .lock k body)
    (hbody : body (Store.get S.Write (overtaking s c c' op (.lock k body) next).db k) = .fail e) :
    ∃ es w, Run (quiet s) es w ∧ .failed ⟨c, op, (overtaking s c c' op (.lock k body) next).db, e⟩ ∈ es := by
  have hkept : UndisturbedRun (fun _ _ _ _ => True) (quiet s) [] ⟨s, [(c, .inTx op [] [] (.lock k body) next)]⟩ :=
    waits (fun _ _ _ => trivial) hproc htx hlook
  have hrun := hkept.run
  have hcalm : World.Calm ⟨s, [(c, .inTx op [] [] (.lock k body) next)]⟩ := by
    intro i p hp
    cases i with
    | zero => cases hp; rfl
    | succ i => cases hp
  obtain ⟨hrun', hcalm'⟩ := obey_run hrun hcalm (.arrive c')
  obtain ⟨hrun'', hcalm''⟩ := obey_run hrun' hcalm' (.go 1)
  have hlooked : Run (quiet s) _ (overtaking s c c' op (.lock k body) next) := hrun''
  have hwaits : (overtaking s c c' op (.lock k body) next).sessions[0]? = some (c, .inTx op [] [] (.lock k body) next) :=
    obey_go_ne (by decide) (by simp [World.spawn])
  have hfree : (overtaking s c c' op (.lock k body) next).Free 0 k := by
    intro j _ p hp
    rw [hcalm'' j p hp]
    exact List.not_mem_nil
  have hlocked := hlooked.step (.lock hwaits hfree)
  have hfails : ((overtaking s c c' op (.lock k body) next).put 0 (.inTx op [k] [] (.fail e) next)).sessions[0]? =
      some (c, .inTx op [k] [] (.fail e) next) := by
    rw [World.put_sessions, hwaits, Option.map_some, if_pos rfl]
  have hstep := Step.rollback hfails
  rw [Tx.applyAll_nil, hbody] at hlocked
  exact ⟨_, _, hlocked.step hstep, List.mem_append_right _ List.mem_cons_self⟩

end Waits

end System
end Rowdb
