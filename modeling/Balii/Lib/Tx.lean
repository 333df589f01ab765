import Mathlib.Logic.Relation
import Mathlib.Data.List.Basic
/-!
# Tx — the body of one transaction under row locks

A transaction body locks rows, writes, and takes plain looks at the database.  `SELECT … FOR UPDATE` and the row an
`UPDATE` waits for are `lock`: the newest version of the row is read and nobody else changes it before the commit.  A
plain `SELECT` is `peek`: it sees what is committed at that moment, and others may commit before this transaction does.

`Exec R t s L ws o` says what the commit of `t` at state `s` amounts to: its locked rows are read in `s` itself, and what
it peeked at is some state that the relation `R` leads from to `s`.
-/
namespace Rowdb

/-- What a table store offers: rows under lock keys, and writes that touch the rows of their own keys only. -/
class Store (σ : Type) {κ : Type} (Row : κ → Type) (ω : Type) where
  get : σ → (k : κ) → Row k
  keys : ω → List κ
  apply : ω → σ → σ
  get_apply_of_notMem : ∀ {w : ω} {k : κ} (s : σ), k ∉ keys w → get (apply w s) k = get s k
  get_apply_congr : ∀ {w : ω} {s t : σ}, (∀ k ∈ keys w, get s k = get t k) →
    ∀ k ∈ keys w, get (apply w s) k = get (apply w t) k

inductive Tx (σ : Type) {κ : Type} (Row : κ → Type) (ω ε α : Type) : Type
  | done (a : α)
  | fail (e : ε)
  | lock (k : κ) (next : Row k → Tx σ Row ω ε α)
  | write (w : ω) (rest : Tx σ Row ω ε α)
  | peek (next : σ → Tx σ Row ω ε α)

/-- What a body that ran to its end leaves: its value, the keys it holds, its writes in order. -/
structure Outcome (κ ω α : Type) where
  val : α
  locks : List κ
  writes : List ω

namespace Tx

variable {σ κ ω ε α β : Type} {Row : κ → Type}

def bind : Tx σ Row ω ε α → (α → Tx σ Row ω ε β) → Tx σ Row ω ε β
  | done a, f => f a
  | fail e, _ => fail e
  | lock k next, f => lock k fun r => (next r).bind f
  | write w rest, f => write w (rest.bind f)
  | peek next, f => peek fun s => (next s).bind f

instance : Monad (Tx σ Row ω ε) where
  pure := done
  bind := bind

/-- `SELECT … WHERE key = k FOR UPDATE`. -/
def lockRow (k : κ) : Tx σ Row ω ε (Row k) := lock k done

def emit (w : ω) : Tx σ Row ω ε Unit := write w (done ())

/-- A plain `SELECT`: the whole database as committed now, with this transaction's own writes. -/
def look (f : σ → α) : Tx σ Row ω ε α := peek fun s => done (f s)

/-- `if (!c) throw e`. -/
def ensure (c : Prop) [Decidable c] (e : ε) : Tx σ Row ω ε Unit := if c then done () else fail e

/-- The value, or the error for a missing one. -/
def need (o : Option α) (e : ε) : Tx σ Row ω ε α :=
  match o with
  | none => fail e
  | some a => done a

/-- `for (const x of xs) await f(x)`. -/
def each {ι : Type} (f : ι → Tx σ Row ω ε Unit) : List ι → Tx σ Row ω ε Unit
  | [] => done ()
  | x :: xs => f x >>= fun _ => each f xs

/-! ## Writing down a list of writes -/

section Apply
variable [Store σ Row ω]

def applyAll (Row : κ → Type) [Store σ Row ω] (ws : List ω) (s : σ) : σ := ws.foldl (fun s w => Store.apply Row w s) s

@[simp] theorem applyAll_nil (s : σ) : applyAll Row ([] : List ω) s = s := rfl

@[simp] theorem applyAll_cons (w : ω) (ws : List ω) (s : σ) :
    applyAll Row (w :: ws) s = applyAll Row ws (Store.apply Row w s) := rfl

@[simp] theorem applyAll_append (ws vs : List ω) (s : σ) :
    applyAll Row (ws ++ vs) s = applyAll Row vs (applyAll Row ws s) := by
  unfold applyAll
  rw [List.foldl_append]

/-- A row no write has as its key is the row it was. -/
theorem get_applyAll_of_notMem {k : κ} : ∀ {ws : List ω} (s : σ), (∀ w ∈ ws, k ∉ Store.keys σ Row w) →
    (Store.get ω (applyAll Row ws s) k : Row k) = Store.get ω s k
  | [], _, _ => rfl
  | w :: ws, s, h => by
    rw [applyAll_cons, get_applyAll_of_notMem _ fun v hv => h v (List.mem_cons_of_mem _ hv)]
    exact Store.get_apply_of_notMem s (h w List.mem_cons_self)

/-- **Writes are local**: two states that agree on the rows of `K` agree on them after the same writes to rows of `K`. -/
theorem get_applyAll_congr {K : List κ} : ∀ {ws : List ω} {s t : σ}, (∀ w ∈ ws, ∀ k ∈ Store.keys σ Row w, k ∈ K) →
    (∀ k ∈ K, (Store.get ω s k : Row k) = Store.get ω t k) →
    ∀ k ∈ K, (Store.get ω (applyAll Row ws s) k : Row k) = Store.get ω (applyAll Row ws t) k
  | [], _, _, _, h, k, hk => h k hk
  | w :: ws, s, t, hK, h, k, hk => by
    rw [applyAll_cons, applyAll_cons]
    refine get_applyAll_congr (fun v hv => hK v (List.mem_cons_of_mem _ hv)) (fun k' hk' => ?_) k hk
    by_cases hw : k' ∈ Store.keys σ Row w
    · exact Store.get_apply_congr (fun q hq => h q (hK w List.mem_cons_self q hq)) k' hw
    · rw [Store.get_apply_of_notMem s hw, Store.get_apply_of_notMem t hw, h k' hk']

end Apply

/-! ## What a commit amounts to -/

section Exec
variable [Store σ Row ω]

def Exec (R : List κ → σ → σ → Prop) : Tx σ Row ω ε α → σ → List κ → List ω → Outcome κ ω α → Prop
  | done a, _, L, ws, o => o = ⟨a, L, ws⟩
  | fail _, _, _, _, _ => False
  | lock k next, s, L, ws, o => Exec R (next (Store.get ω (applyAll Row ws s) k)) s (k :: L) ws o
  | write w rest, s, L, ws, o => Exec R rest s (Store.keys σ Row w ++ L) (ws ++ [w]) o
  | peek next, s, L, ws, o => ∃ s₀, R L s₀ s ∧ Exec R (next (applyAll Row ws s₀)) s L ws o

variable {R : List κ → σ → σ → Prop} {s : σ} {L : List κ} {ws : List ω}

/-- **A sequence commits when its parts do**, the second from the locks and the writes of the first. -/
theorem exec_bind (t : Tx σ Row ω ε α) (f : α → Tx σ Row ω ε β) (s : σ) : ∀ (L : List κ) (ws : List ω) (o : Outcome κ ω β),
    Exec R (t >>= f) s L ws o ↔ ∃ m, Exec R t s L ws m ∧ Exec R (f m.val) s m.locks m.writes o := by
  induction t with
  | done a => intro L ws o; simp [Exec, Bind.bind, bind]
  | fail e => intro L ws o; simp [Exec, Bind.bind, bind]
  | lock k next ih => intro L ws o; exact ih _ _ _ _
  | write w rest ih => intro L ws o; exact ih _ _ _
  | peek next ih =>
    intro L ws o
    simp only [Bind.bind, bind, Exec]
    constructor
    · rintro ⟨s₀, h, h'⟩
      obtain ⟨m, h1, h2⟩ := (ih _ _ _ _).1 h'
      exact ⟨m, ⟨s₀, h, h1⟩, h2⟩
    · rintro ⟨m, ⟨s₀, h, h1⟩, h2⟩
      exact ⟨s₀, h, (ih _ _ _ _).2 ⟨m, h1, h2⟩⟩

@[simp] theorem exec_pure {a : α} {o : Outcome κ ω α} :
    Exec R (pure a : Tx σ Row ω ε α) s L ws o ↔ o = ⟨a, L, ws⟩ := Iff.rfl

@[simp] theorem exec_fail {e : ε} {o : Outcome κ ω α} : ¬ Exec R (fail e : Tx σ Row ω ε α) s L ws o := fun h => h

@[simp] theorem exec_lockRow {k : κ} {o : Outcome κ ω (Row k)} :
    Exec R (lockRow k : Tx σ Row ω ε (Row k)) s L ws o ↔ o = ⟨Store.get ω (applyAll Row ws s) k, k :: L, ws⟩ := Iff.rfl

@[simp] theorem exec_emit {w : ω} {o : Outcome κ ω Unit} :
    Exec R (emit w : Tx σ Row ω ε Unit) s L ws o ↔ o = ⟨(), Store.keys σ Row w ++ L, ws ++ [w]⟩ := Iff.rfl

@[simp] theorem exec_look {f : σ → α} {o : Outcome κ ω α} :
    Exec R (look f : Tx σ Row ω ε α) s L ws o ↔ ∃ s₀, R L s₀ s ∧ o = ⟨f (applyAll Row ws s₀), L, ws⟩ := Iff.rfl

@[simp] theorem exec_ensure {c : Prop} [Decidable c] {e : ε} {o : Outcome κ ω Unit} :
    Exec R (ensure c e : Tx σ Row ω ε Unit) s L ws o ↔ c ∧ o = ⟨(), L, ws⟩ := by
  unfold ensure
  by_cases h : c
  · rw [if_pos h]; exact ⟨fun ho => ⟨h, ho⟩, fun ho => ho.2⟩
  · rw [if_neg h]; exact ⟨fun ho => ho.elim, fun ho => (h ho.1).elim⟩

@[simp] theorem exec_need {x : Option α} {e : ε} {o : Outcome κ ω α} :
    Exec R (need x e : Tx σ Row ω ε α) s L ws o ↔ ∃ a, x = some a ∧ o = ⟨a, L, ws⟩ := by
  cases x with
  | none => exact ⟨fun h => h.elim, fun ⟨_, h, _⟩ => nomatch h⟩
  | some a => exact ⟨fun h => ⟨a, rfl, h⟩, fun ⟨_, h, ho⟩ => by cases h; exact ho⟩

/-- A commit that peeked along `R` peeked along everything `R` implies. -/
theorem Exec.mono {R' : List κ → σ → σ → Prop} (h : ∀ L a b, R L a b → R' L a b) (t : Tx σ Row ω ε α) :
    ∀ {L : List κ} {ws : List ω} {o : Outcome κ ω α}, Exec R t s L ws o → Exec R' t s L ws o := by
  induction t with
  | done a => intro L ws o ho; exact ho
  | fail e => intro L ws o ho; exact ho
  | lock k next ih => intro L ws o ho; exact ih _ ho
  | write w rest ih => intro L ws o ho; exact ih ho
  | peek next ih =>
    intro L ws o ho
    obtain ⟨s₀, hr, ho⟩ := ho
    exact ⟨s₀, h _ _ _ hr, ih _ ho⟩

/-- A commit holds the keys it started with and those of every row it wrote. -/
theorem Exec.locks (t : Tx σ Row ω ε α) : ∀ {L : List κ} {ws : List ω} {o : Outcome κ ω α}, Exec R t s L ws o →
    (∀ w ∈ ws, ∀ k ∈ Store.keys σ Row w, k ∈ L) →
    (∀ k ∈ L, k ∈ o.locks) ∧ ∀ w ∈ o.writes, ∀ k ∈ Store.keys σ Row w, k ∈ o.locks := by
  induction t with
  | done a => rintro L ws o rfl h; exact ⟨fun _ hk => hk, h⟩
  | fail e => intro L ws o ho; exact ho.elim
  | lock k next ih =>
    intro L ws o ho h
    obtain ⟨h1, h2⟩ := ih _ ho fun w hw q hq => List.mem_cons_of_mem _ (h w hw q hq)
    exact ⟨fun q hq => h1 q (List.mem_cons_of_mem _ hq), h2⟩
  | write w rest ih =>
    intro L ws o ho h
    obtain ⟨h1, h2⟩ := ih ho fun v hv q hq => by
      rcases List.mem_append.1 hv with hv | hv
      · exact List.mem_append_right _ (h v hv q hq)
      · cases List.mem_singleton.1 hv
        exact List.mem_append_left _ hq
    exact ⟨fun q hq => h1 q (List.mem_append_right _ hq), h2⟩
  | peek next ih => rintro L ws o ⟨s₀, _, ho⟩ h; exact ih _ ho h

/-- **A loop commits with its invariant**: what holds of nothing done, and what each turn keeps, holds of everything done. -/
theorem exec_each {ι : Type} {f : ι → Tx σ Row ω ε Unit} (J : List ι → List κ → List ω → Prop)
    (step : ∀ (d : List ι) (x : ι) (L : List κ) (ws : List ω) (o : Outcome κ ω Unit), J d L ws → Exec R (f x) s L ws o →
      J (d ++ [x]) o.locks o.writes) :
    ∀ (xs d : List ι) {L : List κ} {ws : List ω} {o : Outcome κ ω Unit}, J d L ws → Exec R (each f xs) s L ws o →
      J (d ++ xs) o.locks o.writes
  | [], d, L, ws, o, hJ, h => by
    cases h
    rwa [List.append_nil]
  | x :: xs, d, L, ws, o, hJ, h => by
    obtain ⟨m, hm, ho⟩ := (exec_bind _ _ _ _ _ _).1 h
    have := exec_each J step xs (d ++ [x]) (step d x L ws m hJ hm) ho
    rwa [List.append_assoc] at this

end Exec

/-! ## How a body fails -/

section Fails
variable [Store σ Row ω]

/-- The body throws `e` when it is run to its end at state `s`. -/
def Fails (R : List κ → σ → σ → Prop) : Tx σ Row ω ε α → σ → List κ → List ω → ε → Prop
  | done _, _, _, _, _ => False
  | fail e, _, _, _, e' => e' = e
  | lock k next, s, L, ws, e' => Fails R (next (Store.get ω (applyAll Row ws s) k)) s (k :: L) ws e'
  | write w rest, s, L, ws, e' => Fails R rest s (Store.keys σ Row w ++ L) (ws ++ [w]) e'
  | peek next, s, L, ws, e' => ∃ s₀, R L s₀ s ∧ Fails R (next (applyAll Row ws s₀)) s L ws e'

variable {R : List κ → σ → σ → Prop} {s : σ} {L : List κ} {ws : List ω} {e' : ε}

/-- **A sequence fails in its first part, or in its second after the first.** -/
theorem fails_bind (t : Tx σ Row ω ε α) (f : α → Tx σ Row ω ε β) (s : σ) : ∀ (L : List κ) (ws : List ω),
    Fails R (t >>= f) s L ws e' ↔
      Fails R t s L ws e' ∨ ∃ m, Exec R t s L ws m ∧ Fails R (f m.val) s m.locks m.writes e' := by
  induction t with
  | done a => intro L ws; simp [Fails, Exec, Bind.bind, bind]
  | fail e => intro L ws; simp [Fails, Exec, Bind.bind, bind]
  | lock k next ih => intro L ws; exact ih _ _ _
  | write w rest ih => intro L ws; exact ih _ _
  | peek next ih =>
    intro L ws
    simp only [Bind.bind, bind, Fails, Exec]
    constructor
    · rintro ⟨s₀, h, h'⟩
      rcases (ih _ _ _).1 h' with h' | ⟨m, h1, h2⟩
      · exact .inl ⟨s₀, h, h'⟩
      · exact .inr ⟨m, ⟨s₀, h, h1⟩, h2⟩
    · rintro (⟨s₀, h, h'⟩ | ⟨m, ⟨s₀, h, h1⟩, h2⟩)
      · exact ⟨s₀, h, (ih _ _ _).2 (.inl h')⟩
      · exact ⟨s₀, h, (ih _ _ _).2 (.inr ⟨m, h1, h2⟩)⟩

@[simp] theorem fails_pure {a : α} : ¬ Fails R (pure a : Tx σ Row ω ε α) s L ws e' := fun h => h

@[simp] theorem fails_fail {e : ε} : Fails R (fail e : Tx σ Row ω ε α) s L ws e' ↔ e' = e := Iff.rfl

@[simp] theorem fails_lockRow {k : κ} : ¬ Fails R (lockRow k : Tx σ Row ω ε (Row k)) s L ws e' := fun h => h

@[simp] theorem fails_emit {w : ω} : ¬ Fails R (emit w : Tx σ Row ω ε Unit) s L ws e' := fun h => h

@[simp] theorem fails_look {f : σ → α} : ¬ Fails R (look f : Tx σ Row ω ε α) s L ws e' := fun ⟨_, _, h⟩ => h

@[simp] theorem fails_ensure {c : Prop} [Decidable c] {e : ε} :
    Fails R (ensure c e : Tx σ Row ω ε Unit) s L ws e' ↔ ¬ c ∧ e' = e := by
  unfold ensure
  by_cases h : c
  · rw [if_pos h]; exact ⟨fun hf => hf.elim, fun hf => (hf.1 h).elim⟩
  · rw [if_neg h]; exact ⟨fun hf => ⟨h, hf⟩, fun hf => hf.2⟩

@[simp] theorem fails_need {x : Option α} {e : ε} :
    Fails R (need x e : Tx σ Row ω ε α) s L ws e' ↔ x = none ∧ e' = e := by
  cases x with
  | none => exact ⟨fun h => ⟨rfl, h⟩, fun h => h.2⟩
  | some a => exact ⟨fun h => h.elim, fun h => nomatch h.1⟩

/-- A loop fails in one of its turns, with its invariant up to there. -/
theorem fails_each {ι : Type} {f : ι → Tx σ Row ω ε Unit} (J : List ι → List κ → List ω → Prop)
    (step : ∀ (d : List ι) (x : ι) (L : List κ) (ws : List ω) (o : Outcome κ ω Unit), J d L ws → Exec R (f x) s L ws o →
      J (d ++ [x]) o.locks o.writes) :
    ∀ (xs d : List ι) {L : List κ} {ws : List ω}, J d L ws → Fails R (each f xs) s L ws e' →
      ∃ d' x rest L' ws', d ++ xs = d' ++ x :: rest ∧ J d' L' ws' ∧ Fails R (f x) s L' ws' e'
  | [], d, L, ws, hJ, h => h.elim
  | x :: xs, d, L, ws, hJ, h => by
    rcases (fails_bind _ _ _ _ _).1 h with h | ⟨m, hm, h⟩
    · exact ⟨d, x, xs, L, ws, rfl, hJ, h⟩
    · obtain ⟨d', y, rest, L', ws', heq, h1, h2⟩ := fails_each J step xs (d ++ [x]) (step d x L ws m hJ hm) h
      exact ⟨d', y, rest, L', ws', by rw [← heq, List.append_assoc]; rfl, h1, h2⟩

/-- A loop whose turns cannot fail does not fail. -/
theorem not_fails_each {ι : Type} {f : ι → Tx σ Row ω ε Unit} (h : ∀ x L ws, ¬ Fails R (f x) s L ws e') {xs : List ι} :
    ¬ Fails R (each f xs) s L ws e' := fun hf => by
  obtain ⟨_, x, _, L', ws', _, _, hx⟩ := fails_each (J := fun _ _ _ => True) (fun _ _ _ _ _ _ _ => trivial) xs [] trivial hf
  exact h x L' ws' hx

/-- How far a body has got: from `t₀` at the start to the rest `t`, with its locks and writes so far. -/
inductive Path (R : List κ → σ → σ → Prop) (s : σ) (t₀ : Tx σ Row ω ε α) (L₀ : List κ) (ws₀ : List ω) :
    Tx σ Row ω ε α → List κ → List ω → Prop
  | start : Path R s t₀ L₀ ws₀ t₀ L₀ ws₀
  | lock {k next L ws} (h : Path R s t₀ L₀ ws₀ (.lock k next) L ws) :
      Path R s t₀ L₀ ws₀ (next (Store.get ω (applyAll Row ws s) k)) (k :: L) ws
  | write {w rest L ws} (h : Path R s t₀ L₀ ws₀ (.write w rest) L ws) :
      Path R s t₀ L₀ ws₀ rest (Store.keys σ Row w ++ L) (ws ++ [w])
  | peek {next L ws s₀} (h : Path R s t₀ L₀ ws₀ (.peek next) L ws) (hr : R L s₀ s) :
      Path R s t₀ L₀ ws₀ (next (applyAll Row ws s₀)) L ws

/-- What the rest commits to, the whole body commits to. -/
theorem Path.exec {t₀ t : Tx σ Row ω ε α} {L₀ : List κ} {ws₀ : List ω} (h : Path R s t₀ L₀ ws₀ t L ws) {o : Outcome κ ω α}
    (ho : Exec R t s L ws o) : Exec R t₀ s L₀ ws₀ o := by
  induction h with
  | start => exact ho
  | lock h ih => exact ih ho
  | write h ih => exact ih ho
  | peek h hr ih => exact ih ⟨_, hr, ho⟩

theorem Path.fails {t₀ t : Tx σ Row ω ε α} {L₀ : List κ} {ws₀ : List ω} (h : Path R s t₀ L₀ ws₀ t L ws)
    (ho : Fails R t s L ws e') : Fails R t₀ s L₀ ws₀ e' := by
  induction h with
  | start => exact ho
  | lock h ih => exact ih ho
  | write h ih => exact ih ho
  | peek h hr ih => exact ih ⟨_, hr, ho⟩

end Fails

/-! ## What a body can write -/

/-- Every write the body can reach satisfies `P`. -/
def Writes (P : ω → Prop) : Tx σ Row ω ε α → Prop
  | done _ => True
  | fail _ => True
  | lock _ next => ∀ r, Writes P (next r)
  | write w rest => P w ∧ Writes P rest
  | peek next => ∀ s, Writes P (next s)

section Writes
variable {P : ω → Prop}

theorem writes_bind {t : Tx σ Row ω ε α} {f : α → Tx σ Row ω ε β} (ht : Writes P t) (hf : ∀ a, Writes P (f a)) :
    Writes P (t >>= f) := by
  induction t with
  | done a => exact hf a
  | fail e => trivial
  | lock k next ih => exact fun r => ih r (ht r)
  | write w rest ih => exact ⟨ht.1, ih ht.2⟩
  | peek next ih => exact fun s => ih s (ht s)

theorem writes_pure (a : α) : Writes P (pure a : Tx σ Row ω ε α) := trivial

theorem writes_fail (e : ε) : Writes P (fail e : Tx σ Row ω ε α) := trivial

theorem writes_lockRow (k : κ) : Writes P (lockRow k : Tx σ Row ω ε (Row k)) := fun _ => trivial

theorem writes_emit {w : ω} (h : P w) : Writes P (emit w : Tx σ Row ω ε Unit) := ⟨h, trivial⟩

theorem writes_look (f : σ → α) : Writes P (look f : Tx σ Row ω ε α) := fun _ => trivial

theorem writes_ensure (c : Prop) [Decidable c] (e : ε) : Writes P (ensure c e : Tx σ Row ω ε Unit) := by
  unfold ensure
  split <;> trivial

theorem writes_need (x : Option α) (e : ε) : Writes P (need x e : Tx σ Row ω ε α) := by
  cases x <;> trivial

theorem writes_each {ι : Type} {f : ι → Tx σ Row ω ε Unit} {xs : List ι} (h : ∀ x ∈ xs, Writes P (f x)) :
    Writes P (each f xs) := by
  induction xs with
  | nil => trivial
  | cons x xs ih =>
    exact writes_bind (h x List.mem_cons_self) fun _ => ih fun y hy => h y (List.mem_cons_of_mem _ hy)

theorem Writes.mono {Q : ω → Prop} {t : Tx σ Row ω ε α} (ht : Writes P t) (h : ∀ w, P w → Q w) : Writes Q t := by
  induction t with
  | done a => trivial
  | fail e => trivial
  | lock k next ih => exact fun r => ih r (ht r)
  | write w rest ih => exact ⟨h w ht.1, ih ht.2⟩
  | peek next ih => exact fun s => ih s (ht s)

/-- The writes of a commit are the writes it started with and writes of the body. -/
theorem Exec.writes [Store σ Row ω] {R : List κ → σ → σ → Prop} {s : σ} (t : Tx σ Row ω ε α) :
    ∀ {L : List κ} {ws : List ω} {o : Outcome κ ω α}, Exec R t s L ws o → Writes P t → (∀ w ∈ ws, P w) → ∀ w ∈ o.writes, P w := by
  induction t with
  | done a => rintro L ws o rfl _ h; exact h
  | fail e => intro L ws o ho; exact ho.elim
  | lock k next ih => intro L ws o ho hp h; exact ih _ ho (hp _) h
  | write w rest ih =>
    intro L ws o ho hp h
    refine ih ho hp.2 fun v hv => ?_
    rcases List.mem_append.1 hv with hv | hv
    · exact h v hv
    · cases List.mem_singleton.1 hv
      exact hp.1
  | peek next ih => rintro L ws o ⟨s₀, _, ho⟩ hp h; exact ih _ ho (hp _) h

/-- **A commit adds its own writes** to those it started with. -/
theorem Exec.extends [Store σ Row ω] {R : List κ → σ → σ → Prop} {s : σ} (t : Tx σ Row ω ε α) :
    ∀ {L : List κ} {ws : List ω} {o : Outcome κ ω α}, Exec R t s L ws o →
      ∃ vs, o.writes = ws ++ vs ∧ (Writes P t → ∀ w ∈ vs, P w) := by
  induction t with
  | done a => rintro L ws o rfl; exact ⟨[], (List.append_nil _).symm, fun _ _ h => nomatch h⟩
  | fail e => intro L ws o ho; exact ho.elim
  | lock k next ih =>
    intro L ws o ho
    obtain ⟨vs, h1, h2⟩ := ih _ ho
    exact ⟨vs, h1, fun hp => h2 (hp _)⟩
  | write w rest ih =>
    intro L ws o ho
    obtain ⟨vs, h1, h2⟩ := ih ho
    refine ⟨w :: vs, by rw [h1, List.append_assoc]; rfl, fun hp v hv => ?_⟩
    rcases List.mem_cons.1 hv with rfl | hv
    · exact hp.1
    · exact h2 hp.2 v hv
  | peek next ih =>
    rintro L ws o ⟨s₀, _, ho⟩
    obtain ⟨vs, h1, h2⟩ := ih _ ho
    exact ⟨vs, h1, fun hp => h2 (hp _)⟩

/-- A body that writes nothing leaves the writes as they were. -/
theorem Exec.writes_eq [Store σ Row ω] {R : List κ → σ → σ → Prop} {s : σ} {t : Tx σ Row ω ε α} {L : List κ} {ws : List ω}
    {o : Outcome κ ω α} (h : Exec R t s L ws o) (hw : Writes (fun _ => False) t) : o.writes = ws := by
  obtain ⟨vs, hvs, hnone⟩ := Exec.extends (P := fun _ => False) t h
  cases vs with
  | nil => rw [hvs, List.append_nil]
  | cons w vs => exact (hnone hw w List.mem_cons_self).elim

end Writes

/-! ## What a body does to the state, part by part -/

section Moves
variable [Store σ Row ω] {r : σ → σ → Prop}

/-- Every execution of the body takes the state it works on along `r`, in any number of moves. -/
def Moves (r : σ → σ → Prop) (t : Tx σ Row ω ε α) : Prop :=
  ∀ (R : List κ → σ → σ → Prop) (s : σ) (L : List κ) (ws : List ω) (o : Outcome κ ω α), Exec R t s L ws o →
    Relation.ReflTransGen r (applyAll Row ws s) (applyAll Row o.writes s)

theorem moves_bind {t : Tx σ Row ω ε α} {f : α → Tx σ Row ω ε β} (ht : Moves r t) (hf : ∀ a, Moves r (f a)) :
    Moves r (t >>= f) := by
  intro R s L ws o h
  rw [exec_bind] at h
  obtain ⟨m, hm, h⟩ := h
  exact (ht R s L ws m hm).trans (hf _ R s _ _ o h)

/-- A body whose every write is a move. -/
theorem moves_of_writes {t : Tx σ Row ω ε α} {P : ω → Prop} (ht : Writes P t)
    (hP : ∀ w, P w → ∀ s, r s (Store.apply Row w s)) : Moves r t := by
  intro R s L ws o h
  obtain ⟨vs, hvs, hall⟩ := Exec.extends (P := P) t h
  rw [hvs, applyAll_append]
  replace hall := hall ht
  clear hvs h
  generalize applyAll Row ws s = a
  induction vs generalizing a with
  | nil => exact .refl
  | cons w vs ih =>
    exact .head (hP w (hall w List.mem_cons_self) a) (ih (fun v hv => hall v (List.mem_cons_of_mem _ hv)) _)

end Moves

/-! ## Bodies in parts -/

section Parts
variable {Part : (α : Type) → Tx σ Row ω ε α → Prop}

/-- The body is a sequence of parts, each of which may depend on what the ones before found. -/
inductive Parts (Part : (α : Type) → Tx σ Row ω ε α → Prop) : {α : Type} → Tx σ Row ω ε α → Prop
  | part {α : Type} {t : Tx σ Row ω ε α} (h : Part α t) : Parts Part t
  | bind {α β : Type} {t : Tx σ Row ω ε α} {f : α → Tx σ Row ω ε β} (ht : Parts Part t) (hf : ∀ a, Parts Part (f a)) :
      Parts Part (t.bind f)

theorem parts_bind {t : Tx σ Row ω ε α} {f : α → Tx σ Row ω ε β} (ht : Parts Part t) (hf : ∀ a, Parts Part (f a)) :
    Parts Part (t >>= f) :=
  .bind ht hf

theorem parts_if {c : Prop} [Decidable c] {t u : Tx σ Row ω ε α} (ht : Parts Part t) (hu : Parts Part u) :
    Parts Part (if c then t else u) := by
  split
  · exact ht
  · exact hu

theorem parts_each (hstill : ∀ {α : Type} {t : Tx σ Row ω ε α}, Writes (fun _ => False) t → Part α t) {ι : Type}
    {f : ι → Tx σ Row ω ε Unit} {xs : List ι} (h : ∀ x ∈ xs, Parts Part (f x)) : Parts Part (each f xs) := by
  induction xs with
  | nil => exact .part (hstill (writes_pure ()))
  | cons x xs ih => exact .bind (h x List.mem_cons_self) fun _ => ih fun y hy => h y (List.mem_cons_of_mem _ hy)

theorem Parts.writes {P : ω → Prop} (hpart : ∀ {α : Type} {t : Tx σ Row ω ε α}, Part α t → Writes P t)
    {t : Tx σ Row ω ε α} (h : Parts Part t) : Writes P t := by
  induction h with
  | part h => exact hpart h
  | bind _ _ iht ihf => exact writes_bind iht ihf

theorem Parts.moves [Store σ Row ω] {r : σ → σ → Prop} (hpart : ∀ {α : Type} {t : Tx σ Row ω ε α}, Part α t → Moves r t)
    {t : Tx σ Row ω ε α} (h : Parts Part t) : Moves r t := by
  induction h with
  | part h => exact hpart h
  | bind _ _ iht ihf => exact moves_bind iht ihf

end Parts

/-! ## Running a body alone -/

section Run
variable [Store σ Row ω]

/-- The body run with nobody else about. -/
def run : Tx σ Row ω ε α → σ → List κ → List ω → Except ε (Outcome κ ω α)
  | done a, _, L, ws => .ok ⟨a, L, ws⟩
  | fail e, _, _, _ => .error e
  | lock k next, s, L, ws => run (next (Store.get ω (applyAll Row ws s) k)) s (k :: L) ws
  | write w rest, s, L, ws => run rest s (Store.keys σ Row w ++ L) (ws ++ [w])
  | peek next, s, L, ws => run (next (applyAll Row ws s)) s L ws

/-- Alone, a body gets to what `run` says, or throws what it says. -/
theorem exec_of_run {R : List κ → σ → σ → Prop} {s : σ} (hR : ∀ L, R L s s) (t : Tx σ Row ω ε α) : ∀ (L : List κ) (ws : List ω),
    match t.run s L ws with
    | .ok o => Exec R t s L ws o
    | .error e => Fails R t s L ws e := by
  induction t with
  | done a => exact fun _ _ => rfl
  | fail e => exact fun _ _ => rfl
  | lock k next ih => exact fun _ _ => ih _ _ _
  | write w rest ih => exact fun _ _ => ih _ _
  | peek next ih =>
    intro L ws
    have hnext := ih (applyAll Row ws s) L ws
    rw [run]
    split at hnext
    · exact ⟨s, hR L, hnext⟩
    · exact ⟨s, hR L, hnext⟩

/-- What a body commits to alone is what `run` says. -/
theorem run_eq_ok {s : σ} {o : Outcome κ ω α} (t : Tx σ Row ω ε α) : ∀ (L : List κ) (ws : List ω),
    t.run s L ws = .ok o ↔ Exec (fun _ a b => a = b) t s L ws o := by
  induction t with
  | done a => exact fun _ _ => ⟨fun h => (Except.ok.inj h).symm, fun h => congrArg Except.ok (Eq.symm h)⟩
  | fail e => exact fun _ _ => ⟨fun h => (nomatch h), False.elim⟩
  | lock k next ih => exact fun _ _ => ih _ _ _
  | write w rest ih => exact fun _ _ => ih _ _
  | peek next ih =>
    intro L ws
    refine (ih _ L ws).trans ⟨fun h => ⟨s, rfl, h⟩, ?_⟩
    rintro ⟨_, rfl, h⟩
    exact h

end Run

end Tx
end Rowdb
