import Balii.Lib.Tx
import Mathlib.Data.List.Chain
import Mathlib.Algebra.BigOperators.Group.List.Basic
import Mathlib.Algebra.Ring.Int.Defs
/-!
# Service — calls to services over one database, step by step

A call runs a procedure: transactions one after another, calls to other services, questions to the outside world.  The
sessions of all calls interleave at every statement.  A statement waits for the row locks of the others; a connection can
drop at any moment, a process can die, a reply can get lost while the callee goes on, and a transaction can be committed
without its client ever hearing of it.
-/
namespace Rowdb

inductive Proc (Op : Type) (Res : Op → Type) (Call Reply Answer ε α : Type) : Type
  | done (a : α)
  | fail (e : ε)
  | exec (op : Op) (next : Except ε (Res op) → Proc Op Res Call Reply Answer ε α)
  | call (c : Call) (next : Except ε Reply → Proc Op Res Call Reply Answer ε α)
  | ask (next : Answer → Proc Op Res Call Reply Answer ε α)

namespace Proc

variable {Op : Type} {Res : Op → Type} {Call Reply Answer ε α β : Type}

def bind : Proc Op Res Call Reply Answer ε α → (α → Proc Op Res Call Reply Answer ε β) → Proc Op Res Call Reply Answer ε β
  | done a, f => f a
  | fail e, _ => fail e
  | exec op next, f => exec op fun r => (next r).bind f
  | call c next, f => call c fun r => (next r).bind f
  | ask next, f => ask fun a => (next a).bind f

/-- `try { p } catch (e) { h(e) }`. -/
def catching : Proc Op Res Call Reply Answer ε α → (ε → Proc Op Res Call Reply Answer ε α) → Proc Op Res Call Reply Answer ε α
  | done a, _ => done a
  | fail e, h => h e
  | exec op next, h => exec op fun r => (next r).catching h
  | call c next, h => call c fun r => (next r).catching h
  | ask next, h => ask fun a => (next a).catching h

instance : Monad (Proc Op Res Call Reply Answer ε) where
  pure := done
  bind := bind

def ofExcept : Except ε α → Proc Op Res Call Reply Answer ε α
  | .ok a => done a
  | .error e => fail e

/-- A transaction, its error thrown on. -/
def trans (op : Op) : Proc Op Res Call Reply Answer ε (Res op) := exec op ofExcept

/-- A transaction, its error kept for later. -/
def attempt (op : Op) : Proc Op Res Call Reply Answer ε (Except ε (Res op)) := exec op done

def answer : Proc Op Res Call Reply Answer ε Answer := ask done

def ensure (c : Prop) [Decidable c] (e : ε) : Proc Op Res Call Reply Answer ε Unit := if c then done () else fail e

def need (o : Option α) (e : ε) : Proc Op Res Call Reply Answer ε α :=
  match o with
  | none => fail e
  | some a => done a

end Proc

/-- The transactions and the calls of a group of services over one database. -/
structure System where
  State : Type
  Key : Type
  Row : Key → Type
  Write : Type
  Err : Type
  Op : Type
  Res : Op → Type
  Call : Type
  Reply : Type
  Answer : Type
  store : Store State Row Write
  tx : (op : Op) → Tx State Row Write Err (Res op)
  proc : Call → Proc Op Res Call Reply Answer Err Reply
  lost : Err

namespace System

instance (S : System) : Store S.State S.Row S.Write := S.store

variable (S : System)

abbrev Body (op : S.Op) : Type := Tx S.State S.Row S.Write S.Err (S.Res op)

abbrev Code : Type := Proc S.Op S.Res S.Call S.Reply S.Answer S.Err S.Reply

inductive Session
  | ready (p : S.Code)
  | inTx (op : S.Op) (locks : List S.Key) (writes : List S.Write) (rest : S.Body op)
      (next : Except S.Err (S.Res op) → S.Code)
  | waiting (j : ℕ) (next : Except S.Err S.Reply → S.Code)
  | finished (r : Except S.Err S.Reply)
  | crashed

/-- One committed transaction: on whose behalf, the state it committed at, and what it did. -/
structure Commit where
  call : S.Call
  op : S.Op
  before : S.State
  out : Outcome S.Key S.Write (S.Res op)

/-- One transaction that threw, and the state it was rolled back at. -/
structure Failure where
  call : S.Call
  op : S.Op
  before : S.State
  err : S.Err

inductive Event
  | commit (c : S.Commit)
  | failed (f : S.Failure)
  | returned (call : S.Call) (r : Except S.Err S.Reply) (db : S.State)

structure World where
  db : S.State
  sessions : List (S.Call × S.Session)

variable {S}

def Session.locks : S.Session → List S.Key
  | .inTx _ L _ _ _ => L
  | _ => []

def Commit.after (c : S.Commit) : S.State := Tx.applyAll S.Row c.out.writes c.before

/-- The state after the event, when it changes it. -/
def Event.after? : S.Event → Option S.State
  | .commit c => some c.after
  | _ => none

namespace World

def put (w : S.World) (i : ℕ) (x : S.Session) : S.World :=
  { w with sessions := w.sessions.modify i fun p => (p.1, x) }

def spawn (w : S.World) (c : S.Call) : S.World := { w with sessions := w.sessions ++ [(c, .ready (S.proc c))] }

/-- No session but `i` holds the key. -/
def Free (w : S.World) (i : ℕ) (k : S.Key) : Prop :=
  ∀ j, j ≠ i → ∀ p, w.sessions[j]? = some p → k ∉ p.2.locks

/-- No session holds the key. -/
def Unheld (w : S.World) (k : S.Key) : Prop := ∀ p ∈ w.sessions, k ∉ p.2.locks

@[simp] theorem put_db (w : S.World) (i : ℕ) (x : S.Session) : (w.put i x).db = w.db := rfl

theorem put_sessions (w : S.World) (i j : ℕ) (x : S.Session) :
    (w.put i x).sessions[j]? = (w.sessions[j]?).map fun p => if i = j then (p.1, x) else p := by
  unfold put
  rw [List.getElem?_modify]
  rfl

theorem put_self {w : S.World} {i : ℕ} {x : S.Session} {p : S.Call × S.Session} (h : (w.put i x).sessions[i]? = some p) :
    p.2 = x := by
  rw [put_sessions] at h
  obtain ⟨q, _, rfl⟩ := Option.map_eq_some_iff.1 h
  rw [if_pos rfl]

@[simp] theorem put_put (w : S.World) (i : ℕ) (x y : S.Session) : (w.put i x).put i y = w.put i y := by
  unfold put
  simp only [List.modify_modify_eq]
  rfl

@[simp] theorem mk_put_put (s : S.State) (w : S.World) (i : ℕ) (x y : S.Session) :
    put ⟨s, (w.put i x).sessions⟩ i y = put ⟨s, w.sessions⟩ i y :=
  put_put ⟨s, w.sessions⟩ i x y

theorem put_ne {w : S.World} {i j : ℕ} {x : S.Session} (h : i ≠ j) : (w.put i x).sessions[j]? = w.sessions[j]? := by
  rw [put_sessions]
  cases w.sessions[j]? with
  | none => rfl
  | some p => rw [Option.map_some, if_neg h]

end World

open World in
/-- **One step of one session, or the arrival of a call.** -/
inductive Step : S.World → List S.Event → S.World → Prop
  | spawn (w : S.World) (c : S.Call) : Step w [] (w.spawn c)
  | begin {w : S.World} {i : ℕ} {c op next} (h : w.sessions[i]? = some (c, .ready (.exec op next))) :
      Step w [] (w.put i (.inTx op [] [] (S.tx op) next))
  | lock {w : S.World} {i : ℕ} {c op L ws k body next} (h : w.sessions[i]? = some (c, .inTx op L ws (.lock k body) next))
      (hk : w.Free i k) :
      Step w [] (w.put i (.inTx op (k :: L) ws (body (Store.get S.Write (Tx.applyAll S.Row ws w.db) k)) next))
  | write {w : S.World} {i : ℕ} {c op L ws v rest next} (h : w.sessions[i]? = some (c, .inTx op L ws (.write v rest) next))
      (hk : ∀ k ∈ Store.keys S.State S.Row v, w.Free i k) :
      Step w [] (w.put i (.inTx op (Store.keys S.State S.Row v ++ L) (ws ++ [v]) rest next))
  | peek {w : S.World} {i : ℕ} {c op L ws body next} (h : w.sessions[i]? = some (c, .inTx op L ws (.peek body) next)) :
      Step w [] (w.put i (.inTx op L ws (body (Tx.applyAll S.Row ws w.db)) next))
  | commit {w : S.World} {i : ℕ} {c op L ws a next} (h : w.sessions[i]? = some (c, .inTx op L ws (.done a) next)) :
      Step w [.commit ⟨c, op, w.db, ⟨a, L, ws⟩⟩]
        (put { w with db := Tx.applyAll S.Row ws w.db } i (.ready (next (.ok a))))
  | commitUnheard {w : S.World} {i : ℕ} {c op L ws a next} (h : w.sessions[i]? = some (c, .inTx op L ws (.done a) next)) :
      Step w [.commit ⟨c, op, w.db, ⟨a, L, ws⟩⟩]
        (put { w with db := Tx.applyAll S.Row ws w.db } i (.ready (next (.error S.lost))))
  | rollback {w : S.World} {i : ℕ} {c op L ws e next} (h : w.sessions[i]? = some (c, .inTx op L ws (.fail e) next)) :
      Step w [.failed ⟨c, op, w.db, e⟩] (w.put i (.ready (next (.error e))))
  | abort {w : S.World} {i : ℕ} {c op L ws t next} (h : w.sessions[i]? = some (c, .inTx op L ws t next)) :
      Step w [] (w.put i (.ready (next (.error S.lost))))
  | send {w : S.World} {i : ℕ} {c c' next} (h : w.sessions[i]? = some (c, .ready (.call c' next))) :
      Step w [] ((w.put i (.waiting w.sessions.length next)).spawn c')
  | unsent {w : S.World} {i : ℕ} {c c' next} (h : w.sessions[i]? = some (c, .ready (.call c' next))) :
      Step w [] (w.put i (.ready (next (.error S.lost))))
  | reply {w : S.World} {i j : ℕ} {c c' next r} (h : w.sessions[i]? = some (c, .waiting j next))
      (hj : w.sessions[j]? = some (c', .finished r)) : Step w [] (w.put i (.ready (next r)))
  | timeout {w : S.World} {i j : ℕ} {c next} (h : w.sessions[i]? = some (c, .waiting j next)) :
      Step w [] (w.put i (.ready (next (.error S.lost))))
  | answer {w : S.World} {i : ℕ} {c next} (h : w.sessions[i]? = some (c, .ready (.ask next))) (a : S.Answer) :
      Step w [] (w.put i (.ready (next a)))
  | returns {w : S.World} {i : ℕ} {c a} (h : w.sessions[i]? = some (c, .ready (.done a))) :
      Step w [.returned c (.ok a) w.db] (w.put i (.finished (.ok a)))
  | raises {w : S.World} {i : ℕ} {c e} (h : w.sessions[i]? = some (c, .ready (.fail e))) :
      Step w [.returned c (.error e) w.db] (w.put i (.finished (.error e)))
  | crash {w : S.World} {i : ℕ} {c x} (h : w.sessions[i]? = some (c, x)) : Step w [] (w.put i .crashed)

/-- Any number of steps, with the events they make. -/
inductive Run (w₀ : S.World) : List S.Event → S.World → Prop
  | start : Run w₀ [] w₀
  | step {es es' : List S.Event} {w w' : S.World} (run : Run w₀ es w) (step : Step w es' w') : Run w₀ (es ++ es') w'

/-- The session has nothing more to do. -/
def Session.isOver : S.Session → Bool
  | .finished _ => true
  | .crashed => true
  | _ => false

/-- No call is in flight. -/
def World.Idle (w : S.World) : Prop := ∀ p ∈ w.sessions, p.2.isOver = true

instance (w : S.World) : Decidable w.Idle := inferInstanceAs (Decidable (∀ p ∈ w.sessions, p.2.isOver = true))

/-- The world before any call arrived. -/
def quiet (s : S.State) : S.World := ⟨s, []⟩

/-- **A run from a state that meets `Init`, in which only `Permitted` transactions commit.** -/
structure Execution (S : System) (Init : S.State → Prop) (Permitted : S.Op → Prop) where
  init : S.State
  events : List S.Event
  final : S.World
  starts : Init init
  run : Run (quiet init) events final
  permitted : ∀ c, .commit c ∈ events → Permitted c.op

namespace Execution

variable {Init : S.State → Prop} {Permitted : S.Op → Prop}

/-- The states the database goes through, in order. -/
def history (e : Execution S Init Permitted) : List S.State := e.init :: e.events.filterMap Event.after?

theorem mem_history {e : Execution S Init Permitted} {s : S.State} :
    s ∈ e.history ↔ s = e.init ∨ ∃ c : S.Commit, .commit c ∈ e.events ∧ c.after = s := by
  unfold history
  rw [List.mem_cons, List.mem_filterMap]
  refine or_congr Iff.rfl ⟨?_, ?_⟩
  · rintro ⟨ev, hev, h⟩
    cases ev with
    | commit c => exact ⟨c, hev, Option.some.inj h⟩
    | failed f => cases h
    | returned c r db => cases h
  · rintro ⟨c, hc, rfl⟩
    exact ⟨.commit c, hc, rfl⟩

end Execution

/-- A step commits once, from the state it finds to the state it leaves, or leaves the state alone. -/
theorem Step.events {w w' : S.World} {es : List S.Event} (step : Step w es w') :
    (∃ c : S.Commit, es = [.commit c] ∧ c.before = w.db ∧ c.after = w'.db) ∨
      (es.filterMap Event.after? = [] ∧ (∀ c : S.Commit, .commit c ∉ es) ∧ w'.db = w.db) := by
  cases step with
  | commit h => exact .inl ⟨_, rfl, rfl, rfl⟩
  | commitUnheard h => exact .inl ⟨_, rfl, rfl, rfl⟩
  | rollback h => exact .inr ⟨rfl, fun c hc => (by cases List.mem_singleton.1 hc), rfl⟩
  | returns h => exact .inr ⟨rfl, fun c hc => (by cases List.mem_singleton.1 hc), rfl⟩
  | raises h => exact .inr ⟨rfl, fun c hc => (by cases List.mem_singleton.1 hc), rfl⟩
  | _ => exact .inr ⟨rfl, fun c hc => (nomatch hc), rfl⟩

/-- **A run's states are chained by its commits.** -/
theorem Run.chain {s : S.State} {es : List S.Event} {w : S.World} (run : Run (quiet s) es w) (R : S.State → S.State → Prop) :
    (s :: es.filterMap Event.after?).getLast? = some w.db ∧
      ((s :: es.filterMap Event.after?).IsChain R ↔ ∀ c : S.Commit, .commit c ∈ es → R c.before c.after) := by
  induction run with
  | start => exact ⟨rfl, fun _ c hc => (nomatch hc), fun _ => .singleton _⟩
  | @step es es' w w' run step ih =>
    obtain ⟨hlast, hchain⟩ := ih
    rw [List.filterMap_append, ← List.cons_append]
    rcases step.events with ⟨c, rfl, hb, ha⟩ | ⟨hnil, hno, hdb⟩
    · refine ⟨(List.getLast?_concat (l := _)).trans (congrArg some ha), ?_⟩
      rw [List.isChain_append, hchain, hlast]
      constructor
      · rintro ⟨h1, _, h2⟩ c' hc'
        rcases List.mem_append.1 hc' with hc' | hc'
        · exact h1 c' hc'
        · cases List.mem_singleton.1 hc'
          rw [hb]
          exact h2 _ rfl _ rfl
      · intro h
        refine ⟨fun c' hc' => h c' (List.mem_append_left _ hc'), .singleton _, ?_⟩
        rintro x hx y hy
        cases hx
        cases hy
        rw [← hb]
        exact h c (List.mem_append_right _ List.mem_cons_self)
    · rw [hnil, List.append_nil, hdb]
      refine ⟨hlast, hchain.trans ⟨fun h c hc => ?_, fun h c hc => h c (List.mem_append_left _ hc)⟩⟩
      rcases List.mem_append.1 hc with hc | hc
      · exact h c hc
      · exact absurd hc (hno c)

namespace Execution

variable {Init : S.State → Prop} {Permitted : S.Op → Prop}

theorem isChain_history (e : Execution S Init Permitted) (R : S.State → S.State → Prop) :
    e.history.IsChain R ↔ ∀ c : S.Commit, .commit c ∈ e.events → R c.before c.after :=
  (e.run.chain R).2

/-- A commit is from one of the run's states. -/
theorem before_mem_history (e : Execution S Init Permitted) {c : S.Commit} (hc : .commit c ∈ e.events) :
    c.before ∈ e.history := by
  have hchain : e.history.IsChain fun a _ => a ∈ e.history :=
    (List.pairwise_of_forall_mem_list fun _ ha _ _ => ha).isChain
  exact (e.isChain_history _).1 hchain c hc

/-- The state a run ends in is one of its states. -/
theorem final_mem_history (e : Execution S Init Permitted) : e.final.db ∈ e.history :=
  List.mem_of_getLast? (e.run.chain fun _ _ => True).1

/-- What every commit keeps, every later state has. -/
theorem pairwise_history (e : Execution S Init Permitted) {R : S.State → S.State → Prop}
    (htrans : ∀ a b c, R a b → R b c → R a c) :
    e.history.Pairwise R ↔ ∀ c : S.Commit, .commit c ∈ e.events → R c.before c.after := by
  have : Trans R R R := ⟨fun h h' => htrans _ _ _ h h'⟩
  rw [← List.isChain_iff_pairwise, isChain_history]

end Execution

/-- **What holds at some moment of a run** held at its start, or a commit made it so. -/
theorem Run.made {s : S.State} {es : List S.Event} {w : S.World} (run : Run (quiet s) es w) (P : S.State → Prop) :
    (P w.db → P s ∨ ∃ d : S.Commit, .commit d ∈ es ∧ ¬ P d.before ∧ P d.after) ∧
      ∀ c : S.Commit, .commit c ∈ es → P c.after → P s ∨ ∃ d : S.Commit, .commit d ∈ es ∧ ¬ P d.before ∧ P d.after := by
  induction run with
  | start => exact ⟨.inl, fun c hc => nomatch hc⟩
  | @step es es' w w' run step ih =>
    obtain ⟨hnow, hthen⟩ := ih
    have hmore : (P s ∨ ∃ d : S.Commit, .commit d ∈ es ∧ ¬ P d.before ∧ P d.after) →
        P s ∨ ∃ d : S.Commit, .commit d ∈ es ++ es' ∧ ¬ P d.before ∧ P d.after :=
      .imp_right fun ⟨d, hd, h⟩ => ⟨d, List.mem_append_left _ hd, h⟩
    rcases step.events with ⟨c, rfl, hb, ha⟩ | ⟨_, hno, hdb⟩
    · have hnew : P c.after → P s ∨ ∃ d : S.Commit, .commit d ∈ es ++ [.commit c] ∧ ¬ P d.before ∧ P d.after := by
        intro h
        by_cases hbefore : P c.before
        · exact hmore (hnow (hb ▸ hbefore))
        · exact .inr ⟨c, List.mem_append_right _ List.mem_cons_self, hbefore, h⟩
      refine ⟨fun h => hnew (ha ▸ h), fun d hd h => ?_⟩
      rcases List.mem_append.1 hd with hd | hd
      · exact hmore (hthen d hd h)
      · cases List.mem_singleton.1 hd
        exact hnew h
    · refine ⟨fun h => hmore (hnow (hdb ▸ h)), fun d hd h => ?_⟩
      exact hmore (hthen d ((List.mem_append.1 hd).resolve_right (hno d)) h)

/-- **What stays done is done once**: of the commits that do it, which find it undone, a run has at most one. -/
theorem Run.once {s : S.State} {es : List S.Event} {w : S.World} (run : Run (quiet s) es w) {P : S.State → Prop}
    {does : S.Commit → Prop} (hstays : ∀ c : S.Commit, .commit c ∈ es → P c.before → P c.after)
    (hdoes : ∀ c : S.Commit, .commit c ∈ es → does c → ¬ P c.before ∧ P c.after) :
    ((∃ c : S.Commit, .commit c ∈ es ∧ does c) → P w.db) ∧
      es.Pairwise fun a b => ∀ c d : S.Commit, a = .commit c → b = .commit d → does c → ¬ does d := by
  induction run with
  | start => exact ⟨fun ⟨_, h, _⟩ => (nomatch h), .nil⟩
  | @step es es' w w' run step ih =>
    obtain ⟨hdone, honce⟩ := ih (fun c hc => hstays c (List.mem_append_left _ hc)) fun c hc => hdoes c (List.mem_append_left _ hc)
    rcases step.events with ⟨c, rfl, hb, ha⟩ | ⟨_, hno, hdb⟩
    · have hmem : .commit c ∈ es ++ [.commit c] := List.mem_append_right _ List.mem_cons_self
      refine ⟨?_, List.pairwise_append.2 ⟨honce, List.pairwise_singleton .., ?_⟩⟩
      · rintro ⟨d, hd, hdoesd⟩
        rw [← ha]
        rcases List.mem_append.1 hd with hd' | hd'
        · exact hstays c hmem (hb ▸ hdone ⟨d, hd', hdoesd⟩)
        · cases List.mem_singleton.1 hd'
          exact (hdoes c hmem hdoesd).2
      · rintro a hmema b hmemb d e rfl rfl hd he
        cases List.mem_singleton.1 hmemb
        exact (hdoes _ hmem he).1 (hb ▸ hdone ⟨d, hmema, hd⟩)
    · refine ⟨?_, List.pairwise_append.2 ⟨honce, ?_, ?_⟩⟩
      · rintro ⟨d, hd, hdoesd⟩
        rw [hdb]
        exact hdone ⟨d, (List.mem_append.1 hd).resolve_right (hno d), hdoesd⟩
      · refine List.pairwise_iff_forall_sublist.2 fun {a b} hab c d hc _ _ => ?_
        exact absurd (hc ▸ hab.subset List.mem_cons_self) (hno c)
      · intro a _ b hmemb c d _ hd
        exact absurd (hd ▸ hmemb) (hno d)

/-- What the commits of a run come to, added up. -/
def tally (f : S.Commit → ℤ) (es : List S.Event) : ℤ :=
  (es.map fun ev => match ev with
    | .commit c => f c
    | _ => 0).sum

/-- **What every commit adds to a measure**, all of them together add. -/
theorem Run.tally_le {s : S.State} {es : List S.Event} {w : S.World} (run : Run (quiet s) es w) {f : S.Commit → ℤ} {m : S.State → ℤ}
    (h : ∀ c : S.Commit, .commit c ∈ es → m c.before + f c ≤ m c.after) : m s + tally f es ≤ m w.db := by
  induction run with
  | start =>
    show m s + 0 ≤ m s
    omega
  | @step es es' w w' run step ih =>
    have hprev := ih fun c hc => h c (List.mem_append_left _ hc)
    have hsum : tally f (es ++ es') = tally f es + tally f es' := by
      unfold tally
      rw [List.map_append, List.sum_append]
    rw [hsum]
    rcases step.events with ⟨c, rfl, hb, ha⟩ | ⟨_, hno, hdb⟩
    · have hc := h c (List.mem_append_right _ List.mem_cons_self)
      have hone : tally f [.commit c] = f c := by simp [tally]
      rw [hone, ← ha]
      rw [← hb] at hprev
      omega
    · have hzero : tally f es' = 0 := by
        unfold tally
        refine List.sum_eq_zero fun x hx => ?_
        obtain ⟨ev, hev, rfl⟩ := List.mem_map.1 hx
        cases ev with
        | commit c => exact absurd hev (hno c)
        | failed d => rfl
        | returned c r db => rfl
      rw [hzero, hdb]
      omega

/-! ## Schedules: one whole transaction at a time -/

inductive Cmd (S : System)
  | arrive (c : S.Call)
  | go (i : ℕ)
  | lose (i : ℕ)
  | crash (i : ℕ)
  | answer (i : ℕ) (a : S.Answer)

/-- What a command makes of the world; a command that does not apply does nothing. -/
def obey (w : S.World) : S.Cmd → List S.Event × S.World
  | .arrive c => ([], w.spawn c)
  | .go i =>
    match w.sessions[i]? with
    | some (c, .ready (.exec op next)) =>
      match (S.tx op).run w.db [] [] with
      | .ok o => ([.commit ⟨c, op, w.db, o⟩],
          World.put { w with db := Tx.applyAll S.Row o.writes w.db } i (.ready (next (.ok o.val))))
      | .error e => ([.failed ⟨c, op, w.db, e⟩], w.put i (.ready (next (.error e))))
    | some (_, .ready (.call c' next)) => ([], (w.put i (.waiting w.sessions.length next)).spawn c')
    | some (c, .ready (.done a)) => ([.returned c (.ok a) w.db], w.put i (.finished (.ok a)))
    | some (c, .ready (.fail e)) => ([.returned c (.error e) w.db], w.put i (.finished (.error e)))
    | some (_, .waiting j next) =>
      match w.sessions[j]? with
      | some (_, .finished r) => ([], w.put i (.ready (next r)))
      | _ => ([], w)
    | _ => ([], w)
  | .lose i =>
    match w.sessions[i]? with
    | some (_, .ready (.call _ next)) => ([], w.put i (.ready (next (.error S.lost))))
    | some (_, .waiting _ next) => ([], w.put i (.ready (next (.error S.lost))))
    | _ => ([], w)
  | .crash i =>
    match w.sessions[i]? with
    | some _ => ([], w.put i .crashed)
    | none => ([], w)
  | .answer i a =>
    match w.sessions[i]? with
    | some (_, .ready (.ask next)) => ([], w.put i (.ready (next a)))
    | _ => ([], w)

/-- The events of the commands in turn, and the world they leave. -/
def schedule : S.World → List S.Cmd → List S.Event × S.World
  | w, [] => ([], w)
  | w, cmd :: cmds => ((obey w cmd).1 ++ (schedule (obey w cmd).2 cmds).1, (schedule (obey w cmd).2 cmds).2)

/-! ### A schedule is a run -/

/-- Nobody is in the middle of a transaction. -/
def World.Calm (w : S.World) : Prop := ∀ (i : ℕ) (p : S.Call × S.Session), w.sessions[i]? = some p → p.2.locks = []

theorem World.Calm.put {w : S.World} (h : w.Calm) (i : ℕ) {x : S.Session} (hx : x.locks = []) : (w.put i x).Calm := by
  intro j p hp
  by_cases hij : i = j
  · subst hij
    rw [World.put_self hp, hx]
  · rw [World.put_ne hij] at hp
    exact h j p hp

theorem World.Calm.spawn {w : S.World} (h : w.Calm) (c : S.Call) : (w.spawn c).Calm := by
  intro i p hp
  unfold World.spawn at hp
  rw [List.getElem?_append] at hp
  split at hp
  · exact h i p hp
  · rw [List.getElem?_singleton] at hp
    split at hp <;> cases hp
    rfl

/-- Alone, a session gets through its body as `Tx.run` says. -/
theorem run_body {w₀ : S.World} {es : List S.Event} {i : ℕ} {c : S.Call} {op : S.Op}
    {next : Except S.Err (S.Res op) → S.Code} : ∀ (t : S.Body op) (L : List S.Key) (ws : List S.Write) {w : S.World},
    (∀ k, w.Free i k) → w.sessions[i]? = some (c, .inTx op L ws t next) → Run w₀ es w →
      match t.run w.db L ws with
      | .ok o => Run w₀ es (w.put i (.inTx op o.locks o.writes (.done o.val) next))
      | .error e => ∃ L' ws', Run w₀ es (w.put i (.inTx op L' ws' (.fail e) next)) := by
  have hfree : ∀ {w : S.World} {x : S.Session}, (∀ k, w.Free i k) → ∀ k, (w.put i x).Free i k := by
    intro w x hf k j hj p hp
    rw [World.put_ne (Ne.symm hj)] at hp
    exact hf k j hj p hp
  have hself : ∀ {w : S.World} {x y : S.Session}, w.sessions[i]? = some (c, x) → (w.put i y).sessions[i]? = some (c, y) := by
    intro w x y h
    rw [World.put_sessions, h, Option.map_some, if_pos rfl]
  have hput : ∀ {w : S.World} {x : S.Session}, w.sessions[i]? = some (c, x) → w.put i x = w := by
    intro w x h
    unfold World.put
    have : w.sessions.modify i (fun p => (p.1, x)) = w.sessions := by
      apply List.ext_getElem?
      intro j
      rw [List.getElem?_modify]
      by_cases hij : i = j
      · subst hij
        rw [h]
        simp
      · simp [hij]
    rw [this]
  intro t
  induction t with
  | done a => intro L ws w _ hi run; rw [Tx.run]; simpa [hput hi] using run
  | fail e => intro L ws w _ hi run; rw [Tx.run]; exact ⟨L, ws, by rwa [hput hi]⟩
  | lock k body ih =>
    intro L ws w hf hi run
    have := ih _ (k :: L) ws (hfree hf) (hself hi) (by simpa using run.step (.lock hi (hf k)))
    simpa [Tx.run] using this
  | write v rest ih =>
    intro L ws w hf hi run
    have := ih _ (ws ++ [v]) (hfree hf) (hself hi) (by simpa using run.step (.write hi fun k _ => hf k))
    simpa [Tx.run] using this
  | peek body ih =>
    intro L ws w hf hi run
    have := ih _ L ws (hfree hf) (hself hi) (by simpa using run.step (.peek hi))
    simpa [Tx.run] using this

/-- The session a command is for. -/
def Cmd.session : S.Cmd → ℕ
  | .arrive _ => 0
  | .go i => i
  | .lose i => i
  | .crash i => i
  | .answer i _ => i

/-- The session of a command changes. -/
theorem World.put_changes {w : S.World} {i : ℕ} {c : S.Call} {x y : S.Session} {s : S.State} (h : w.sessions[i]? = some (c, x))
    (hne : y ≠ x) : (World.put ⟨s, w.sessions⟩ i y).sessions[i]? ≠ w.sessions[i]? := by
  intro heq
  rw [World.put_sessions, h, Option.map_some, if_pos rfl] at heq
  exact hne (Prod.ext_iff.1 (Option.some.inj heq)).2

/-- **A command is some silent steps of the world, and one more**, after which the world is calm. -/
theorem obey_step {w : S.World} (h : w.Calm) (cmd : S.Cmd) : (obey w cmd).2.Calm ∧ ∃ w₁, Run w [] w₁ ∧
    (obey w cmd = ([], w₁) ∨ (Step w₁ (obey w cmd).1 (obey w cmd).2 ∧
      ((obey w cmd).1 ≠ [] → (obey w cmd).2.sessions[cmd.session]? ≠ w₁.sessions[cmd.session]?))) := by
  have silent : ∀ {w' : S.World}, Step w [] w' → w'.Calm →
      w'.Calm ∧ ∃ w₁, Run w [] w₁ ∧ (([], w') = (([] : List S.Event), w₁) ∨ (Step w₁ [] w' ∧
        (([] : List S.Event) ≠ [] → w'.sessions[cmd.session]? ≠ w₁.sessions[cmd.session]?))) :=
    fun step hcalm => ⟨hcalm, w, .start, .inr ⟨step, fun hne => absurd rfl hne⟩⟩
  have stay : w.Calm ∧ ∃ w₁, Run w [] w₁ ∧ (([], w) = (([] : List S.Event), w₁) ∨ (Step w₁ [] w ∧
      (([] : List S.Event) ≠ [] → w.sessions[cmd.session]? ≠ w₁.sessions[cmd.session]?))) := ⟨h, w, .start, .inl rfl⟩
  cases cmd with
  | arrive c => exact silent (.spawn w c) (h.spawn c)
  | go i =>
    simp only [obey]
    split
    · rename_i c op next hi
      have hfree : ∀ k, (w.put i (.inTx op [] [] (S.tx op) next)).Free i k := by
        intro k j hj p hp
        rw [World.put_ne (Ne.symm hj)] at hp
        rw [h j p hp]
        exact List.not_mem_nil
      have hself : (w.put i (.inTx op [] [] (S.tx op) next)).sessions[i]? = some (c, .inTx op [] [] (S.tx op) next) := by
        rw [World.put_sessions, hi, Option.map_some, if_pos rfl]
      have hbegun : Run w [] (w.put i (.inTx op [] [] (S.tx op) next)) := Run.start.step (.begin hi)
      have hbody := run_body (S.tx op) [] [] hfree hself hbegun
      rw [World.put_db] at hbody
      split
      · rename_i o ho
        rw [ho] at hbody
        have hi' : ((w.put i (.inTx op [] [] (S.tx op) next)).put i (.inTx op o.locks o.writes (.done o.val) next)).sessions[i]? =
            some (c, .inTx op o.locks o.writes (.done o.val) next) := by
          rw [World.put_sessions, hself, Option.map_some, if_pos rfl]
        refine ⟨World.Calm.put (w := { w with db := _ }) h i rfl, _, hbody, .inr ⟨?_, fun _ => ?_⟩⟩
        · simpa using Step.commit hi'
        · have hchange := World.put_changes (s := Tx.applyAll S.Row o.writes w.db) hi'
            (show Session.ready (next (.ok o.val)) ≠ _ from fun heq => nomatch heq)
          simpa [Cmd.session] using hchange
      · rename_i e he
        rw [he] at hbody
        obtain ⟨L', ws', hbody⟩ := hbody
        have hi' : ((w.put i (.inTx op [] [] (S.tx op) next)).put i (.inTx op L' ws' (.fail e) next)).sessions[i]? =
            some (c, .inTx op L' ws' (.fail e) next) := by
          rw [World.put_sessions, hself, Option.map_some, if_pos rfl]
        refine ⟨h.put i rfl, _, hbody, .inr ⟨?_, fun _ => ?_⟩⟩
        · simpa using Step.rollback hi'
        · have hchange := World.put_changes (s := w.db) hi'
            (show Session.ready (next (.error e)) ≠ _ from fun heq => nomatch heq)
          simpa [Cmd.session] using hchange
    · rename_i hi
      exact silent (.send hi) ((h.put i rfl).spawn _)
    · rename_i hi
      exact ⟨h.put i rfl, w, .start, .inr ⟨.returns hi, fun _ => World.put_changes hi fun heq => nomatch heq⟩⟩
    · rename_i hi
      exact ⟨h.put i rfl, w, .start, .inr ⟨.raises hi, fun _ => World.put_changes hi fun heq => nomatch heq⟩⟩
    · rename_i hi
      split
      · rename_i hj
        exact silent (.reply hi hj) (h.put i rfl)
      · exact stay
    · exact stay
  | lose i =>
    simp only [obey]
    split
    · rename_i hi
      exact silent (.unsent hi) (h.put i rfl)
    · rename_i hi
      exact silent (.timeout hi) (h.put i rfl)
    · exact stay
  | crash i =>
    simp only [obey]
    split
    · rename_i hi
      exact silent (.crash hi) (h.put i rfl)
    · exact stay
  | answer i a =>
    simp only [obey]
    split
    · rename_i hi
      exact silent (.answer hi a) (h.put i rfl)
    · exact stay

/-- Runs one after the other. -/
theorem Run.trans {w₀ w₁ w₂ : S.World} {es es' : List S.Event} (run : Run w₀ es w₁) (run' : Run w₁ es' w₂) : Run w₀ (es ++ es') w₂ := by
  induction run' with
  | start => rwa [List.append_nil]
  | step _ step ih =>
    rw [← List.append_assoc]
    exact ih.step step

/-- A command makes a run longer, and leaves the world calm. -/
theorem obey_run {w₀ w : S.World} {es : List S.Event} (run : Run w₀ es w) (h : w.Calm) (cmd : S.Cmd) :
    Run w₀ (es ++ (obey w cmd).1) (obey w cmd).2 ∧ (obey w cmd).2.Calm := by
  obtain ⟨hcalm, w₁, hsilent, hlast⟩ := obey_step h cmd
  refine ⟨?_, hcalm⟩
  have hrun := run.trans hsilent
  rw [List.append_nil] at hrun
  rcases hlast with hlast | ⟨step, _⟩
  · rw [hlast, List.append_nil]
    exact hrun
  · exact hrun.step step

/-- **A schedule is a run.** -/
theorem schedule_run {w₀ : S.World} : ∀ (cmds : List S.Cmd) {w : S.World} {es : List S.Event}, Run w₀ es w → w.Calm →
    Run w₀ (es ++ (schedule w cmds).1) (schedule w cmds).2
  | [], w, es, run, _ => by rwa [schedule, List.append_nil]
  | cmd :: cmds, w, es, run, h => by
    obtain ⟨h1, h2⟩ := obey_run run h cmd
    have := schedule_run cmds h1 h2
    rwa [List.append_assoc] at this

/-- The steps of a session, one after another. -/
def steps (i n : ℕ) : List S.Cmd := List.replicate n (.go i)

/-- The execution of a schedule that begins with nobody about. -/
def Execution.ofSchedule {Init : S.State → Prop} {Permitted : S.Op → Prop} (s : S.State) (cmds : List S.Cmd) (hs : Init s)
    (hp : ∀ c, .commit c ∈ (schedule (quiet s) cmds).1 → Permitted c.op) : Execution S Init Permitted where
  init := s
  events := (schedule (quiet s) cmds).1
  final := (schedule (quiet s) cmds).2
  starts := hs
  run := schedule_run cmds .start fun _ _ h => nomatch h
  permitted := hp

/-- Whether the event is a commit that satisfies `p`. -/
def Event.commits (p : S.Commit → Bool) : S.Event → Bool
  | .commit c => p c
  | _ => false

/-- Whether the event, if it is a commit, satisfies `p`. -/
def Event.commitsOnly (p : S.Commit → Bool) : S.Event → Bool
  | .commit c => p c
  | _ => true

theorem forall_commit {es : List S.Event} {p : S.Commit → Bool} (h : es.all (Event.commitsOnly p) = true) :
    ∀ c : S.Commit, .commit c ∈ es → p c = true :=
  fun c hc => List.all_eq_true.1 h (.commit c) hc

theorem exists_commit {es : List S.Event} {p : S.Commit → Bool} (h : es.any (Event.commits p) = true) :
    ∃ c : S.Commit, .commit c ∈ es ∧ p c = true := by
  obtain ⟨ev, hev, hp⟩ := List.any_eq_true.1 h
  cases ev with
  | commit c => exact ⟨c, hev, hp⟩
  | failed f => cases hp
  | returned c r db => cases hp

end System
end Rowdb
