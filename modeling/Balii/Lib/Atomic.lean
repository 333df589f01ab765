import Balii.Lib.Trace
import Balii.Lib.Guarantee
/-!
# Atomic — services over a store of atomic operations

Where everything a service does to its store is one statement (a command of a key-value store, an `UPDATE` of one row, a
reading of the clock), the whole store is one row of a database and each operation a transaction that locks it.  A call is
then known by the log of what it did: which operation, at which place of the trace, on which state.  `Logs` is the rule for
the program of one call, `Ran.meets` what it says of a whole run.
-/
namespace Rowdb

/-- The services of a store, with what each of its operations does. -/
structure Atomic where
  State : Type
  Err : Type
  Op : Type
  Res : Op → Type
  Call : Type
  Reply : Type
  Answer : Type
  perform : (op : Op) → State → Except Err (Res op × State)
  proc : Call → Proc Op Res Call Reply Answer Err Reply
  lost : Err

namespace Atomic

variable (A : Atomic)

/-- The store as one row; a write is its next content. -/
@[reducible] def store : Store A.State (fun _ : Unit => A.State) A.State where
  get s _ := s
  keys _ := [()]
  apply w _ := w
  get_apply_of_notMem _ h := absurd (List.mem_singleton.2 rfl) h
  get_apply_congr _ _ _ := rfl

def body (op : A.Op) : Tx A.State (fun _ : Unit => A.State) A.State A.Err (A.Res op) :=
  .lock () fun s =>
    match A.perform op s with
    | .error e => .fail e
    | .ok (a, s') => .write s' (.done a)

/-- The services as a system over one database. -/
abbrev system : System where
  State := A.State
  Key := Unit
  Row := fun _ => A.State
  Write := A.State
  Err := A.Err
  Op := A.Op
  Res := A.Res
  Call := A.Call
  Reply := A.Reply
  Answer := A.Answer
  store := A.store
  tx := A.body
  proc := A.proc
  lost := A.lost

variable {A}

/-- The commit is its operation, performed on the state it commits at. -/
def Performed (c : A.system.Commit) : Prop := A.perform c.op c.before = .ok (c.out.val, c.after)

theorem performed_of_faithful {c : A.system.Commit} (h : c.Faithful (fun _ => True) fun _ _ _ => True) : Performed c := by
  obtain ⟨call, op, s, o⟩ := c
  have hexec : @Tx.Exec A.State Unit A.State A.Err (A.Res op) (fun _ => A.State) A.store
      (System.Rely (S := A.system) (fun _ => True) fun _ _ _ => True)
      (match A.perform op s with
        | .error e => .fail e
        | .ok (a, s') => .write s' (.done a)) s [()] [] o := h
  unfold Performed
  cases hp : A.perform op s with
  | error e =>
    rw [hp] at hexec
    exact hexec.elim
  | ok r =>
    rw [hp] at hexec
    obtain rfl : o = ⟨r.1, _, [r.2]⟩ := hexec
    rfl

/-- Every commit of a run is its operation, performed. -/
theorem performed {s : A.State} {τ : System.Trace A.system} {w : A.system.World} (run : System.Traced (System.quiet s) τ w) :
    System.Lawful s Performed τ := by
  let e : System.Execution A.system (fun _ => True) fun _ => True :=
    ⟨s, τ.events, w, trivial, run.run, fun _ _ => trivial⟩
  exact run.lawful fun c hc => performed_of_faithful (e.faithful c hc)

/-! ## Places of a trace -/

abbrev Trace (A : Atomic) : Type := System.Trace A.system

/-- At the place `n` of the trace the session `i` did `op`, on the state `b`. -/
def Does (τ : A.Trace) (n i : ℕ) (call : A.Call) (op : A.Op) (b : A.State) : Prop :=
  ∃ o, τ[n]? = some (i, System.Event.commit (S := A.system) ⟨call, op, b, o⟩)

/-- The call of the session `i` has returned at the place `n`. -/
def Returns (τ : A.Trace) (n i : ℕ) (call : A.Call) (r : Except A.Err A.Reply) : Prop :=
  ∃ db, τ[n]? = some (i, System.Event.returned (S := A.system) call r db)

/-- The state before what is at the place `n`. -/
def stateAt (s : A.State) (τ : A.Trace) (n : ℕ) : A.State := System.Trace.state (S := A.system) s (τ.take n)

section Places
variable {s : A.State} {τ : A.Trace} {n m i : ℕ} {call : A.Call} {op : A.Op} {b : A.State}

theorem split_at {α : Type} {l : List α} {x : α} (h : l[n]? = some x) : l = l.take n ++ x :: l.drop (n + 1) := by
  obtain ⟨hn, rfl⟩ := List.getElem?_eq_some_iff.1 h
  rw [List.getElem_cons_drop, List.take_append_drop]

/-- A place has one operation. -/
theorem Does.unique {j : ℕ} {call' : A.Call} {op' : A.Op} {b' : A.State} (h : Does τ n i call op b) (h' : Does τ n j call' op' b') :
    i = j ∧ call = call' ∧ op = op' ∧ b = b' := by
  obtain ⟨o, ho⟩ := h
  obtain ⟨o', ho'⟩ := h'
  obtain ⟨rfl, hev⟩ := Prod.mk.inj (Option.some.inj (ho.symm.trans ho'))
  cases hev
  exact ⟨rfl, rfl, rfl, rfl⟩

theorem Does.at (h : Does τ n i call op b) (hlaw : System.Lawful s Performed τ) :
    b = stateAt s τ n ∧ ∃ a, A.perform op b = .ok (a, stateAt s τ (n + 1)) := by
  obtain ⟨o, ho⟩ := h
  obtain ⟨hb, hperf⟩ := hlaw _ _ _ _ (split_at ho)
  refine ⟨hb, o.val, ?_⟩
  have hnext : τ.take (n + 1) = τ.take n ++ [(i, System.Event.commit (S := A.system) ⟨call, op, b, o⟩)] := by
    rw [List.take_add_one, ho]
    rfl
  have hpre : System.Lawful s Performed (τ.take n ++ [(i, System.Event.commit (S := A.system) ⟨call, op, b, o⟩)]) :=
    hnext ▸ hlaw.pre (List.take_prefix _ _)
  have hafter := hpre.state_commit
  unfold stateAt
  rw [hnext, hafter]
  exact hperf

/-- From one place to the next the state is that an operation leaves, or the same. -/
theorem stateAt_succ (hlaw : System.Lawful s Performed τ) (n : ℕ) :
    (∃ i call op b a, Does τ n i call op b ∧ b = stateAt s τ n ∧ A.perform op b = .ok (a, stateAt s τ (n + 1))) ∨
      stateAt s τ (n + 1) = stateAt s τ n := by
  have same : ∀ {e : Option (ℕ × A.system.Event)}, τ[n]? = e → (e.toList.map fun x => x.2).filterMap System.Event.after? = [] →
      stateAt s τ (n + 1) = stateAt s τ n := by
    intro e he hnone
    unfold stateAt
    rw [List.take_add_one, he, System.Trace.state_append]
    cases e with
    | none => rfl
    | some e =>
      obtain ⟨i, ev⟩ := e
      cases ev with
      | commit c => cases hnone
      | failed f => rfl
      | returned call r db => rfl
  cases he : τ[n]? with
  | none => exact .inr (same he rfl)
  | some e =>
    obtain ⟨i, ev⟩ := e
    cases ev with
    | commit c =>
      obtain ⟨call, op, b, o⟩ := c
      have hdoes : Does τ n i call op b := ⟨o, he⟩
      obtain ⟨hb, a, ha⟩ := hdoes.at hlaw
      exact .inl ⟨i, call, op, b, a, hdoes, hb, ha⟩
    | failed f => exact .inr (same he rfl)
    | returned call r db => exact .inr (same he rfl)

/-- **What every operation between two places keeps** holds at the second if it holds at the first. -/
theorem keeps_between {P : A.State → Prop} (hlaw : System.Lawful s Performed τ) (hmn : m ≤ n)
    (hkeep : ∀ k i call op b a b', m ≤ k → k < n → Does τ k i call op b → A.perform op b = .ok (a, b') → P b → P b')
    (hm : P (stateAt s τ m)) : P (stateAt s τ n) := by
  induction n, hmn using Nat.le_induction with
  | base => exact hm
  | succ n hmn ih =>
    have hn := ih fun k i call op b a b' h1 h2 => hkeep k i call op b a b' h1 (by omega)
    rcases stateAt_succ hlaw n with ⟨i, call, op, b, a, hdoes, rfl, hperf⟩ | hsame
    · exact hkeep n i call op _ a _ hmn (by omega) hdoes hperf hn
    · rwa [hsame]

/-- A part of the state no operation between two places changes. -/
theorem same_between {α : Type} {f : A.State → α} (hlaw : System.Lawful s Performed τ) (hmn : m ≤ n)
    (hkeep : ∀ k i call op b a b', m ≤ k → k < n → Does τ k i call op b → A.perform op b = .ok (a, b') → f b' = f b) :
    f (stateAt s τ n) = f (stateAt s τ m) :=
  keeps_between (P := fun x => f x = f (stateAt s τ m)) hlaw hmn
    (fun k i call op b a b' h1 h2 h3 h4 h5 => (hkeep k i call op b a b' h1 h2 h3 h4).trans h5) rfl

end Places

/-! ## The log of a call -/

/-- One operation of a call: its place, and the state it found. -/
structure Act (A : Atomic) where
  place : ℕ
  op : A.Op
  before : A.State

/-- What the session `i` has done, in order. -/
def Logged (τ : A.Trace) (i : ℕ) (call : A.Call) (l : List A.Act) : Prop :=
  (∀ x ∈ l, Does τ x.place i call x.op x.before) ∧ l.Pairwise fun x y => x.place < y.place

abbrev Program (A : Atomic) (α : Type) : Type := A.system.Program α

/-- **The rule for the program of one call**: having done what `l` says it does nothing but what `Q` allows, and what it
answers with is as `post` says. -/
def Logs (Q : List A.Act → A.Op → A.State → Prop) {α : Type} : A.Program α → (List A.Act → α → Prop) → List A.Act → Prop
  | .done a, post, l => post l a
  | .fail _, _, _ => True
  | .exec op next, post, l =>
    (∀ n b a b', A.perform op b = .ok (a, b') → Q l op b ∧ Logs Q (next (.ok a)) post (l ++ [⟨n, op, b⟩]) ∧
      Logs Q (next (.error A.lost)) post (l ++ [⟨n, op, b⟩])) ∧ ∀ e, Logs Q (next (.error e)) post l
  | .call _ next, post, l => ∀ r, Logs Q (next r) post l
  | .ask next, post, l => ∀ a, Logs Q (next a) post l

section Rules
variable {Q : List A.Act → A.Op → A.State → Prop} {α β : Type} {post : List A.Act → α → Prop} {l : List A.Act}

theorem Logs.mono {post' : List A.Act → α → Prop} {p : A.Program α} (h : Logs Q p post l) (hpost : ∀ l a, post l a → post' l a) :
    Logs Q p post' l := by
  induction p generalizing l with
  | done a => exact hpost l a h
  | fail e => trivial
  | exec op next ih =>
    refine ⟨fun n b a b' hperf => ?_, fun e => ih _ (h.2 e)⟩
    obtain ⟨hq, hok, hlost⟩ := h.1 n b a b' hperf
    exact ⟨hq, ih _ hok, ih _ hlost⟩
  | call c next ih => exact fun r => ih _ (h r)
  | ask next ih => exact fun a => ih _ (h a)

/-- A log only grows. -/
theorem Logs.extends {l₀ : List A.Act} {p : A.Program α} (h : Logs Q p post l) (hl : l₀ <+: l) :
    Logs Q p (fun l' a => l₀ <+: l' ∧ post l' a) l := by
  induction p generalizing l with
  | done a => exact ⟨hl, h⟩
  | fail e => trivial
  | exec op next ih =>
    refine ⟨fun n b a b' hperf => ?_, fun e => ih _ (h.2 e) hl⟩
    obtain ⟨hq, hok, hlost⟩ := h.1 n b a b' hperf
    have hmore : l₀ <+: l ++ [⟨n, op, b⟩] := hl.trans (List.prefix_append _ _)
    exact ⟨hq, ih _ hok hmore, ih _ hlost hmore⟩
  | call c next ih => exact fun r => ih _ (h r) hl
  | ask next ih => exact fun a => ih _ (h a) hl

/-- A sequence, part by part. -/
theorem logs_bind {post : List A.Act → β → Prop} {p : A.Program α} {f : α → A.Program β}
    (h : Logs Q p (fun l a => Logs Q (f a) post l) l) : Logs Q (p >>= f) post l := by
  induction p generalizing l with
  | done a => exact h
  | fail e => trivial
  | exec op next ih =>
    refine ⟨fun n b a b' hperf => ?_, fun e => ih _ (h.2 e)⟩
    obtain ⟨hq, hok, hlost⟩ := h.1 n b a b' hperf
    exact ⟨hq, ih _ hok, ih _ hlost⟩
  | call c next ih => exact fun r => ih _ (h r)
  | ask next ih => exact fun a => ih _ (h a)

/-- An operation whose error is thrown on. -/
theorem logs_trans {op : A.Op} {post : List A.Act → A.Res op → Prop}
    (h : ∀ n b a b', A.perform op b = .ok (a, b') → Q l op b ∧ post (l ++ [⟨n, op, b⟩]) a) :
    Logs Q (Proc.trans op : A.Program (A.Res op)) post l :=
  ⟨fun n b a b' hperf => ⟨(h n b a b' hperf).1, (h n b a b' hperf).2, trivial⟩, fun _ => trivial⟩

/-- An operation whose error is kept: it may have happened all the same. -/
theorem logs_attempt {op : A.Op} {post : List A.Act → Except A.Err (A.Res op) → Prop}
    (h : ∀ n b a b', A.perform op b = .ok (a, b') → Q l op b ∧ post (l ++ [⟨n, op, b⟩]) (.ok a) ∧
      post (l ++ [⟨n, op, b⟩]) (.error A.lost)) (herror : ∀ e, post l (.error e)) :
    Logs Q (Proc.attempt op : A.Program (Except A.Err (A.Res op))) post l :=
  ⟨h, herror⟩

/-- A `try`, whose handler is right after whatever more was done. -/
theorem logs_catching_from {l₀ : List A.Act} {p : A.Program α} {handler : A.Err → A.Program α} (h : Logs Q p post l)
    (hl : l₀ <+: l) (hhandler : ∀ l e, l₀ <+: l → Logs Q (handler e) post l) : Logs Q (p.catching handler) post l := by
  induction p generalizing l with
  | done a => exact h
  | fail e => exact hhandler l e hl
  | exec op next ih =>
    refine ⟨fun n b a b' hperf => ?_, fun e => ih _ (h.2 e) hl⟩
    obtain ⟨hq, hok, hlost⟩ := h.1 n b a b' hperf
    have hmore : l₀ <+: l ++ [⟨n, op, b⟩] := hl.trans (List.prefix_append _ _)
    exact ⟨hq, ih _ hok hmore, ih _ hlost hmore⟩
  | call c next ih => exact fun r => ih _ (h r) hl
  | ask next ih => exact fun a => ih _ (h a) hl

/-- A `try`, whose handler is right whatever was done before. -/
theorem logs_catching {p : A.Program α} {handler : A.Err → A.Program α} (h : Logs Q p post l)
    (hhandler : ∀ l e, Logs Q (handler e) post l) : Logs Q (p.catching handler) post l :=
  logs_catching_from h List.nil_prefix fun l e _ => hhandler l e

theorem logs_answer {post : List A.Act → A.Answer → Prop} (h : ∀ a, post l a) :
    Logs Q (Proc.answer : A.Program A.Answer) post l := h

theorem logs_ofExcept {x : Except A.Err α} (h : ∀ a, x = .ok a → post l a) : Logs Q (Proc.ofExcept x : A.Program α) post l := by
  cases x with
  | error e => trivial
  | ok a => exact h a rfl

theorem logs_need {x : Option α} {e : A.Err} (h : ∀ a, x = some a → post l a) : Logs Q (Proc.need x e : A.Program α) post l := by
  cases x with
  | none => trivial
  | some a => exact h a rfl

theorem logs_ensure {c : Prop} [Decidable c] {e : A.Err} {post : List A.Act → Unit → Prop} (h : c → post l ()) :
    Logs Q (Proc.ensure c e : A.Program Unit) post l := by
  unfold Proc.ensure
  split
  · rename_i hc
    exact h hc
  · trivial

end Rules

/-! ## What the logs say of a run -/

section Meets
variable {s : A.State} {τ τ' : A.Trace} {i : ℕ} {call : A.Call} {l : List A.Act}

theorem Does.mono {n : ℕ} {op : A.Op} {b : A.State} (h : Does τ n i call op b) (hpre : τ <+: τ') : Does τ' n i call op b := by
  obtain ⟨o, ho⟩ := h
  obtain ⟨ρ, rfl⟩ := hpre
  exact ⟨o, by rw [List.getElem?_append_left (List.getElem?_eq_some_iff.1 ho).1, ho]⟩

theorem Does.lt {n : ℕ} {op : A.Op} {b : A.State} (h : Does τ n i call op b) : n < τ.length := by
  obtain ⟨o, ho⟩ := h
  exact (List.getElem?_eq_some_iff.1 ho).1

theorem Logged.mono (h : Logged τ i call l) (hpre : τ <+: τ') : Logged τ' i call l :=
  ⟨fun x hx => (h.1 x hx).mono hpre, h.2⟩

/-- One more operation. -/
theorem Logged.snoc (h : Logged τ i call l) {n : ℕ} {op : A.Op} {b : A.State} (hdoes : Does τ' n i call op b)
    (hpre : τ <+: τ') (hn : τ.length ≤ n) : Logged τ' i call (l ++ [⟨n, op, b⟩]) := by
  refine ⟨fun x hx => ?_, List.pairwise_append.2 ⟨h.2, List.pairwise_singleton .., fun x hx y hy => ?_⟩⟩
  · rcases List.mem_append.1 hx with hx | hx
    · exact (h.1 x hx).mono hpre
    · cases List.mem_singleton.1 hx
      exact hdoes
  · cases List.mem_singleton.1 hy
    exact lt_of_lt_of_le (h.1 x hx).lt hn

/-- The log has all that the session did. -/
def AllLogged (τ : A.Trace) (i : ℕ) (l : List A.Act) : Prop := ∀ n call op b, Does τ n i call op b → ∃ x ∈ l, x.place = n

/-- What the others do is not the session's. -/
theorem AllLogged.later {Law : System.Trace A.system → Prop} (h : AllLogged τ i l) (hlater : System.Later Law i τ τ') :
    AllLogged τ' i l := by
  obtain ⟨ρ, rfl, hothers, _⟩ := hlater
  rintro n call op b ⟨o, ho⟩
  by_cases hn : n < τ.length
  · rw [List.getElem?_append_left hn] at ho
    exact h n call op b ⟨o, ho⟩
  · rw [List.getElem?_append_right (by omega)] at ho
    exact absurd rfl (hothers _ (List.mem_of_getElem? ho))

theorem AllLogged.snoc (h : AllLogged τ i l) (e : A.system.Event) (op : A.Op) (b : A.State) :
    AllLogged (τ ++ [(i, e)]) i (l ++ [⟨τ.length, op, b⟩]) := by
  rintro n call op' b' ⟨o, ho⟩
  by_cases hn : n < τ.length
  · rw [List.getElem?_append_left hn] at ho
    obtain ⟨x, hx, hplace⟩ := h n call op' b' ⟨o, ho⟩
    exact ⟨x, List.mem_append_left _ hx, hplace⟩
  · have hlast : n < (τ ++ [(i, e)]).length := (List.getElem?_eq_some_iff.1 ho).1
    rw [List.length_append, List.length_singleton] at hlast
    exact ⟨⟨τ.length, op, b⟩, List.mem_append_right _ List.mem_cons_self, show τ.length = n by omega⟩

/-- A failure is no operation. -/
theorem AllLogged.failed (h : AllLogged τ i l) {f : A.system.Failure} : AllLogged (τ ++ [(i, System.Event.failed f)]) i l := by
  rintro n call op b ⟨o, ho⟩
  by_cases hn : n < τ.length
  · rw [List.getElem?_append_left hn] at ho
    exact h n call op b ⟨o, ho⟩
  · rw [List.getElem?_append_right (by omega)] at ho
    have hmem := List.mem_singleton.1 (List.mem_of_getElem? ho)
    cases hmem

theorem follows_of_logs {Q : List A.Act → A.Op → A.State → Prop} {α : Type} {post : List A.Act → α → Prop} {p : A.Program α}
    (h : Logs Q p post l) (hl : Logged τ i call l) (hall : AllLogged τ i l) :
    System.Follows (System.Lawful s Performed) i call (fun τ c => ∃ l, Logged τ i call l ∧ AllLogged τ i l ∧ Q l c.op c.before) p
      (fun r τ => ∀ a, r = .ok a → ∃ l, Logged τ i call l ∧ AllLogged τ i l ∧ post l a) τ := by
  induction p generalizing l τ with
  | done a => exact fun τ' hlater a' ha => ⟨l, hl.mono hlater.pre, hall.later hlater, by cases ha; exact h⟩
  | fail e => exact fun τ' hlater a ha => (nomatch ha)
  | exec op next ih =>
    intro τ' hlater
    have hl' := hl.mono hlater.pre
    have hall' := hall.later hlater
    refine ⟨fun b o hlaw => ?_, fun b e hlaw => ih _ (h.2 e) (hl'.mono (List.prefix_append _ _)) hall'.failed, ih _ (h.2 _) hl' hall'⟩
    have hdoes : Does (τ' ++ [(i, System.Event.commit (S := A.system) ⟨call, op, b, o⟩)]) τ'.length i call op b := by
      refine ⟨o, ?_⟩
      rw [List.getElem?_append_right le_rfl, Nat.sub_self]
      rfl
    obtain ⟨hq, hok, hlost⟩ := h.1 τ'.length b o.val _ hlaw.commit.2
    have hmore := hl'.snoc hdoes (List.prefix_append _ _) le_rfl
    exact ⟨⟨l, hl', hall', hq⟩, ih _ hok hmore (hall'.snoc _ op b), ih _ hlost hmore (hall'.snoc _ op b)⟩
  | call c next ih => exact fun r τ' hlater _ => ih _ (h r) (hl.mono hlater.pre) (hall.later hlater)
  | ask next ih => exact fun a τ' hlater => ih _ (h a) (hl.mono hlater.pre) (hall.later hlater)

/-- The log of a session at a place of the trace. -/
theorem Logged.of_take {n : ℕ} (h : Logged (τ.take n) i call l) : Logged τ i call l ∧ ∀ x ∈ l, x.place < n := by
  refine ⟨h.mono (List.take_prefix _ _), fun x hx => ?_⟩
  have := (h.1 x hx).lt
  rw [List.length_take] at this
  omega

/-- The session's log before the place `n`: all that it did there, in order. -/
structure LoggedTo (τ : A.Trace) (n i : ℕ) (call : A.Call) (l : List A.Act) : Prop where
  logged : Logged τ i call l
  lt : ∀ x ∈ l, x.place < n
  all : ∀ k call' op b, k < n → Does τ k i call' op b → ∃ x ∈ l, x.place = k

theorem LoggedTo.of_take {n : ℕ} (h : Logged (τ.take n) i call l) (hall : AllLogged (τ.take n) i l) : LoggedTo τ n i call l := by
  refine ⟨h.of_take.1, h.of_take.2, ?_⟩
  rintro k call' op b hk ⟨o, ho⟩
  exact hall k call' op b ⟨o, by rw [List.getElem?_take, if_pos hk, ho]⟩

theorem LoggedTo.pairwise {n : ℕ} (h : LoggedTo τ n i call l) : l.Pairwise fun x y => x.place < y.place := h.logged.2

theorem LoggedTo.does {n : ℕ} {x : A.Act} (h : LoggedTo τ n i call l) (hx : x ∈ l) : Does τ x.place i call x.op x.before := h.logged.1 x hx

/-- What comes before an operation in the log is the log before it. -/
theorem LoggedTo.upTo {n : ℕ} {x : A.Act} {l₁ l₂ : List A.Act} (h : LoggedTo τ n i call (l₁ ++ x :: l₂)) :
    LoggedTo τ x.place i call l₁ := by
  have hsorted := List.pairwise_append.1 h.pairwise
  refine ⟨⟨fun y hy => h.does (List.mem_append_left _ hy), hsorted.1⟩, fun y hy => hsorted.2.2 y hy x List.mem_cons_self, ?_⟩
  intro k call' op b hk hdoes
  have hx := h.lt x (List.mem_append_right _ List.mem_cons_self)
  obtain ⟨y, hy, rfl⟩ := h.all k call' op b (by omega) hdoes
  rcases List.mem_append.1 hy with hy | hy
  · exact ⟨y, hy, rfl⟩
  · have hle : x.place ≤ y.place := by
      rcases List.mem_cons.1 hy with rfl | hy
      · exact le_rfl
      · exact (List.rel_of_pairwise_cons hsorted.2.1 hy).le
    omega

/-- Where an operation of the session stands in its log. -/
theorem LoggedTo.find {n k : ℕ} {call' : A.Call} {op : A.Op} {b : A.State} (h : LoggedTo τ n i call l) (hk : k < n)
    (hdoes : Does τ k i call' op b) : ∃ x ∈ l, x.place = k ∧ x.op = op ∧ x.before = b := by
  obtain ⟨x, hx, rfl⟩ := h.all k call' op b hk hdoes
  obtain ⟨_, _, hop, hb⟩ := (h.does hx).unique hdoes
  exact ⟨x, hx, rfl, hop, hb⟩

/-- **Along every run** each operation is one that the rule of its call allows, after all that the call had done, and each answer is
as the rule says. -/
theorem meets_all {w : A.system.World} (run : System.Traced (System.quiet s) τ w) {Q : A.Call → List A.Act → A.Op → A.State → Prop}
    {post : A.Call → List A.Act → A.Reply → Prop} (hproc : ∀ call, Logs (Q call) (A.proc call) (post call) []) :
    (∀ n i call op b, Does τ n i call op b → ∃ l, LoggedTo τ n i call l ∧ Q call l op b) ∧
      ∀ n i call a, Returns τ n i call (.ok a) → ∃ l, LoggedTo τ n i call l ∧ post call l a := by
  have hlaw := performed run
  have hfollows := (run.follows (System.quiet_follows s) (fun τ' hpre => hlaw.pre hpre) System.known_nothing fun i call τ' _ _ hfresh =>
    follows_of_logs (s := s) (τ := τ') (i := i) (hproc call) ⟨fun _ h => (nomatch h), List.Pairwise.nil⟩ fun n call op b hdoes => by
      obtain ⟨o, ho⟩ := hdoes
      exact absurd rfl (hfresh _ (List.mem_of_getElem? ho))).1
  refine ⟨fun n i call op b hdoes => ?_, fun n i call a hret => ?_⟩
  · obtain ⟨o, ho⟩ := hdoes
    obtain ⟨l, hl, hall, hq⟩ := hfollows.commits _ _ _ _ (split_at ho)
    exact ⟨l, .of_take hl hall, hq⟩
  · obtain ⟨db, hdb⟩ := hret
    obtain ⟨l, hl, hall, hpost⟩ := hfollows.returns _ _ _ _ _ _ (split_at hdb) a rfl
    exact ⟨l, .of_take hl hall, hpost⟩

/-- The same, of what the call had done. -/
theorem meets {w : A.system.World} (run : System.Traced (System.quiet s) τ w) {Q : A.Call → List A.Act → A.Op → A.State → Prop}
    {post : A.Call → List A.Act → A.Reply → Prop} (hproc : ∀ call, Logs (Q call) (A.proc call) (post call) []) :
    (∀ n i call op b, Does τ n i call op b → ∃ l, Logged τ i call l ∧ (∀ x ∈ l, x.place < n) ∧ Q call l op b) ∧
      ∀ n i call a, Returns τ n i call (.ok a) → ∃ l, Logged τ i call l ∧ (∀ x ∈ l, x.place < n) ∧ post call l a := by
  obtain ⟨hdoes, hreturns⟩ := meets_all run hproc
  constructor
  · intro n i call op b h
    obtain ⟨l, hl, hq⟩ := hdoes n i call op b h
    exact ⟨l, hl.logged, hl.lt, hq⟩
  · intro n i call a h
    obtain ⟨l, hl, hpost⟩ := hreturns n i call a h
    exact ⟨l, hl.logged, hl.lt, hpost⟩

end Meets

/-- **A run from a state that meets `Init`**, with its trace. -/
structure Run (A : Atomic) (Init : A.State → Prop) where
  init : A.State
  trace : A.Trace
  final : A.system.World
  starts : Init init
  traced : System.Traced (System.quiet init) trace final

namespace Run

variable {Init : A.State → Prop} (r : A.Run Init)

/-- The state before the place `n`; past the end, the last one. -/
def state (n : ℕ) : A.State := stateAt r.init r.trace n

theorem lawful : System.Lawful r.init Performed r.trace := performed r.traced

/-- The run of a schedule that begins with nobody about. -/
def ofSchedule (s : A.State) (cmds : List (System.Cmd A.system)) (hs : Init s) : A.Run Init where
  init := s
  trace := System.traceOf (System.quiet s) cmds
  final := (System.schedule (System.quiet s) cmds).2
  starts := hs
  traced := System.traced_ofSchedule s cmds

end Run

/-- Who did what at a place. -/
def actAt (τ : A.Trace) (n : ℕ) : Option (ℕ × A.Call × A.Op) :=
  match τ[n]? with
  | some (i, .commit c) => some (i, c.call, c.op)
  | _ => none

theorem Does.actAt {τ : A.Trace} {n i : ℕ} {call : A.Call} {op : A.Op} {b : A.State} (h : Does τ n i call op b) :
    actAt τ n = some (i, call, op) := by
  obtain ⟨o, ho⟩ := h
  unfold Atomic.actAt
  rw [ho]

/-- What every operation of a trace is, found out by looking. -/
theorem forall_does {τ : A.Trace} {p : ℕ → ℕ → A.Call → A.Op → Bool}
    (h : (List.range τ.length).all (fun n => (actAt τ n).all fun x => p n x.1 x.2.1 x.2.2) = true) {n i : ℕ} {call : A.Call}
    {op : A.Op} {b : A.State} (hdoes : Does τ n i call op b) : p n i call op = true := by
  have hn := List.all_eq_true.1 h n (List.mem_range.2 hdoes.lt)
  rw [hdoes.actAt] at hn
  exact hn

/-- An operation of a trace, found by looking. -/
theorem exists_does {τ : A.Trace} {n : ℕ} {p : ℕ → A.Call → A.Op → Bool} (h : (actAt τ n).any (fun x => p x.1 x.2.1 x.2.2) = true) :
    ∃ i call op b, Does τ n i call op b ∧ p i call op = true := by
  unfold actAt at h
  split at h
  · rename_i i c heq
    exact ⟨i, c.call, c.op, c.before, ⟨c.out, heq⟩, h⟩
  · cases h

theorem does_of_actAt {τ : A.Trace} {n i : ℕ} {call : A.Call} {op : A.Op} (h : actAt τ n = some (i, call, op)) :
    ∃ b, Does τ n i call op b := by
  unfold actAt at h
  split at h
  · rename_i j c heq
    cases h
    exact ⟨c.before, c.out, heq⟩
  · cases h

/-- Which call returned at a place, and with what. -/
def replyAt (τ : A.Trace) (n : ℕ) : Option (ℕ × A.Call × Except A.Err A.Reply) :=
  match τ[n]? with
  | some (i, .returned call r _) => some (i, call, r)
  | _ => none

theorem returns_of_replyAt {τ : A.Trace} {n i : ℕ} {call : A.Call} {r : Except A.Err A.Reply} (h : replyAt τ n = some (i, call, r)) :
    Returns τ n i call r := by
  unfold replyAt at h
  split at h
  · rename_i j call' r' db heq
    cases h
    exact ⟨db, heq⟩
  · cases h

/-! ## A value and its last writer -/

section Tracks
variable {s : A.State} {τ : A.Trace} {n m i j : ℕ} {call call' : A.Call} {op op' : A.Op} {b b' : A.State}

variable {α : Type} {f : A.State → α} {W : A.Op → A.State → Option α}

/-- Nothing writes the value between the two places. -/
def Unwritten (τ : A.Trace) (W : A.Op → A.State → Option α) (m n : ℕ) : Prop :=
  ∀ k i call op b, m ≤ k → k < n → Does τ k i call op b → W op b = none

/-- **At every place the value is what its last writer meant it to be**, and the first value as long as nobody wrote. -/
def Tracks (s : A.State) (τ : A.Trace) (f : A.State → α) (W : A.Op → A.State → Option α) : Prop :=
  ∀ n, (∀ m i call op b v, m < n → Does τ m i call op b → W op b = some v → Unwritten τ W (m + 1) n → f (stateAt s τ n) = v) ∧
    (Unwritten τ W 0 n → f (stateAt s τ n) = f s)

/-- What was written has a last writer. -/
theorem exists_last (h : ¬ Unwritten τ W 0 n) :
    ∃ m i call op b v, m < n ∧ Does τ m i call op b ∧ W op b = some v ∧ Unwritten τ W (m + 1) n := by
  induction n with
  | zero => exact absurd (fun k _ _ _ _ _ hk => absurd hk (Nat.not_lt_zero k)) h
  | succ n ih =>
    by_cases hn : ∃ i call op b v, Does τ n i call op b ∧ W op b = some v
    · obtain ⟨i, call, op, b, v, hdoes, hv⟩ := hn
      exact ⟨n, i, call, op, b, v, Nat.lt_succ_self n, hdoes, hv, fun k _ _ _ _ h1 h2 => by omega⟩
    · have hlast : ∀ i call op b, Does τ n i call op b → W op b = none := by
        intro i call op b hdoes
        cases hv : W op b with
        | none => rfl
        | some v => exact absurd ⟨i, call, op, b, v, hdoes, hv⟩ hn
      have hprev : ¬ Unwritten τ W 0 n := by
        intro hun
        refine h fun k i call op b h1 h2 hdoes => ?_
        by_cases hk : k = n
        · subst hk
          exact hlast i call op b hdoes
        · exact hun k i call op b h1 (by omega) hdoes
      obtain ⟨m, i, call, op, b, v, hm, hdoes, hv, hun⟩ := ih hprev
      refine ⟨m, i, call, op, b, v, by omega, hdoes, hv, fun k i call op b h1 h2 hdoes => ?_⟩
      by_cases hk : k = n
      · subst hk
        exact hlast i call op b hdoes
      · exact hun k i call op b h1 (by omega) hdoes

/-- **A value tracks its writers exactly when each operation leaves what it means to**, and leaves alone what it does not. -/
theorem tracks_iff (hlaw : System.Lawful s Performed τ) : Tracks s τ f W ↔
    ∀ n i call op b, Does τ n i call op b → f (stateAt s τ (n + 1)) = (W op b).getD (f (stateAt s τ n)) := by
  constructor
  · intro h n i call op b hdoes
    have hnone : ∀ {m : ℕ}, W op b = none → Unwritten τ W m n → Unwritten τ W m (n + 1) := by
      intro m hv hun k i' call' op' b' h1 h2 hdoes'
      by_cases hk : k = n
      · subst hk
        obtain ⟨_, _, rfl, rfl⟩ := hdoes.unique hdoes'
        exact hv
      · exact hun k i' call' op' b' h1 (by omega) hdoes'
    cases hv : W op b with
    | some v => exact (h (n + 1)).1 n i call op b v (Nat.lt_succ_self n) hdoes hv fun k _ _ _ _ h1 h2 => by omega
    | none =>
      rw [Option.getD_none]
      by_cases hun : Unwritten τ W 0 n
      · exact ((h (n + 1)).2 (hnone hv hun)).trans ((h n).2 hun).symm
      · obtain ⟨m, i', call', op', b', v, hm, hdoes', hv', hun'⟩ := exists_last hun
        have hnow := (h n).1 m i' call' op' b' v hm hdoes' hv' hun'
        have hnext := (h (n + 1)).1 m i' call' op' b' v (by omega) hdoes' hv' (hnone hv hun')
        exact hnext.trans hnow.symm
  · intro h n
    induction n with
    | zero => exact ⟨fun m _ _ _ _ _ hm => absurd hm (Nat.not_lt_zero m), fun _ => rfl⟩
    | succ n ih =>
      obtain ⟨ihw, ihn⟩ := ih
      have hless : ∀ {m : ℕ}, Unwritten τ W m (n + 1) → Unwritten τ W m n := fun hun k i call op b h1 h2 => hun k i call op b h1 (by omega)
      by_cases hn : ∃ i call op b, Does τ n i call op b
      · obtain ⟨i, call, op, b, hdoes⟩ := hn
        have hstep := h n i call op b hdoes
        refine ⟨fun m i' call' op' b' v hm hdoes' hv hun => ?_, fun hun => ?_⟩
        · by_cases hmn : m = n
          · subst hmn
            obtain ⟨_, _, rfl, rfl⟩ := hdoes.unique hdoes'
            rw [hstep, hv, Option.getD_some]
          · have hnone := hun n i call op b (by omega) (Nat.lt_succ_self n) hdoes
            rw [hstep, hnone, Option.getD_none]
            exact ihw m i' call' op' b' v (by omega) hdoes' hv (hless hun)
        · have hnone := hun n i call op b (Nat.zero_le n) (Nat.lt_succ_self n) hdoes
          rw [hstep, hnone, Option.getD_none]
          exact ihn (hless hun)
      · have hsame : stateAt s τ (n + 1) = stateAt s τ n := by
          rcases stateAt_succ hlaw n with ⟨i, call, op, b, a, hdoes, _⟩ | hsame
          · exact absurd ⟨i, call, op, b, hdoes⟩ hn
          · exact hsame
        rw [hsame]
        refine ⟨fun m i' call' op' b' v hm hdoes' hv hun => ?_, fun hun => ihn (hless hun)⟩
        have hmn : m ≠ n := by
          rintro rfl
          exact hn ⟨i', call', op', b', hdoes'⟩
        exact ihw m i' call' op' b' v (by omega) hdoes' hv (hless hun)

end Tracks

end Atomic
end Rowdb
