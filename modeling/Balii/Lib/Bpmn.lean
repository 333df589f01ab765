import Mathlib.Data.List.Basic
import Mathlib.Logic.Function.Basic
/-!
# Bpmn — one token through a process

A process is a graph of tasks, events and exclusive gateways.  Its instance is a token, the variables the tasks set, and
the world the tasks act on.  What the tasks do, which messages arrive and how people decide is given from outside; the
rules of the graph are here, with every run an induction over its steps.
-/
namespace Bpmn

/-! ## Variables and conditions -/

/-- A variable is not set, or has a value. -/
abbrev Vars (V : Type) := String → Option V

namespace Vars
variable {V : Type}

def set (v : Vars V) (c : String × V) : Vars V := Function.update v c.1 (some c.2)

/-- Several variables are set, the later ones over the earlier. -/
def merge (v : Vars V) (changes : List (String × V)) : Vars V := changes.foldl set v

theorem set_apply (v : Vars V) (c : String × V) (name : String) : v.set c name = if name = c.1 then some c.2 else v name := by
  unfold set
  rw [Function.update_apply]

@[simp] theorem merge_nil (v : Vars V) : v.merge [] = v := rfl

theorem merge_cons (v : Vars V) (c : String × V) (changes : List (String × V)) :
    v.merge (c :: changes) = (v.set c).merge changes := rfl

/-- A name that is not among the changes keeps what it had. -/
theorem merge_of_notMem {name : String} : ∀ {changes : List (String × V)} (v : Vars V), name ∉ changes.map Prod.fst →
    v.merge changes name = v name
  | [], _, _ => rfl
  | c :: changes, v, h => by
    rw [List.map_cons, List.mem_cons, not_or] at h
    rw [merge_cons, merge_of_notMem _ h.2, set_apply, if_neg h.1]

end Vars

/-- The conditions of sequence flows. -/
inductive Cond (V : Type)
  | eq (name : String) (value : V)
  | ne (name : String) (value : V)
  | or (a b : Cond V)

namespace Cond
variable {V : Type}

def names : Cond V → List String
  | eq name _ => [name]
  | ne name _ => [name]
  | or a b => a.names ++ b.names

/-- The value of a condition; none when it comes to a variable that is not set. -/
def eval [DecidableEq V] (v : Vars V) : Cond V → Option Bool
  | eq name value => (v name).map (· == value)
  | ne name value => (v name).map (· != value)
  | or a b =>
    match a.eval v with
    | none => none
    | some true => some true
    | some false => b.eval v

theorem eval_eq [DecidableEq V] {v : Vars V} {name : String} {x : V} (h : v name = some x) (value : V) :
    (eq name value).eval v = some (decide (x = value)) := by
  rw [eval, h, Option.map_some, Bool.beq_eq_decide_eq]

theorem eval_ne [DecidableEq V] {v : Vars V} {name : String} {x : V} (h : v name = some x) (value : V) :
    (ne name value).eval v = some (!decide (x = value)) := by
  rw [eval, h, Option.map_some, bne, Bool.beq_eq_decide_eq]

theorem eval_or [DecidableEq V] {v : Vars V} {a b : Cond V} {x y : Bool} (ha : a.eval v = some x) (hb : b.eval v = some y) :
    (or a b).eval v = some (x || y) := by
  rw [eval, ha]
  cases x
  · exact hb
  · rfl

end Cond

/-! ## Processes -/

inductive Element (Node Topic V : Type)
  | start (next : Node)
  /-- An external task. -/
  | service (topic : Topic) (next : Node)
  | user (next : Node)
  /-- Waits for a message, or for the timer at its border. -/
  | message (name : String) (next : Node) (timeout : Option Node)
  | exclusive (flows : List (Cond V × Node))
  | finish

structure Process (Node Topic V : Type) where
  element : Node → Element Node Topic V

/-- Where an instance is. -/
structure Instance (Node V World : Type) where
  node : Node
  vars : Vars V
  world : World

/-- What happens around an instance. -/
structure Surroundings (Node Topic V World : Type) where
  /-- A task is done and completed with variables. -/
  serve : Topic → Vars V → World → List (String × V) → World → Prop
  /-- A task is tried, and not completed. -/
  attempt : Topic → Vars V → World → World → Prop
  /-- A message comes, with the variables it carries. -/
  hears : String → Vars V → World → List (String × V) → Prop
  /-- A person completes a user task. -/
  decides : Node → List (String × V) → Prop
  /-- The others go on. -/
  meanwhile : World → World → Prop

/-- The first flow whose condition is true, when the ones before it are false. -/
def choose {Node V : Type} [DecidableEq V] (v : Vars V) : List (Cond V × Node) → Option Node
  | [] => none
  | (c, n) :: flows =>
    match c.eval v with
    | none => none
    | some true => some n
    | some false => choose v flows

/-- The flow that is taken is one of the gateway's, and its condition is true. -/
theorem choose_mem {Node V : Type} [DecidableEq V] {v : Vars V} {n : Node} : ∀ {flows : List (Cond V × Node)},
    choose v flows = some n → ∃ c, (c, n) ∈ flows ∧ c.eval v = some true
  | [], h => nomatch h
  | (c, next) :: flows, h => by
    rw [choose] at h
    split at h
    · cases h
    · rename_i hc
      cases h
      exact ⟨c, List.mem_cons_self, hc⟩
    · obtain ⟨c', hmem, hc'⟩ := choose_mem h
      exact ⟨c', List.mem_cons_of_mem _ hmem, hc'⟩

inductive Label (Topic V : Type)
  | begins
  | serves (topic : Topic) (out : List (String × V))
  | attempts (topic : Topic)
  | hears (name : String) (carried : List (String × V))
  | timesOut
  | decides (out : List (String × V))
  | chooses
  | meanwhile

/-- A step of a run, with the states around it. -/
structure Move (Node Topic V World : Type) where
  before : Instance Node V World
  label : Label Topic V
  after : Instance Node V World

/-- The topic's task is done or tried. -/
def Move.Tries {Node Topic V World : Type} (m : Move Node Topic V World) (topic : Topic) : Prop :=
  (∃ out, m.label = .serves topic out) ∨ m.label = .attempts topic

section Runs
variable {Node Topic V World : Type} [DecidableEq V]

/-- **One step of an instance.** -/
inductive Step (P : Process Node Topic V) (E : Surroundings Node Topic V World) :
    Instance Node V World → Label Topic V → Instance Node V World → Prop
  | begins {n next : Node} {v : Vars V} {s : World} (h : P.element n = .start next) : Step P E ⟨n, v, s⟩ .begins ⟨next, v, s⟩
  | serves {n next : Node} {topic : Topic} {v : Vars V} {s s' : World} {out : List (String × V)}
      (h : P.element n = .service topic next) (hs : E.serve topic v s out s') :
      Step P E ⟨n, v, s⟩ (.serves topic out) ⟨next, v.merge out, s'⟩
  | attempts {n next : Node} {topic : Topic} {v : Vars V} {s s' : World} (h : P.element n = .service topic next)
      (hs : E.attempt topic v s s') : Step P E ⟨n, v, s⟩ (.attempts topic) ⟨n, v, s'⟩
  | hears {n next : Node} {name : String} {timeout : Option Node} {v : Vars V} {s : World} {carried : List (String × V)}
      (h : P.element n = .message name next timeout) (hm : E.hears name v s carried) :
      Step P E ⟨n, v, s⟩ (.hears name carried) ⟨next, v.merge carried, s⟩
  | timesOut {n next late : Node} {name : String} {v : Vars V} {s : World} (h : P.element n = .message name next (some late)) :
      Step P E ⟨n, v, s⟩ .timesOut ⟨late, v, s⟩
  | decides {n next : Node} {v : Vars V} {s : World} {out : List (String × V)} (h : P.element n = .user next)
      (hd : E.decides n out) : Step P E ⟨n, v, s⟩ (.decides out) ⟨next, v.merge out, s⟩
  | chooses {n next : Node} {flows : List (Cond V × Node)} {v : Vars V} {s : World} (h : P.element n = .exclusive flows)
      (hc : choose v flows = some next) : Step P E ⟨n, v, s⟩ .chooses ⟨next, v, s⟩
  | meanwhile {n : Node} {v : Vars V} {s s' : World} (h : E.meanwhile s s') : Step P E ⟨n, v, s⟩ .meanwhile ⟨n, v, s'⟩

/-- **A run**: the moves from a first instance to a last one. -/
inductive Run (P : Process Node Topic V) (E : Surroundings Node Topic V World) (i₀ : Instance Node V World) :
    List (Move Node Topic V World) → Instance Node V World → Prop
  | nil : Run P E i₀ [] i₀
  | step {moves : List (Move Node Topic V World)} {i i' : Instance Node V World} {l : Label Topic V} (run : Run P E i₀ moves i)
      (step : Step P E i l i') : Run P E i₀ (moves ++ [⟨i, l, i'⟩]) i'

variable {P : Process Node Topic V} {E : Surroundings Node Topic V World} {i₀ i : Instance Node V World}
  {moves : List (Move Node Topic V World)}

/-- **What every allowed step keeps, a run of allowed steps keeps.**  The invariant may speak of the moves so far. -/
theorem Run.invariant (Ok : Move Node Topic V World → Prop)
    (Inv : List (Move Node Topic V World) → Instance Node V World → Prop) (hinit : Inv [] i₀)
    (hstep : ∀ moves i l i', Run P E i₀ moves i → Step P E i l i' → Ok ⟨i, l, i'⟩ → Inv moves i → Inv (moves ++ [⟨i, l, i'⟩]) i')
    (run : Run P E i₀ moves i) (hok : ∀ m ∈ moves, Ok m) : Inv moves i := by
  induction run with
  | nil => exact hinit
  | @step moves i i' l run step ih =>
    exact hstep moves i l i' run step (hok _ (by simp)) (ih fun m hm => hok m (List.mem_append_left _ hm))

/-- Every move of a run is a step, from a state that a run of the moves before it reaches. -/
theorem Run.mem (run : Run P E i₀ moves i) {m : Move Node Topic V World} (hm : m ∈ moves) :
    ∃ pre post, moves = pre ++ m :: post ∧ Run P E i₀ pre m.before ∧ Step P E m.before m.label m.after := by
  induction run with
  | nil => cases hm
  | @step moves i i' l run step ih =>
    rcases List.mem_append.1 hm with hm | hm
    · obtain ⟨pre, post, rfl, h1, h2⟩ := ih hm
      exact ⟨pre, post ++ [⟨i, l, i'⟩], by simp, h1, h2⟩
    · rw [List.mem_singleton.1 hm]
      exact ⟨moves, [], by simp, run, step⟩

end Runs

/-! ## Gateways -/

section Gateways
variable {Node Topic V : Type} [DecidableEq V]

/-- Every variable of the conditions is set, and exactly one condition is true. -/
def Decided (v : Vars V) (flows : List (Cond V × Node)) : Prop :=
  (∀ f ∈ flows, ∀ name ∈ f.1.names, v name ≠ none) ∧ (flows.filter fun f => f.1.eval v == some true).length = 1

/-- **A token that stands at an exclusive gateway can go on, one way.** -/
def Sound (P : Process Node Topic V) (n : Node) (v : Vars V) : Prop :=
  ∀ flows, P.element n = .exclusive flows → Decided v flows

end Gateways

/-! ## Scripts -/

/-- What happens next to an instance; the rules say where it takes it. -/
inductive Act (Env V World : Type)
  | go
  | serve (env : Env)
  /-- A task is done, and its completion lost. -/
  | attempt (env : Env)
  | hear (carried : List (String × V))
  | timeOut
  | decide (out : List (String × V))
  | meanwhile (world : World)

section Scripts
variable {Node Topic V World Env : Type} [DecidableEq V]

/-- The step a script asks for, when the instance can take it; `exec` computes a task. -/
def Act.play (P : Process Node Topic V) (exec : Topic → Vars V → Env → World → Option (List (String × V) × World))
    (i : Instance Node V World) (act : Act Env V World) : Option (Label Topic V × Instance Node V World) :=
  match act, P.element i.node with
  | go, .start next => some (.begins, { i with node := next })
  | go, .exclusive flows => (choose i.vars flows).map fun next => (.chooses, { i with node := next })
  | serve env, .service topic next => (exec topic i.vars env i.world).map fun r => (.serves topic r.1, ⟨next, i.vars.merge r.1, r.2⟩)
  | attempt env, .service topic _ => (exec topic i.vars env i.world).map fun r => (.attempts topic, { i with world := r.2 })
  | hear carried, .message name next _ => some (.hears name carried, { i with node := next, vars := i.vars.merge carried })
  | timeOut, .message _ _ (some late) => some (.timesOut, { i with node := late })
  | decide out, .user next => some (.decides out, { i with node := next, vars := i.vars.merge out })
  | meanwhile world, _ => some (.meanwhile, { i with world })
  | _, _ => none

/-- A whole script: the moves it makes, and where it ends. -/
def play (P : Process Node Topic V) (exec : Topic → Vars V → Env → World → Option (List (String × V) × World)) :
    List (Act Env V World) → List (Move Node Topic V World) → Instance Node V World →
      Option (List (Move Node Topic V World) × Instance Node V World)
  | [], moves, i => some (moves, i)
  | act :: acts, moves, i =>
    match act.play P exec i with
    | none => none
    | some (l, i') => play P exec acts (moves ++ [⟨i, l, i'⟩]) i'

/-- What a script takes from around the instance is there to be had. -/
def Act.Fits (E : Surroundings Node Topic V World) : Act Env V World → Prop
  | hear carried => ∀ name v s, E.hears name v s carried
  | decide out => ∀ n, E.decides n out
  | meanwhile world => ∀ s, E.meanwhile s world
  | _ => True

variable {P : Process Node Topic V} {E : Surroundings Node Topic V World}
  {exec : Topic → Vars V → Env → World → Option (List (String × V) × World)}

theorem Act.play_step (hexec : ∀ t v env s out s', exec t v env s = some (out, s') → E.serve t v s out s' ∧ E.attempt t v s s')
    {act : Act Env V World} (hact : act.Fits E) {i i' : Instance Node V World} {l : Label Topic V}
    (h : act.play P exec i = some (l, i')) : Step P E i l i' := by
  obtain ⟨n, v, s⟩ := i
  unfold Act.play at h
  split at h
  · rename_i next hn
    cases h
    exact .begins hn
  · rename_i flows hn
    obtain ⟨next, hc, he⟩ := Option.map_eq_some_iff.1 h
    cases he
    exact .chooses hn hc
  · rename_i env topic next hn
    obtain ⟨⟨out, s'⟩, hr, he⟩ := Option.map_eq_some_iff.1 h
    cases he
    exact .serves hn (hexec _ _ _ _ _ _ hr).1
  · rename_i env topic next hn
    obtain ⟨⟨out, s'⟩, hr, he⟩ := Option.map_eq_some_iff.1 h
    cases he
    exact .attempts hn (hexec _ _ _ _ _ _ hr).2
  · rename_i hn
    cases h
    exact .hears hn (hact _ _ _)
  · rename_i hn
    cases h
    exact .timesOut hn
  · rename_i hn
    cases h
    exact .decides hn (hact _)
  · cases h
    exact .meanwhile (hact _)
  · cases h

/-- **A script that can be played is a run.** -/
theorem play_run (hexec : ∀ t v env s out s', exec t v env s = some (out, s') → E.serve t v s out s' ∧ E.attempt t v s s')
    {i₀ : Instance Node V World} : ∀ {acts : List (Act Env V World)} {moves moves' : List (Move Node Topic V World)}
      {i i' : Instance Node V World}, (∀ act ∈ acts, act.Fits E) → Run P E i₀ moves i → play P exec acts moves i = some (moves', i') →
        Run P E i₀ moves' i'
  | [], _, _, _, _, _, run, h => by
    cases h
    exact run
  | act :: acts, moves, moves', i, i', hacts, run, h => by
    rw [play] at h
    split at h
    · cases h
    · rename_i l i₁ hplay
      have hstep := Act.play_step hexec (hacts act (by simp)) hplay
      exact play_run hexec (fun a ha => hacts a (by simp [ha])) (.step run hstep) h

end Scripts

end Bpmn
