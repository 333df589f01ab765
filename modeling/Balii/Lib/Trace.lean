import Balii.Lib.Alone
import Balii.Lib.Replay
/-!
# Trace — what the program of a call does along a run

A trace keeps with every event the session that made it.  `Follows` is the rule for one session: whatever the others add to
the trace between its steps, each commit of its program is one `Q` allows, and what it ends with is as `post` says.
-/
namespace Rowdb.System

variable {S : System}

/-- Events, each with the session that made it. -/
abbrev Trace (S : System) : Type := List (ℕ × S.Event)

namespace Trace

def events (τ : S.Trace) : List S.Event := τ.map fun e => e.2

/-- The state the trace leads to. -/
def state (s : S.State) (τ : S.Trace) : S.State := stateAfter s τ.events

theorem events_append (τ ρ : S.Trace) : events (τ ++ ρ) = τ.events ++ ρ.events := List.map_append

theorem state_append (s : S.State) (τ ρ : S.Trace) : state s (τ ++ ρ) = state (state s τ) ρ := by
  unfold state stateAfter
  rw [events_append, replay_append]

theorem state_commit (s : S.State) (τ : S.Trace) (i : ℕ) (c : S.Commit) :
    state s (τ ++ [(i, .commit c)]) = Tx.applyAll S.Row c.out.writes (state s τ) :=
  state_append s τ _

end Trace

/-- **A run and the sessions of its events**: an event is made by the session it changes. -/
inductive Traced (w₀ : S.World) : S.Trace → S.World → Prop
  | start : Traced w₀ [] w₀
  | step {τ : S.Trace} {es : List S.Event} {w w' : S.World} {i : ℕ} (run : Traced w₀ τ w) (step : Step w es w')
      (hi : es ≠ [] → w'.sessions[i]? ≠ w.sessions[i]?) : Traced w₀ (τ ++ es.map fun e => (i, e)) w'

/-- The session that makes the events of a step changes. -/
theorem Step.actor {w w' : S.World} {es : List S.Event} (step : Step w es w') :
    ∃ i : ℕ, es ≠ [] → w'.sessions[i]? ≠ w.sessions[i]? := by
  cases step with
  | @commit i _ _ _ _ _ _ h => exact ⟨i, fun _ => World.put_changes h fun hx => nomatch hx⟩
  | @commitUnheard i _ _ _ _ _ _ h => exact ⟨i, fun _ => World.put_changes h fun hx => nomatch hx⟩
  | @rollback i _ _ _ _ _ _ h => exact ⟨i, fun _ => World.put_changes h fun hx => nomatch hx⟩
  | @returns i _ _ h => exact ⟨i, fun _ => World.put_changes h fun hx => nomatch hx⟩
  | @raises i _ _ h => exact ⟨i, fun _ => World.put_changes h fun hx => nomatch hx⟩
  | _ => exact ⟨0, fun h => absurd rfl h⟩

theorem Run.traced {w₀ w : S.World} {es : List S.Event} (run : Run w₀ es w) : ∃ τ, Traced w₀ τ w ∧ τ.events = es := by
  induction run with
  | start => exact ⟨[], .start, rfl⟩
  | @step es es' w w' run step ih =>
    obtain ⟨τ, hτ, rfl⟩ := ih
    obtain ⟨i, hi⟩ := step.actor
    refine ⟨_, hτ.step step hi, ?_⟩
    rw [Trace.events_append]
    congr 1
    unfold Trace.events
    rw [List.map_map]
    exact List.map_id _

theorem Traced.run {w₀ w : S.World} {τ : S.Trace} (run : Traced w₀ τ w) : Run w₀ τ.events w := by
  induction run with
  | start => exact .start
  | @step τ es w w' i run step hi ih =>
    rw [Trace.events_append, show Trace.events (es.map fun e => (i, e)) = es by unfold Trace.events; rw [List.map_map]; exact List.map_id _]
    exact ih.step step

/-! ### The trace of a schedule -/

/-- What a trace leads to, the world can do silently. -/
theorem Traced.silent {w₀ w w₁ : S.World} {τ : S.Trace} (run : Traced w₀ τ w) (hsilent : Run w [] w₁) : Traced w₀ τ w₁ := by
  generalize hes : ([] : List S.Event) = es at hsilent
  induction hsilent with
  | start => exact run
  | @step es es' w' w'' _ step ih =>
    obtain ⟨rfl, rfl⟩ := List.append_eq_nil_iff.1 hes.symm
    have hlast := (ih rfl).step (i := 0) step fun hne => absurd rfl hne
    rwa [List.map_nil, List.append_nil] at hlast

/-- The events of the commands in turn, each with its session. -/
def traceOf : S.World → List S.Cmd → S.Trace
  | _, [] => []
  | w, cmd :: cmds => ((obey w cmd).1.map fun e => (cmd.session, e)) ++ traceOf (obey w cmd).2 cmds

/-- **A schedule is a run with its trace.** -/
theorem schedule_traced {w₀ : S.World} : ∀ (cmds : List S.Cmd) {w : S.World} {τ : S.Trace}, Traced w₀ τ w → w.Calm →
    Traced w₀ (τ ++ traceOf w cmds) (schedule w cmds).2
  | [], w, τ, run, _ => by rwa [schedule, traceOf, List.append_nil]
  | cmd :: cmds, w, τ, run, h => by
    obtain ⟨hcalm, w₁, hsilent, hlast⟩ := obey_step h cmd
    have hfirst : Traced w₀ (τ ++ (obey w cmd).1.map fun e => (cmd.session, e)) (obey w cmd).2 := by
      rcases hlast with hlast | ⟨step, hchange⟩
      · rw [hlast, List.map_nil, List.append_nil]
        exact run.silent hsilent
      · exact (run.silent hsilent).step step hchange
    have hrest := schedule_traced cmds hfirst hcalm
    rwa [List.append_assoc] at hrest

/-- The trace of a schedule that begins with nobody about. -/
theorem traced_ofSchedule (s : S.State) (cmds : List S.Cmd) :
    Traced (quiet s) (traceOf (quiet s) cmds) (schedule (quiet s) cmds).2 := by
  have hrun := schedule_traced cmds (Traced.start : Traced (quiet s) [] (quiet s)) fun _ _ h => by cases h
  rwa [List.nil_append] at hrun

/-- The state of the world is the state the trace leads to. -/
theorem Traced.state {s : S.State} {w : S.World} {τ : S.Trace} (run : Traced (quiet s) τ w) : w.db = τ.state s :=
  run.run.stateAfter_from.1

/-! ## The rule for one session -/

/-- The trace went on, without the session. -/
def Later (Law : S.Trace → Prop) (i : ℕ) (τ τ' : S.Trace) : Prop := ∃ ρ : S.Trace, τ' = τ ++ ρ ∧ (∀ e ∈ ρ, e.1 ≠ i) ∧ Law τ'

/-- **Along every lawful trace** the program, begun at `τ` by the session `i`, makes only commits that `Q` allows, and ends as
`post` says; of what other calls answer it knows `Ans`. -/
def FollowsWith (Ans : S.Call → Except S.Err S.Reply → S.Trace → Prop) (Law : S.Trace → Prop) (i : ℕ) (call : S.Call)
    (Q : S.Trace → S.Commit → Prop) {α : Type} : S.Program α → (Except S.Err α → S.Trace → Prop) → S.Trace → Prop
  | .done a, post, τ => ∀ τ', Later Law i τ τ' → post (.ok a) τ'
  | .fail e, post, τ => ∀ τ', Later Law i τ τ' → post (.error e) τ'
  | .exec op next, post, τ => ∀ τ', Later Law i τ τ' →
      (∀ (s : S.State) (o : Outcome S.Key S.Write (S.Res op)), Law (τ' ++ [(i, .commit ⟨call, op, s, o⟩)]) →
        Q τ' ⟨call, op, s, o⟩ ∧ FollowsWith Ans Law i call Q (next (.ok o.val)) post (τ' ++ [(i, .commit ⟨call, op, s, o⟩)]) ∧
          FollowsWith Ans Law i call Q (next (.error S.lost)) post (τ' ++ [(i, .commit ⟨call, op, s, o⟩)])) ∧
      (∀ (s : S.State) (e : S.Err), Law (τ' ++ [(i, .failed ⟨call, op, s, e⟩)]) →
        FollowsWith Ans Law i call Q (next (.error e)) post (τ' ++ [(i, .failed ⟨call, op, s, e⟩)])) ∧
      FollowsWith Ans Law i call Q (next (.error S.lost)) post τ'
  | .call c next, post, τ => ∀ q τ', Later Law i τ τ' → Ans c q τ' → FollowsWith Ans Law i call Q (next q) post τ'
  | .ask next, post, τ => ∀ a τ', Later Law i τ τ' → FollowsWith Ans Law i call Q (next a) post τ'

/-- The same where nothing is known of the answers. -/
abbrev Follows (Law : S.Trace → Prop) (i : ℕ) (call : S.Call) (Q : S.Trace → S.Commit → Prop) {α : Type} (p : S.Program α)
    (post : Except S.Err α → S.Trace → Prop) (τ : S.Trace) : Prop :=
  FollowsWith (fun _ _ _ => True) Law i call Q p post τ

section Rules
variable {Ans : S.Call → Except S.Err S.Reply → S.Trace → Prop} {Law : S.Trace → Prop} {i : ℕ} {call : S.Call}
  {Q : S.Trace → S.Commit → Prop} {α β : Type} {post : Except S.Err α → S.Trace → Prop} {τ τ' : S.Trace}

theorem Later.refl (h : Law τ) : Later Law i τ τ := ⟨[], (List.append_nil _).symm, fun _ h => (nomatch h), h⟩

theorem Later.law (h : Later Law i τ τ') : Law τ' := h.choose_spec.2.2

theorem Later.pre (h : Later Law i τ τ') : τ <+: τ' := by
  obtain ⟨ρ, rfl, _⟩ := h
  exact List.prefix_append _ _

theorem Later.trans {τ'' : S.Trace} (h : Later Law i τ τ') (h' : Later Law i τ' τ'') : Later Law i τ τ'' := by
  obtain ⟨ρ, rfl, hρ, _⟩ := h
  obtain ⟨ρ', rfl, hρ', hlaw⟩ := h'
  refine ⟨ρ ++ ρ', List.append_assoc _ _ _, fun e he => ?_, hlaw⟩
  rcases List.mem_append.1 he with he | he
  · exact hρ e he
  · exact hρ' e he

/-- What the others add in between changes nothing. -/
theorem FollowsWith.later {p : S.Program α} (h : FollowsWith Ans Law i call Q p post τ) (hl : Later Law i τ τ') :
    FollowsWith Ans Law i call Q p post τ' := by
  cases p with
  | done a => exact fun τ'' h' => h τ'' (hl.trans h')
  | fail e => exact fun τ'' h' => h τ'' (hl.trans h')
  | exec op next => exact fun τ'' h' => h τ'' (hl.trans h')
  | call c next => exact fun q τ'' h' => h q τ'' (hl.trans h')
  | ask next => exact fun a τ'' h' => h a τ'' (hl.trans h')

theorem FollowsWith.mono {post' : Except S.Err α → S.Trace → Prop} {p : S.Program α} (h : FollowsWith Ans Law i call Q p post τ)
    (hpost : ∀ r τ', Law τ' → post r τ' → post' r τ') : FollowsWith Ans Law i call Q p post' τ := by
  induction p generalizing τ with
  | done a => exact fun τ' hl => hpost _ _ hl.law (h τ' hl)
  | fail e => exact fun τ' hl => hpost _ _ hl.law (h τ' hl)
  | exec op next ih =>
    intro τ' hl
    obtain ⟨hcommit, hfail, hlost⟩ := h τ' hl
    refine ⟨fun s o hlaw => ?_, fun s e hlaw => ih _ (hfail s e hlaw), ih _ hlost⟩
    obtain ⟨hq, hok, hunheard⟩ := hcommit s o hlaw
    exact ⟨hq, ih _ hok, ih _ hunheard⟩
  | call c next ih => exact fun q τ' hl ha => ih _ (h q τ' hl ha)
  | ask next ih => exact fun a τ' hl => ih _ (h a τ' hl)

/-- **A sequence follows part by part.** -/
theorem follows_bind {post : Except S.Err β → S.Trace → Prop} {p : S.Program α} {f : α → S.Program β} (hτ : Law τ)
    (h : FollowsWith Ans Law i call Q p (fun r τ' => match r with
      | .ok a => FollowsWith Ans Law i call Q (f a) post τ'
      | .error e => post (.error e) τ') τ) :
    FollowsWith Ans Law i call Q (p >>= f) post τ := by
  induction p generalizing τ with
  | done a => exact h τ (.refl hτ)
  | fail e => exact h
  | exec op next ih =>
    intro τ' hl
    obtain ⟨hcommit, hfail, hlost⟩ := h τ' hl
    refine ⟨fun s o hlaw => ?_, fun s e hlaw => ih _ hlaw (hfail s e hlaw), ih _ hl.law hlost⟩
    obtain ⟨hq, hok, hunheard⟩ := hcommit s o hlaw
    exact ⟨hq, ih _ hlaw hok, ih _ hlaw hunheard⟩
  | call c next ih => exact fun q τ' hl ha => ih _ hl.law (h q τ' hl ha)
  | ask next ih => exact fun a τ' hl => ih _ hl.law (h a τ' hl)

/-- A program that uses only operations whose every commit is allowed. -/
theorem follows_of_uses {A : S.Op → Prop} {B : S.Call → Prop} {p : S.Program α} (hp : p.Uses A B)
    (hQ : ∀ τ' c, τ <+: τ' → A c.op → Law (τ' ++ [(i, .commit c)]) → Q τ' c) : FollowsWith Ans Law i call Q p (fun _ _ => True) τ := by
  induction p generalizing τ with
  | done a => exact fun _ _ => trivial
  | fail e => exact fun _ _ => trivial
  | exec op next ih =>
    intro τ' hl
    have hnow := hl.pre
    refine ⟨fun s o hlaw => ⟨hQ τ' _ hnow hp.1 hlaw, ih _ (hp.2 _) ?_, ih _ (hp.2 _) ?_⟩, fun s e _ => ih _ (hp.2 _) ?_, ih _ (hp.2 _) ?_⟩
    · exact fun τ'' c h => hQ τ'' c ((hnow.trans (List.prefix_append _ _)).trans h)
    · exact fun τ'' c h => hQ τ'' c ((hnow.trans (List.prefix_append _ _)).trans h)
    · exact fun τ'' c h => hQ τ'' c ((hnow.trans (List.prefix_append _ _)).trans h)
    · exact fun τ'' c h => hQ τ'' c (hnow.trans h)
  | call c next ih => exact fun q τ' hl _ => ih _ (hp.2 q) fun τ'' c h => hQ τ'' c (hl.pre.trans h)
  | ask next ih => exact fun a τ' hl => ih _ (hp a) fun τ'' c h => hQ τ'' c (hl.pre.trans h)

theorem follows_ofExcept {x : Except S.Err α} (h : ∀ τ', Later Law i τ τ' → post x τ') :
    FollowsWith Ans Law i call Q (Proc.ofExcept x) post τ := by
  cases x <;> exact h

theorem follows_need {x : Option α} {e : S.Err} (hsome : ∀ a τ', x = some a → Later Law i τ τ' → post (.ok a) τ')
    (hnone : ∀ τ', Later Law i τ τ' → post (.error e) τ') : FollowsWith Ans Law i call Q (Proc.need x e) post τ := by
  cases x with
  | none => exact hnone
  | some a => exact fun τ' hl => hsome a τ' rfl hl

theorem follows_ensure {c : Prop} [Decidable c] {e : S.Err} {post : Except S.Err Unit → S.Trace → Prop}
    (hpos : ∀ τ', c → Later Law i τ τ' → post (.ok ()) τ') (hneg : ∀ τ', Later Law i τ τ' → post (.error e) τ') :
    FollowsWith Ans Law i call Q (Proc.ensure c e) post τ := by
  unfold Proc.ensure
  split
  · rename_i hc
    exact fun τ' hl => hpos τ' hc hl
  · exact hneg

/-- A transaction whose error is thrown on. -/
theorem follows_trans {op : S.Op} {post : Except S.Err (S.Res op) → S.Trace → Prop}
    (hcommit : ∀ τ' s o, Later Law i τ τ' → Law (τ' ++ [(i, .commit ⟨call, op, s, o⟩)]) → Q τ' ⟨call, op, s, o⟩ ∧
      ∀ τ'', Later Law i (τ' ++ [(i, .commit ⟨call, op, s, o⟩)]) τ'' → post (.ok o.val) τ'' )
    (herror : ∀ e τ', Law τ' → post (.error e) τ') : FollowsWith Ans Law i call Q (Proc.trans op) post τ := by
  intro τ' hl
  refine ⟨fun s o hlaw => ?_, fun s e _ τ'' hl' => herror e τ'' hl'.law, fun τ'' hl' => herror _ τ'' hl'.law⟩
  obtain ⟨hq, hok⟩ := hcommit τ' s o hl hlaw
  exact ⟨hq, hok, fun τ'' hl' => herror _ τ'' hl'.law⟩

end Rules

/-! ## The rule for a run -/

section Run
variable {Ans : S.Call → Except S.Err S.Reply → S.Trace → Prop} {Law : S.Trace → Prop}
  {Q : ℕ → S.Call → S.Trace → S.Commit → Prop} {post : ℕ → S.Call → Except S.Err S.Reply → S.Trace → Prop}

/-- What is known of answers: it is so when a call ends, it stays so, and of an answer that got lost it is nothing. -/
structure Known (Ans : S.Call → Except S.Err S.Reply → S.Trace → Prop) (Law : S.Trace → Prop)
    (post : ℕ → S.Call → Except S.Err S.Reply → S.Trace → Prop) : Prop where
  ends : ∀ j c r τ, Law τ → post j c r τ → Ans c r τ
  stays : ∀ c r τ e, Law (τ ++ [e]) → Ans c r τ → Ans c r (τ ++ [e])
  lost : ∀ c τ, Ans c (.error S.lost) τ

/-- What a session has still to do follows; what it has answered is known. -/
def Session.Follows (Ans : S.Call → Except S.Err S.Reply → S.Trace → Prop) (Law : S.Trace → Prop) (Q : S.Trace → S.Commit → Prop)
    (post : Except S.Err S.Reply → S.Trace → Prop) (i : ℕ) (call : S.Call) (w : S.World) (τ : S.Trace) : S.Session → Prop
  | .ready p => FollowsWith Ans Law i call Q p post τ
  | .inTx op _ _ _ next => FollowsWith Ans Law i call Q (.exec op next : S.Code) post τ
  | .waiting k next => k < w.sessions.length ∧ ∀ (c : S.Call) (x : S.Session), w.sessions[k]? = some (c, x) →
      ∀ q τ', Later Law i τ τ' → Ans c q τ' → FollowsWith Ans Law i call Q (next q) post τ'
  | .finished r => Ans call r τ
  | .crashed => True

/-- The sessions of the one are in the other, with their calls. -/
structure World.Within (w w' : S.World) : Prop where
  length : w.sessions.length ≤ w'.sessions.length
  call : ∀ k, k < w.sessions.length → ∀ (c : S.Call) (x : S.Session), w'.sessions[k]? = some (c, x) →
    ∃ x₀, w.sessions[k]? = some (c, x₀)

theorem World.length_put (w : S.World) (i : ℕ) (x : S.Session) : (w.put i x).sessions.length = w.sessions.length := by
  unfold World.put
  rw [List.length_modify]

theorem World.within_put (w : S.World) (s : S.State) (i : ℕ) (x : S.Session) : w.Within (World.put ⟨s, w.sessions⟩ i x) := by
  refine ⟨(World.length_put ⟨s, w.sessions⟩ i x).ge, fun k _ c y hk => ?_⟩
  rw [World.put_sessions] at hk
  obtain ⟨p, hp, heq⟩ := Option.map_eq_some_iff.1 hk
  refine ⟨p.2, hp.trans (congrArg some (Prod.ext ?_ rfl))⟩
  split at heq
  · exact congrArg (·.1) heq
  · exact congrArg (·.1) heq

theorem World.within_spawn (w : S.World) (c : S.Call) : w.Within (w.spawn c) := by
  unfold World.spawn
  refine ⟨?_, fun k hk c y h => ?_⟩
  · rw [List.length_append]
    omega
  · rw [List.getElem?_append_left hk] at h
    exact ⟨y, h⟩

theorem World.put_spawn {w : S.World} {i : ℕ} (hi : i < w.sessions.length) (x : S.Session) (c : S.Call) :
    (w.put i x).spawn c = (w.spawn c).put i x := by
  unfold World.spawn World.put
  congr 1
  refine List.ext_getElem? fun j => ?_
  rw [List.getElem?_modify]
  rcases Nat.lt_or_ge j w.sessions.length with hj | hj
  · rw [List.getElem?_append_left (by rwa [List.length_modify]), List.getElem?_append_left hj, List.getElem?_modify]
  · have hne : i ≠ j := by omega
    rw [List.getElem?_append_right (by rwa [List.length_modify]), List.getElem?_append_right hj, List.length_modify]
    simp only [hne, if_false, id_map']

theorem Session.Follows.move {Q : S.Trace → S.Commit → Prop} {post : Except S.Err S.Reply → S.Trace → Prop} {i : ℕ}
    {call : S.Call} {w w' : S.World} {τ τ' : S.Trace} {x : S.Session} (h : x.Follows Ans Law Q post i call w τ)
    (hw : w.Within w') (hl : Later Law i τ τ') (hans : ∀ r, Ans call r τ → Ans call r τ') : x.Follows Ans Law Q post i call w' τ' := by
  cases x with
  | ready p => exact FollowsWith.later h hl
  | inTx op L ws rest next => exact FollowsWith.later h hl
  | waiting k next =>
    refine ⟨h.1.trans_le hw.length, fun c x hk q τ'' hl' => ?_⟩
    obtain ⟨x₀, hk₀⟩ := hw.call k h.1 c x hk
    exact h.2 c x₀ hk₀ q τ'' (hl.trans hl')
  | finished r => exact hans r h
  | crashed => trivial

/-- All sessions follow. -/
def World.Follows (Ans : S.Call → Except S.Err S.Reply → S.Trace → Prop) (Law : S.Trace → Prop)
    (Q : ℕ → S.Call → S.Trace → S.Commit → Prop) (post : ℕ → S.Call → Except S.Err S.Reply → S.Trace → Prop) (τ : S.Trace)
    (w : S.World) : Prop :=
  ∀ (j : ℕ) (c : S.Call) (x : S.Session), w.sessions[j]? = some (c, x) → x.Follows Ans Law (Q j c) (post j c) j c w τ

/-- One session goes on, and the others see a trace that may be longer. -/
theorem World.Follows.put {τ τ' : S.Trace} {w : S.World} (h : w.Follows Ans Law Q post τ) {s : S.State} {i : ℕ} {c : S.Call}
    {x y : S.Session} (hi : w.sessions[i]? = some (c, x)) (hl : ∀ j, j ≠ i → Later Law j τ τ') (hans : ∀ c r, Ans c r τ → Ans c r τ')
    (hy : y.Follows Ans Law (Q i c) (post i c) i c (World.put ⟨s, w.sessions⟩ i y) τ') :
    World.Follows Ans Law Q post τ' (World.put ⟨s, w.sessions⟩ i y) := by
  intro j c' x' hj
  have hput := hj
  rw [World.put_sessions] at hj
  obtain ⟨p, hp, heq⟩ := Option.map_eq_some_iff.1 hj
  by_cases hij : i = j
  · subst hij
    obtain rfl := Option.some.inj (hi.symm.trans hp)
    rw [if_pos rfl] at heq
    cases heq
    exact hy
  · rw [if_neg hij] at heq
    subst heq
    exact (h j c' x' hp).move (w.within_put s i y) (hl j (Ne.symm hij)) (hans c')

theorem World.Follows.spawn {τ : S.Trace} {w : S.World} (h : w.Follows Ans Law Q post τ) (hnow : Law τ) {c : S.Call}
    (hc : FollowsWith Ans Law w.sessions.length c (Q w.sessions.length c) (S.proc c) (post w.sessions.length c) τ) :
    (w.spawn c).Follows Ans Law Q post τ := by
  intro j c' x hj
  have hspawn := hj
  unfold World.spawn at hj
  rcases Nat.lt_or_ge j w.sessions.length with hlt | hge
  · rw [List.getElem?_append_left hlt] at hj
    exact (h j c' x hj).move (w.within_spawn c) (.refl hnow) fun _ ha => ha
  · rw [List.getElem?_append_right hge, List.getElem?_singleton] at hj
    split at hj
    · rename_i hzero
      cases hj
      rw [show j = w.sessions.length by omega]
      exact hc
    · cases hj

theorem snoc_eq {α : Type} {τ τ₁ τ₂ : List α} {x y : α} (h : τ ++ [x] = τ₁ ++ y :: τ₂) :
    (τ = τ₁ ∧ x = y) ∨ ∃ τ₃, τ = τ₁ ++ y :: τ₃ := by
  rcases List.eq_nil_or_concat τ₂ with rfl | ⟨τ₃, z, rfl⟩
  · obtain ⟨h1, h2⟩ := List.append_inj' h rfl
    exact .inl ⟨h1, (List.cons.inj h2).1⟩
  · rw [List.concat_eq_append, ← List.cons_append, ← List.append_assoc] at h
    exact .inr ⟨τ₃, (List.append_inj' h rfl).1⟩

/-- What the rule says of a whole trace. -/
structure Traced.Meets (Q : ℕ → S.Call → S.Trace → S.Commit → Prop) (post : ℕ → S.Call → Except S.Err S.Reply → S.Trace → Prop)
    (τ : S.Trace) : Prop where
  commits : ∀ τ₁ i c τ₂, τ = τ₁ ++ (i, .commit c) :: τ₂ → Q i c.call τ₁ c
  returns : ∀ τ₁ i call r db τ₂, τ = τ₁ ++ (i, .returned call r db) :: τ₂ → post i call r τ₁

theorem Traced.Meets.snoc {τ : S.Trace} (h : Meets Q post τ) {i : ℕ} {ev : S.Event}
    (hcommit : ∀ c, ev = .commit c → Q i c.call τ c) (hreturn : ∀ call r db, ev = .returned call r db → post i call r τ) :
    Meets Q post (τ ++ [(i, ev)]) := by
  refine ⟨fun τ₁ j d τ₂ heq => ?_, fun τ₁ j call r db τ₂ heq => ?_⟩
  · rcases snoc_eq heq with ⟨rfl, hd⟩ | ⟨τ₃, hτ⟩
    · cases hd
      exact hcommit d rfl
    · exact h.commits τ₁ j d τ₃ hτ
  · rcases snoc_eq heq with ⟨rfl, hd⟩ | ⟨τ₃, hτ⟩
    · cases hd
      exact hreturn call r db rfl
    · exact h.returns τ₁ j call r db τ₃ hτ

/-- **When the program of every call follows, the whole run does.** -/
theorem Traced.follows {w₀ w : S.World} {τ : S.Trace} (run : Traced w₀ τ w) (hstart : w₀.Follows Ans Law Q post [])
    (hlaw : ∀ τ', τ' <+: τ → Law τ') (hans : Known Ans Law post)
    (hproc : ∀ i call τ', w₀.sessions.length ≤ i → Law τ' → (∀ e ∈ τ', e.1 ≠ i) →
      FollowsWith Ans Law i call (Q i call) (S.proc call) (post i call) τ') :
    Traced.Meets Q post τ ∧ w.Follows Ans Law Q post τ ∧ (∀ e ∈ τ, e.1 < w.sessions.length) ∧
      w₀.sessions.length ≤ w.sessions.length := by
  induction run with
  | start =>
    refine ⟨⟨fun τ₁ i c τ₂ h => ?_, fun τ₁ i call r db τ₂ h => ?_⟩, hstart, fun e he => (nomatch he), le_rfl⟩
    · cases τ₁ <;> cases h
    · cases τ₁ <;> cases h
  | @step τ es w w' i run step hi ih =>
    obtain ⟨hmeets, hw, hlt, hlen⟩ := ih fun τ' hτ' => hlaw τ' (hτ'.trans (List.prefix_append _ _))
    have hnow : Law τ := hlaw τ (List.prefix_append _ _)
    have hthen : Law (τ ++ es.map fun e => (i, e)) := hlaw _ List.prefix_rfl
    have hlen' : ∀ (s' : S.State) (j : ℕ) (y : S.Session), (World.put ⟨s', w.sessions⟩ j y).sessions.length = w.sessions.length :=
      fun s' j y => World.length_put ⟨s', w.sessions⟩ j y
    -- a step without an event
    have hsilent : ∀ {j : ℕ} {c : S.Call} {x y : S.Session}, w.sessions[j]? = some (c, x) →
        y.Follows Ans Law (Q j c) (post j c) j c (w.put j y) τ →
        Traced.Meets Q post τ ∧ (w.put j y).Follows Ans Law Q post τ ∧ (∀ e ∈ τ, e.1 < (w.put j y).sessions.length) ∧
          w₀.sessions.length ≤ (w.put j y).sessions.length := by
      intro j c x y hj hy
      rw [World.length_put]
      exact ⟨hmeets, hw.put (s := w.db) hj (fun _ _ => .refl hnow) (fun _ _ h => h) hy, hlt, hlen⟩
    have hactor : ∀ {j : ℕ} {c : S.Call} {x y : S.Session} {s' : S.State}, w.sessions[j]? = some (c, x) →
        (World.put ⟨s', w.sessions⟩ j y).sessions[i]? ≠ w.sessions[i]? → j = i := by
      intro j c x y s' hj hne
      by_contra hij
      exact hne (World.put_ne (w := ⟨s', w.sessions⟩) hij)
    -- a step with one, of the session that changes
    have hevent : ∀ {c : S.Call} {x y : S.Session} (s' : S.State) {ev : S.Event}, w.sessions[i]? = some (c, x) → Law (τ ++ [(i, ev)]) →
        y.Follows Ans Law (Q i c) (post i c) i c (World.put ⟨s', w.sessions⟩ i y) (τ ++ [(i, ev)]) →
        (∀ d, ev = .commit d → Q i d.call τ d) → (∀ call r db, ev = .returned call r db → post i call r τ) →
        Traced.Meets Q post (τ ++ [(i, ev)]) ∧ (World.put ⟨s', w.sessions⟩ i y).Follows Ans Law Q post (τ ++ [(i, ev)]) ∧
          (∀ e ∈ τ ++ [(i, ev)], e.1 < (World.put ⟨s', w.sessions⟩ i y).sessions.length) ∧
          w₀.sessions.length ≤ (World.put ⟨s', w.sessions⟩ i y).sessions.length := by
      intro c x y s' ev hj hlaw' hy hcommit hreturn
      rw [show (World.put ⟨s', w.sessions⟩ i y).sessions.length = w.sessions.length from World.length_put ⟨s', w.sessions⟩ i y]
      refine ⟨hmeets.snoc hcommit hreturn, hw.put hj (fun j hji => ⟨_, rfl, fun e he => ?_, hlaw'⟩)
        (fun c r => hans.stays c r τ _ hlaw') hy, fun e he => ?_, hlen⟩
      · cases List.mem_singleton.1 he
        exact Ne.symm hji
      · rcases List.mem_append.1 he with he | he
        · exact hlt e he
        · cases List.mem_singleton.1 he
          exact (List.getElem?_eq_some_iff.1 hj).1
    cases step with
    | spawn c =>
      rw [List.map_nil, List.append_nil]
      refine ⟨hmeets, hw.spawn hnow (hproc _ _ τ hlen hnow fun e he => (hlt e he).ne), fun e he => ?_, ?_⟩
      · exact (hlt e he).trans_le (w.within_spawn c).length
      · exact hlen.trans (w.within_spawn c).length
    | «begin» hj =>
      have hfollows := hw _ _ _ hj
      rw [List.map_nil, List.append_nil]
      exact hsilent hj hfollows
    | lock hj hk =>
      have hfollows := hw _ _ _ hj
      rw [List.map_nil, List.append_nil]
      exact hsilent hj hfollows
    | write hj hk =>
      have hfollows := hw _ _ _ hj
      rw [List.map_nil, List.append_nil]
      exact hsilent hj hfollows
    | peek hj =>
      have hfollows := hw _ _ _ hj
      rw [List.map_nil, List.append_nil]
      exact hsilent hj hfollows
    | @commit j c op L ws a next hj =>
      obtain rfl := hactor hj (hi (List.cons_ne_nil _ _))
      obtain ⟨hq, hok, _⟩ := (hw _ _ _ hj τ (.refl hnow)).1 w.db ⟨a, L, ws⟩ hthen
      refine hevent _ hj hthen hok (fun d hd => ?_) fun _ _ _ h => (nomatch h)
      cases hd
      exact hq
    | @commitUnheard j c op L ws a next hj =>
      obtain rfl := hactor hj (hi (List.cons_ne_nil _ _))
      obtain ⟨hq, _, hlost⟩ := (hw _ _ _ hj τ (.refl hnow)).1 w.db ⟨a, L, ws⟩ hthen
      refine hevent _ hj hthen hlost (fun d hd => ?_) fun _ _ _ h => (nomatch h)
      cases hd
      exact hq
    | @rollback j c op L ws e next hj =>
      obtain rfl := hactor hj (hi (List.cons_ne_nil _ _))
      exact hevent w.db hj hthen ((hw _ _ _ hj τ (.refl hnow)).2.1 w.db e hthen) (fun _ h => (nomatch h)) fun _ _ _ h => (nomatch h)
    | abort hj =>
      rw [List.map_nil, List.append_nil]
      exact hsilent hj (hw _ _ _ hj τ (.refl hnow)).2.2
    | @send j c c' next hj =>
      rw [List.map_nil, List.append_nil]
      have hjlt : j < w.sessions.length := (List.getElem?_eq_some_iff.1 hj).1
      have hspawned := hw.spawn hnow (hproc _ c' τ hlen hnow fun e he => (hlt e he).ne)
      have hj' : (w.spawn c').sessions[j]? = some (c, .ready (.call c' next)) := (List.getElem?_append_left hjlt).trans hj
      have hnew : (w.spawn c').sessions.length = w.sessions.length + 1 := List.length_append
      rw [World.put_spawn hjlt]
      refine ⟨hmeets, hspawned.put (s := w.db) hj' (fun _ _ => .refl hnow) (fun _ _ h => h) ⟨?_, fun d x hd => ?_⟩, ?_, ?_⟩
      · rw [show (World.put ⟨w.db, (w.spawn c').sessions⟩ j _).sessions.length = _ from World.length_put _ _ _, hnew]
        omega
      · -- the session that is waited for is the one that was just begun
        obtain ⟨x₀, hx₀⟩ := ((w.spawn c').within_put w.db j _).call _ (by rw [hnew]; omega) d x hd
        have hlast : (w.spawn c').sessions[w.sessions.length]? = some (c', .ready (S.proc c')) := List.getElem?_concat_length
        cases hlast.symm.trans hx₀
        exact hw _ _ _ hj
      · intro e he
        rw [show ((w.spawn c').put j _).sessions.length = _ from World.length_put _ _ _, hnew]
        have := hlt e he
        omega
      · rw [show ((w.spawn c').put j _).sessions.length = _ from World.length_put _ _ _, hnew]
        omega
    | unsent hj =>
      rw [List.map_nil, List.append_nil]
      exact hsilent hj (hw _ _ _ hj _ τ (.refl hnow) (hans.lost _ _))
    | reply hj hk =>
      rw [List.map_nil, List.append_nil]
      exact hsilent hj ((hw _ _ _ hj).2 _ _ hk _ τ (.refl hnow) (hw _ _ _ hk))
    | @timeout j k c next hj =>
      rw [List.map_nil, List.append_nil]
      obtain ⟨hlt', hnext⟩ := hw _ _ _ hj
      exact hsilent hj (hnext _ _ (List.getElem?_eq_getElem hlt') _ τ (.refl hnow) (hans.lost _ _))
    | answer hj a =>
      rw [List.map_nil, List.append_nil]
      exact hsilent hj (hw _ _ _ hj a τ (.refl hnow))
    | @returns j c a hj =>
      obtain rfl := hactor hj (hi (List.cons_ne_nil _ _))
      have hpost := hw _ _ _ hj τ (.refl hnow)
      refine hevent w.db hj hthen (hans.stays _ _ _ _ hthen (hans.ends _ _ _ _ hnow hpost)) (fun _ h => (nomatch h)) fun _ _ _ h => ?_
      cases h
      exact hpost
    | @raises j c e hj =>
      obtain rfl := hactor hj (hi (List.cons_ne_nil _ _))
      have hpost := hw _ _ _ hj τ (.refl hnow)
      refine hevent w.db hj hthen (hans.stays _ _ _ _ hthen (hans.ends _ _ _ _ hnow hpost)) (fun _ h => (nomatch h)) fun _ _ _ h => ?_
      cases h
      exact hpost
    | crash hj =>
      rw [List.map_nil, List.append_nil]
      exact hsilent (y := .crashed) hj trivial

theorem quiet_follows (s : S.State) : (quiet s).Follows Ans Law Q post [] := fun _ _ _ hj => (nomatch hj)

theorem known_nothing : Known (fun _ _ _ => True) Law post := ⟨fun _ _ _ _ _ _ => trivial, fun _ _ _ _ _ _ => trivial, fun _ _ => trivial⟩

end Run

/-! ## Traces of commits that are as they should be -/

/-- Every commit happens at the state the trace has led to, and is as `Ok` says. -/
def Lawful (s : S.State) (Ok : S.Commit → Prop) (τ : S.Trace) : Prop :=
  ∀ (τ₁ : S.Trace) (i : ℕ) (c : S.Commit) (τ₂ : S.Trace), τ = τ₁ ++ (i, .commit c) :: τ₂ → c.before = τ₁.state s ∧ Ok c

section Lawful
variable {s : S.State} {Ok : S.Commit → Prop} {i : ℕ} {c : S.Commit} {τ τ' : S.Trace}

theorem Lawful.pre (h : Lawful s Ok τ) (hp : τ' <+: τ) : Lawful s Ok τ' := by
  obtain ⟨ρ, rfl⟩ := hp
  intro τ₁ i c τ₂ heq
  exact h τ₁ i c (τ₂ ++ ρ) (by rw [heq, List.append_assoc]; rfl)

theorem Lawful.commit (h : Lawful s Ok (τ ++ [(i, .commit c)])) : c.before = τ.state s ∧ Ok c := h τ i c [] rfl

/-- A commit leads to the state after it. -/
theorem Lawful.state_commit (h : Lawful s Ok (τ ++ [(i, .commit c)])) : Trace.state s (τ ++ [(i, .commit c)]) = c.after := by
  rw [Trace.state_commit, ← h.commit.1]
  rfl

/-- **What every commit keeps stays so along the trace.** -/
theorem Lawful.keeps {P : S.State → Prop} (hP : ∀ c : S.Commit, Ok c → P c.before → P c.after) (hpre : τ <+: τ')
    (h : Lawful s Ok τ') (hs : P (τ.state s)) : P (τ'.state s) := by
  obtain ⟨ρ, rfl⟩ := hpre
  induction ρ using List.reverseRecOn with
  | nil => rwa [List.append_nil]
  | append_singleton ρ e ih =>
    obtain ⟨i, ev⟩ := e
    rw [← List.append_assoc] at h ⊢
    have hprev := ih (h.pre (List.prefix_append _ _))
    cases ev with
    | commit c =>
      obtain ⟨hbefore, hok⟩ := h.commit
      rw [h.state_commit]
      exact hP c hok (hbefore ▸ hprev)
    | failed f =>
      rw [Trace.state_append]
      exact hprev
    | returned call r db =>
      rw [Trace.state_append]
      exact hprev

theorem Later.keeps {P : S.State → Prop} (hP : ∀ c : S.Commit, Ok c → P c.before → P c.after)
    (h : Later (Lawful s Ok) i τ τ') (hs : P (τ.state s)) : P (τ'.state s) :=
  h.law.keeps hP h.pre hs

end Lawful

/-- A run's own trace is lawful. -/
theorem Traced.lawful {w₀ w : S.World} {τ : S.Trace} {Ok : S.Commit → Prop} (run : Traced w₀ τ w)
    (hok : ∀ c : S.Commit, .commit c ∈ τ.events → Ok c) : Lawful w₀.db Ok τ := by
  intro τ₁ i c τ₂ heq
  have hevents : τ.events = Trace.events τ₁ ++ .commit c :: Trace.events τ₂ := by
    rw [heq, Trace.events_append]
    rfl
  exact ⟨run.run.stateAfter_from.2 _ _ c hevents, hok c (hevents ▸ List.mem_append_right _ List.mem_cons_self)⟩

/-- The trace of an execution. -/
theorem Execution.traced {Init : S.State → Prop} {Permitted : S.Op → Prop} (e : Execution S Init Permitted) :
    ∃ τ, Traced (quiet e.init) τ e.final ∧ τ.events = e.events :=
  e.run.traced

/-- **When the program of every call follows**, each commit of an execution is allowed at the trace before it, and each call ends
as it should. -/
theorem Execution.follows_with {Init : S.State → Prop} {Permitted : S.Op → Prop} (e : Execution S Init Permitted)
    {Ans : S.Call → Except S.Err S.Reply → S.Trace → Prop} {Ok : S.Commit → Prop} {Q : ℕ → S.Call → S.Trace → S.Commit → Prop}
    {post : ℕ → S.Call → Except S.Err S.Reply → S.Trace → Prop} (hok : ∀ c, .commit c ∈ e.events → Ok c)
    (hans : Known Ans (Lawful e.init Ok) post)
    (hproc : ∀ i call τ, Lawful e.init Ok τ → (∀ e ∈ τ, e.1 ≠ i) →
      FollowsWith Ans (Lawful e.init Ok) i call (Q i call) (S.proc call) (post i call) τ) :
    ∃ τ, Traced (quiet e.init) τ e.final ∧ τ.events = e.events ∧ Lawful e.init Ok τ ∧ Traced.Meets Q post τ := by
  obtain ⟨τ, hτ, hevents⟩ := e.traced
  have hlaw : Lawful e.init Ok τ := hτ.lawful fun c hc => hok c (hevents ▸ hc)
  have hmeets := hτ.follows (quiet_follows e.init) (fun τ' hτ' => hlaw.pre hτ') hans fun i call τ' _ => hproc i call τ'
  exact ⟨τ, hτ, hevents, hlaw, hmeets.1⟩

theorem Execution.follows {Init : S.State → Prop} {Permitted : S.Op → Prop} (e : Execution S Init Permitted)
    {Ok : S.Commit → Prop} {Q : ℕ → S.Call → S.Trace → S.Commit → Prop} {post : ℕ → S.Call → Except S.Err S.Reply → S.Trace → Prop}
    (hok : ∀ c, .commit c ∈ e.events → Ok c)
    (hproc : ∀ i call τ, Lawful e.init Ok τ → (∀ e ∈ τ, e.1 ≠ i) →
      Follows (Lawful e.init Ok) i call (Q i call) (S.proc call) (post i call) τ) :
    ∃ τ, Traced (quiet e.init) τ e.final ∧ τ.events = e.events ∧ Lawful e.init Ok τ ∧ Traced.Meets Q post τ :=
  e.follows_with hok known_nothing hproc

/-- What a commit may do at the state before it. -/
theorem Execution.commits_of_follows {Init : S.State → Prop} {Permitted : S.Op → Prop} (e : Execution S Init Permitted)
    {Ok : S.Commit → Prop} {Q : S.Commit → Prop} (hok : ∀ c, .commit c ∈ e.events → Ok c)
    (hproc : ∀ i call τ, Lawful e.init Ok τ →
      Follows (Lawful e.init Ok) i call (fun _ c => Q c) (S.proc call) (fun _ _ => True) τ) :
    ∀ c, .commit c ∈ e.events → Q c := by
  have hcall : ∀ i call τ, Lawful e.init Ok τ → (∀ e ∈ τ, e.1 ≠ i) →
      Follows (Lawful e.init Ok) i call (fun _ c => Q c) (S.proc call) (fun _ _ => True) τ := fun i call τ h _ => hproc i call τ h
  obtain ⟨τ, _, hevents, _, hmeets⟩ := e.follows hok hcall
  intro c hc
  rw [← hevents] at hc
  obtain ⟨⟨i, ev⟩, he, rfl⟩ := List.mem_map.1 hc
  obtain ⟨τ₁, τ₂, rfl⟩ := List.append_of_mem he
  exact hmeets.commits τ₁ i c τ₂ rfl

end Rowdb.System
