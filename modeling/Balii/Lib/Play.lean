import Balii.Lib.Atomic
/-!
# Play — one program with nobody else about

Every operation is performed, every question takes the next of the answers given, and nothing gets lost.  The result, the state
and the answers left are computed part by part, and a play is a run of its system.
-/
namespace Rowdb.Atomic

variable {A : Atomic} {α β : Type}

/-- How a program went, and the answers that nobody asked for. -/
structure Played (A : Atomic) (α : Type) where
  result : Except A.Err α
  answers : ℕ → A.Answer
  state : A.State

/-- **What a program does by itself**; a call of another service is not answered. -/
def play : A.Program α → (ℕ → A.Answer) → A.State → Played A α
  | .done a, answers, s => ⟨.ok a, answers, s⟩
  | .fail e, answers, s => ⟨.error e, answers, s⟩
  | .exec op next, answers, s =>
    match A.perform op s with
    | .ok (a, s') => play (next (.ok a)) answers s'
    | .error e => play (next (.error e)) answers s
  | .call _ next, answers, s => play (next (.error A.lost)) answers s
  | .ask next, answers, s => play (next (answers 0)) (fun n => answers (n + 1)) s

/-- Another program after this one. -/
def Played.andThen (r : Played A α) (f : α → A.Program β) : Played A β :=
  match r.result with
  | .ok a => play (f a) r.answers r.state
  | .error e => ⟨.error e, r.answers, r.state⟩

/-- A handler after this one. -/
def Played.rescue (r : Played A α) (handler : A.Err → A.Program α) : Played A α :=
  match r.result with
  | .ok _ => r
  | .error e => play (handler e) r.answers r.state

section Rules
variable {answers : ℕ → A.Answer} {s s' : A.State}

/-- **A sequence is played part by part.** -/
theorem play_bind (p : A.Program α) (f : α → A.Program β) (answers : ℕ → A.Answer) (s : A.State) :
    play (p >>= f) answers s = (play p answers s).andThen f := by
  induction p generalizing answers s with
  | done a => rfl
  | fail e => rfl
  | exec op next ih =>
    change play (.exec op fun r => next r >>= f) answers s = _
    rw [play, play]
    split
    · exact ih _ _ _
    · exact ih _ _ _
  | call c next ih => exact ih _ _ _
  | ask next ih => exact ih _ _ _

theorem play_catching (p : A.Program α) (handler : A.Err → A.Program α) (answers : ℕ → A.Answer) (s : A.State) :
    play (p.catching handler) answers s = (play p answers s).rescue handler := by
  induction p generalizing answers s with
  | done a => rfl
  | fail e => rfl
  | exec op next ih =>
    change play (.exec op fun r => (next r).catching handler) answers s = _
    rw [play, play]
    split
    · exact ih _ _ _
    · exact ih _ _ _
  | call c next ih => exact ih _ _ _
  | ask next ih => exact ih _ _ _

@[simp] theorem play_pure (a : α) : play (pure a : A.Program α) answers s = ⟨.ok a, answers, s⟩ := rfl

@[simp] theorem play_fail (e : A.Err) : play (.fail e : A.Program α) answers s = ⟨.error e, answers, s⟩ := rfl

@[simp] theorem play_answer : play (Proc.answer : A.Program A.Answer) answers s = ⟨.ok (answers 0), fun n => answers (n + 1), s⟩ := rfl

@[simp] theorem play_ofExcept (x : Except A.Err α) : play (Proc.ofExcept x : A.Program α) answers s = ⟨x, answers, s⟩ := by
  cases x <;> rfl

@[simp] theorem play_need (x : Option α) (e : A.Err) :
    play (Proc.need x e : A.Program α) answers s = ⟨x.elim (.error e) .ok, answers, s⟩ := by
  cases x <;> rfl

@[simp] theorem play_ensure (c : Prop) [Decidable c] (e : A.Err) :
    play (Proc.ensure c e : A.Program Unit) answers s = ⟨if c then .ok () else .error e, answers, s⟩ := by
  unfold Proc.ensure
  split <;> rfl

theorem play_trans {op : A.Op} {a : A.Res op} (h : A.perform op s = .ok (a, s')) :
    play (Proc.trans op : A.Program (A.Res op)) answers s = ⟨.ok a, answers, s'⟩ := by
  change play (.exec op _) answers s = _
  rw [play, h]
  rfl

@[simp] theorem andThen_ok {a : α} {f : α → A.Program β} : (⟨.ok a, answers, s⟩ : Played A α).andThen f = play (f a) answers s := rfl

@[simp] theorem andThen_error {e : A.Err} {f : α → A.Program β} :
    (⟨.error e, answers, s⟩ : Played A α).andThen f = ⟨.error e, answers, s⟩ := rfl

/-- A value that may be missing, and what only asks after it. -/
theorem play_ofExcept_bind {x : Except A.Err α} {f : α → A.Program β} {g : α → Except A.Err β}
    (h : ∀ a, x = .ok a → ∃ answers', play (f a) answers s = ⟨g a, answers', s⟩) :
    ∃ answers', play (Proc.ofExcept x >>= f) answers s = ⟨x >>= g, answers', s⟩ := by
  rw [play_bind, play_ofExcept]
  cases x with
  | error e => exact ⟨answers, rfl⟩
  | ok a => exact h a rfl

end Rules

/-! ## Plays are runs -/

section Runs

/-- One call, with this program left to it. -/
def solo (c : A.Call) (p : A.Program A.Reply) (s : A.State) : A.system.World := ⟨s, [(c, .ready p)]⟩

theorem solo_free (s : A.State) (x : A.Call × A.system.Session) (k : Unit) : System.World.Free (S := A.system) ⟨s, [x]⟩ 0 k := by
  intro j hj y hy
  have hlt := (List.getElem?_eq_some_iff.1 hy).1
  rw [List.length_singleton] at hlt
  omega

/-- An operation is begun and locked. -/
theorem solo_locks {c : A.Call} {op : A.Op} {next : Except A.Err (A.Res op) → A.Program A.Reply} {s : A.State}
    {w : A.system.World} {es : List A.system.Event} (run : System.Run (S := A.system) w es (solo c (.exec op next) s)) :
    System.Run (S := A.system) w (es ++ [] ++ [])
      ⟨s, [(c, .inTx op [()] [] (match A.perform op s with
        | .error e => .fail e
        | .ok (a, s') => .write s' (.done a)) next)]⟩ :=
  (run.step (System.Step.begin (S := A.system) (w := solo c (.exec op next) s) (i := 0) rfl)).step
    (System.Step.lock (S := A.system) (w := ⟨s, [(c, .inTx op [] [] (A.body op) next)]⟩) (i := 0) rfl (solo_free s _ ()))

/-- **A play is a run**, of the one call and with every operation heard of. -/
theorem play_run (c : A.Call) (p : A.Program A.Reply) (answers : ℕ → A.Answer) (s : A.State) {w : A.system.World}
    {es : List A.system.Event} (run : System.Run (S := A.system) w es (solo c p s)) :
    ∃ es', System.Run (S := A.system) w es' (solo c (Proc.ofExcept (play p answers s).result) (play p answers s).state) := by
  induction p generalizing answers s es with
  | done a => exact ⟨es, run⟩
  | fail e => exact ⟨es, run⟩
  | exec op next ih =>
    have hlocks := solo_locks run
    rw [play]
    cases h : A.perform op s with
    | ok r =>
      obtain ⟨a, s'⟩ := r
      rw [h] at hlocks
      have hwrite := System.Step.write (S := A.system) (w := ⟨s, [(c, .inTx op [()] [] (.write s' (.done a)) next)]⟩) (i := 0) rfl
        fun k _ => solo_free s _ k
      have hcommit := System.Step.commit (S := A.system) (w := ⟨s, [(c, .inTx op [(), ()] [s'] (.done a) next)]⟩) (i := 0) rfl
      exact ih (.ok a) answers s' ((hlocks.step hwrite).step hcommit)
    | error e =>
      rw [h] at hlocks
      have hroll := System.Step.rollback (S := A.system) (w := ⟨s, [(c, .inTx op [()] [] (.fail e) next)]⟩) (i := 0) rfl
      exact ih (.error e) answers s (hlocks.step hroll)
  | call c' next ih =>
    exact ih (.error A.lost) answers s (run.step (System.Step.unsent (S := A.system) (w := solo c (.call c' next) s) (i := 0) rfl))
  | ask next ih =>
    exact ih (answers 0) _ s (run.step (System.Step.answer (S := A.system) (w := solo c (.ask next) s) (i := 0) rfl (answers 0)))

end Runs

end Rowdb.Atomic
