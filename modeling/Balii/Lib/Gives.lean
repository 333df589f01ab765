import Balii.Lib.Atomic
/-!
# Gives — what a program can end with, whoever is about

An operation meets any of the states that are about, a question gets any of the answers that are given, and whatever is asked of
another service can come back in any way.  What a call of a run has returned is what its program gives on the states of the run.
-/
namespace Rowdb.Atomic

variable {A : Atomic} {α β : Type} {S : A.State → Prop} {Given : A.Answer → Prop}

/-- **What a program can end with**, its operations done on states of `S` and its questions answered as `Given` says. -/
inductive Gives (S : A.State → Prop) (Given : A.Answer → Prop) {α : Type} : A.Program α → Except A.Err α → Prop
  | done (a : α) : Gives S Given (.done a) (.ok a)
  | fail (e : A.Err) : Gives S Given (.fail e) (.error e)
  | exec {op : A.Op} {next : Except A.Err (A.Res op) → A.Program α} {s s' : A.State} {a : A.Res op} {r : Except A.Err α} (hs : S s)
      (hperf : A.perform op s = .ok (a, s')) (h : Gives S Given (next (.ok a)) r) : Gives S Given (.exec op next) r
  /-- The operation has failed, or its result got lost. -/
  | lost {op : A.Op} {next : Except A.Err (A.Res op) → A.Program α} {e : A.Err} {r : Except A.Err α}
      (h : Gives S Given (next (.error e)) r) : Gives S Given (.exec op next) r
  | call {c : A.Call} {next : Except A.Err A.Reply → A.Program α} (reply : Except A.Err A.Reply) {r : Except A.Err α}
      (h : Gives S Given (next reply) r) : Gives S Given (.call c next) r
  | ask {next : A.Answer → A.Program α} {a : A.Answer} {r : Except A.Err α} (ha : Given a) (h : Gives S Given (next a) r) :
      Gives S Given (.ask next) r

section Rules

/-- **A sequence gives what its second part gives**, after what its first part has given. -/
theorem gives_bind {p : A.Program α} {f : α → A.Program β} {b : β} :
    Gives S Given (p >>= f) (.ok b) ↔ ∃ a, Gives S Given p (.ok a) ∧ Gives S Given (f a) (.ok b) := by
  induction p with
  | done a =>
    refine ⟨fun h => ⟨a, .done a, h⟩, ?_⟩
    rintro ⟨_, h, hf⟩
    cases h
    exact hf
  | fail e =>
    refine ⟨fun h => (nomatch h), ?_⟩
    rintro ⟨_, h, _⟩
    cases h
  | exec op next ih =>
    constructor
    · intro h
      rcases h with _ | _ | ⟨hs, hperf, h⟩ | ⟨h⟩
      · obtain ⟨a, ha, hf⟩ := (ih _).1 h
        exact ⟨a, .exec hs hperf ha, hf⟩
      · obtain ⟨a, ha, hf⟩ := (ih _).1 h
        exact ⟨a, .lost ha, hf⟩
    · rintro ⟨a, h, hf⟩
      rcases h with _ | _ | ⟨hs, hperf, h⟩ | ⟨h⟩
      · exact .exec hs hperf ((ih _).2 ⟨a, h, hf⟩)
      · exact .lost ((ih _).2 ⟨a, h, hf⟩)
  | call c next ih =>
    constructor
    · intro h
      rcases h with _ | _ | _ | _ | ⟨reply, h⟩
      obtain ⟨a, ha, hf⟩ := (ih _).1 h
      exact ⟨a, .call reply ha, hf⟩
    · rintro ⟨a, h, hf⟩
      rcases h with _ | _ | _ | _ | ⟨reply, h⟩
      exact .call reply ((ih _).2 ⟨a, h, hf⟩)
  | ask next ih =>
    constructor
    · intro h
      rcases h with _ | _ | _ | _ | _ | ⟨ha, h⟩
      obtain ⟨a, hp, hf⟩ := (ih _).1 h
      exact ⟨a, .ask ha hp, hf⟩
    · rintro ⟨a, h, hf⟩
      rcases h with _ | _ | _ | _ | _ | ⟨ha, h⟩
      exact .ask ha ((ih _).2 ⟨a, h, hf⟩)

/-- What a `try` gives, it gives itself or by its handler. -/
theorem gives_catching {p : A.Program α} {handler : A.Err → A.Program α} {a : α} (h : Gives S Given (p.catching handler) (.ok a)) :
    Gives S Given p (.ok a) ∨ ∃ e, Gives S Given (handler e) (.ok a) := by
  induction p with
  | done a' => exact .inl h
  | fail e => exact .inr ⟨e, h⟩
  | exec op next ih =>
    rcases h with _ | _ | ⟨hs, hperf, h⟩ | ⟨h⟩
    · exact (ih _ h).imp_left (.exec hs hperf)
    · exact (ih _ h).imp_left .lost
  | call c next ih =>
    rcases h with _ | _ | _ | _ | ⟨reply, h⟩
    exact (ih _ h).imp_left (.call reply)
  | ask next ih =>
    rcases h with _ | _ | _ | _ | _ | ⟨ha, h⟩
    exact (ih _ h).imp_left (.ask ha)

/-- A `try` gives what its body gives. -/
theorem gives_catching_of {p : A.Program α} {handler : A.Err → A.Program α} {a : α} (h : Gives S Given p (.ok a)) :
    Gives S Given (p.catching handler) (.ok a) := by
  induction p with
  | done a' => exact h
  | fail e => exact absurd h fun h => (nomatch h)
  | exec op next ih =>
    rcases h with _ | _ | ⟨hs, hperf, h⟩ | ⟨h⟩
    · exact .exec hs hperf (ih _ h)
    · exact .lost (ih _ h)
  | call c next ih =>
    rcases h with _ | _ | _ | _ | ⟨reply, h⟩
    exact .call reply (ih _ h)
  | ask next ih =>
    rcases h with _ | _ | _ | _ | _ | ⟨ha, h⟩
    exact .ask ha (ih _ h)

theorem gives_pure {a b : α} : Gives S Given (pure a : A.Program α) (.ok b) ↔ b = a := by
  refine ⟨fun h => ?_, fun h => ?_⟩
  · cases h
    rfl
  · rw [h]
    exact .done a

theorem not_gives_fail {e : A.Err} {a : α} : ¬ Gives S Given (.fail e : A.Program α) (.ok a) := fun h => (nomatch h)

theorem gives_trans {op : A.Op} {a : A.Res op} :
    Gives S Given (Proc.trans op : A.Program (A.Res op)) (.ok a) ↔ ∃ s s', S s ∧ A.perform op s = .ok (a, s') := by
  constructor
  · intro h
    rcases h with _ | _ | ⟨hs, hperf, h⟩ | ⟨h⟩
    · cases h
      exact ⟨_, _, hs, hperf⟩
    · cases h
  · rintro ⟨s, s', hs, hperf⟩
    exact .exec hs hperf (.done a)

theorem gives_answer {a : A.Answer} : Gives S Given (Proc.answer : A.Program A.Answer) (.ok a) ↔ Given a := by
  constructor
  · intro h
    rcases h with _ | _ | _ | _ | _ | ⟨ha, h⟩
    cases h
    exact ha
  · exact fun ha => .ask ha (.done a)

theorem gives_ofExcept {x : Except A.Err α} {a : α} : Gives S Given (Proc.ofExcept x : A.Program α) (.ok a) ↔ x = .ok a := by
  cases x with
  | error e => exact ⟨fun h => (nomatch h), fun h => (nomatch h)⟩
  | ok a' =>
    refine gives_pure.trans ⟨fun h => ?_, fun h => ?_⟩
    · rw [h]
    · cases h
      rfl

theorem gives_ensure {c : Prop} [Decidable c] {e : A.Err} {u : Unit} :
    Gives S Given (Proc.ensure c e : A.Program Unit) (.ok u) ↔ c := by
  unfold Proc.ensure
  split
  · rename_i hc
    exact iff_of_true (.done u) hc
  · rename_i hc
    exact iff_of_false (fun h => (nomatch h)) hc

end Rules

/-! ## Runs -/

theorem Gives.mono {S' : A.State → Prop} {p : A.Program α} {r : Except A.Err α} (h : Gives S Given p r) (hS : ∀ s, S s → S' s) :
    Gives S' Given p r := by
  induction h with
  | done a => exact .done a
  | fail e => exact .fail e
  | exec hs hperf _ ih => exact .exec (hS _ hs) hperf ih
  | lost _ ih => exact .lost ih
  | call reply _ ih => exact .call reply ih
  | ask ha _ ih => exact .ask ha ih

/-- The states a call has met. -/
def Met (l : List A.Act) (s : A.State) : Prop := ∃ x ∈ l, x.before = s

/-- **A program comes to what it gives** on the states it has met. -/
theorem logs_gives (p : A.Program α) (l : List A.Act) :
    Logs (fun _ _ _ => True) p (fun l' a => Gives (Met l') (fun _ => True) p (.ok a)) l := by
  induction p generalizing l with
  | done a => exact .done a
  | fail e => trivial
  | exec op next ih =>
    refine ⟨fun n b a b' hperf => ⟨trivial, ?_, (ih _ _).mono fun _ _ h => .lost h⟩, fun e => (ih _ _).mono fun _ _ h => .lost h⟩
    refine ((ih (.ok a) (l ++ [⟨n, op, b⟩])).extends (List.prefix_refl _)).mono fun l' a' h => ?_
    exact .exec ⟨⟨n, op, b⟩, h.1.subset (by simp), rfl⟩ hperf h.2
  | call c next ih => exact fun reply => (ih _ _).mono fun _ _ h => .call reply h
  | ask next ih => exact fun a => (ih _ _).mono fun _ _ h => .ask trivial h

/-- The states a run goes through. -/
def Run.Visits {Init : A.State → Prop} (r : A.Run Init) (s : A.State) : Prop := ∃ place, s = r.state place

/-- **What a call of a run has returned** is what its program gives on the states of the run. -/
theorem Run.gives {Init : A.State → Prop} (r : A.Run Init) {n i : ℕ} {call : A.Call} {reply : A.Reply}
    (h : Returns r.trace n i call (.ok reply)) : Gives r.Visits (fun _ => True) (A.proc call) (.ok reply) := by
  obtain ⟨l, hl, hgives⟩ := (meets_all r.traced fun call => logs_gives (A.proc call) []).2 _ _ _ _ h
  refine hgives.mono fun s hs => ?_
  obtain ⟨x, hx, rfl⟩ := hs
  exact ⟨x.place, ((hl.does hx).at r.lawful).1⟩

end Rowdb.Atomic
