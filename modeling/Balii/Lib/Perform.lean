import Balii.Lib.Guarantee
/-!
# Perform — one call from beginning to end

`Step` moves all sessions at once.  `Performs` follows one procedure: the commits it makes, the calls it waits for, and in
between whatever the others commit.  Every call that returns in a run was performed so (`Run.performed`), and what a
procedure does is read off its program by the lemmas on `bind`, `trans` and `request`.
-/
namespace Rowdb.System

/-- What may happen while a procedure is performed. -/
structure Regime (S : System) where
  /-- The commits it makes itself. -/
  own : S.Commit → Prop
  /-- The commits others make in between. -/
  others : S.Commit → Prop
  /-- How a call to another service may end for the caller. -/
  reply : Except S.Err S.Reply → Prop
  /-- Whether the answer to a commit may be lost, or the process die. -/
  mayFail : Prop

variable {S : System}

abbrev Program (S : System) (α : Type) : Type := Proc S.Op S.Res S.Call S.Reply S.Answer S.Err α

/-- **The procedure, begun at one state, ends with the result at another.** -/
inductive Performs (R : S.Regime) : {α : Type} → S.Program α → S.State → Except S.Err α → S.State → Prop
  | done {α : Type} (a : α) (s : S.State) : Performs R (.done a) s (.ok a) s
  | fail {α : Type} (e : S.Err) (s : S.State) : Performs R (.fail e : S.Program α) s (.error e) s
  | commit {α : Type} {op : S.Op} {next : Except S.Err (S.Res op) → S.Program α} {s s' : S.State} {r : Except S.Err α}
      (call : S.Call) (o : Outcome S.Key S.Write (S.Res op)) (hc : R.own ⟨call, op, s, o⟩)
      (rest : Performs R (next (.ok o.val)) (Tx.applyAll S.Row o.writes s) r s') : Performs R (.exec op next) s r s'
  | unheard {α : Type} {op : S.Op} {next : Except S.Err (S.Res op) → S.Program α} {s s' : S.State} {r : Except S.Err α}
      (call : S.Call) (o : Outcome S.Key S.Write (S.Res op)) (hc : R.own ⟨call, op, s, o⟩) (hf : R.mayFail)
      (rest : Performs R (next (.error S.lost)) (Tx.applyAll S.Row o.writes s) r s') : Performs R (.exec op next) s r s'
  | rollback {α : Type} {op : S.Op} {next : Except S.Err (S.Res op) → S.Program α} {s s' : S.State} {r : Except S.Err α}
      (e : S.Err) (rest : Performs R (next (.error e)) s r s') : Performs R (.exec op next) s r s'
  | call {α : Type} {c : S.Call} {next : Except S.Err S.Reply → S.Program α} {q : Except S.Err S.Reply} {s s₁ s' : S.State}
      {r : Except S.Err α} (hq : R.reply q) (callee : Performs R (S.proc c) s q s₁) (rest : Performs R (next q) s₁ r s') :
      Performs R (.call c next) s r s'
  | cut {α : Type} {c : S.Call} {next : Except S.Err S.Reply → S.Program α} {q : Except S.Err S.Reply} {s s₁ s' : S.State}
      {r : Except S.Err α} (hq : R.reply (.error S.lost)) (callee : Performs R (S.proc c) s q s₁)
      (rest : Performs R (next (.error S.lost)) s₁ r s') : Performs R (.call c next) s r s'
  | unsent {α : Type} {c : S.Call} {next : Except S.Err S.Reply → S.Program α} {s s' : S.State} {r : Except S.Err α}
      (hq : R.reply (.error S.lost)) (rest : Performs R (next (.error S.lost)) s r s') : Performs R (.call c next) s r s'
  | ask {α : Type} {next : S.Answer → S.Program α} {s s' : S.State} {r : Except S.Err α} (a : S.Answer)
      (rest : Performs R (next a) s r s') : Performs R (.ask next) s r s'
  | elsewhere {α : Type} {p : S.Program α} {s s' : S.State} {r : Except S.Err α} (c : S.Commit) (hc : R.others c)
      (hb : c.before = s) (rest : Performs R p c.after r s') : Performs R p s r s'
  | dies {α : Type} (p : S.Program α) (s : S.State) (hf : R.mayFail) : Performs R p s (.error S.lost) s

namespace Performs

variable {R : S.Regime} {α β : Type} {s s' : S.State}

/-- **A sequence is performed part by part**, or its first part ends it. -/
theorem of_bind {p : S.Program α} {f : α → S.Program β} {r : Except S.Err β} (h : Performs R (p.bind f) s r s') :
    (∃ a s₁, Performs R p s (.ok a) s₁ ∧ Performs R (f a) s₁ r s') ∨ ∃ e, r = .error e ∧ Performs R p s (.error e) s' := by
  generalize hq : p.bind f = q at h
  induction h generalizing p with
  | done b s =>
    cases p with
    | done a => exact .inl ⟨a, s, .done a s, by rw [show f a = _ from hq]; exact .done b s⟩
    | _ => cases hq
  | fail e s =>
    cases p with
    | done a => exact .inl ⟨a, s, .done a s, by rw [show f a = _ from hq]; exact .fail e s⟩
    | fail e' => cases hq; exact .inr ⟨e, rfl, .fail e s⟩
    | _ => cases hq
  | @commit _ op next s s' r call o hc rest ih =>
    cases p with
    | done a => exact .inl ⟨a, s, .done a s, by rw [show f a = _ from hq]; exact .commit call o hc rest⟩
    | exec op' next' =>
      cases hq
      rcases ih rfl with ⟨a, s₁, h1, h2⟩ | ⟨e, he, h1⟩
      · exact .inl ⟨a, s₁, .commit call o hc h1, h2⟩
      · exact .inr ⟨e, he, .commit call o hc h1⟩
    | _ => cases hq
  | @unheard _ op next s s' r call o hc hf rest ih =>
    cases p with
    | done a => exact .inl ⟨a, s, .done a s, by rw [show f a = _ from hq]; exact .unheard call o hc hf rest⟩
    | exec op' next' =>
      cases hq
      rcases ih rfl with ⟨a, s₁, h1, h2⟩ | ⟨e, he, h1⟩
      · exact .inl ⟨a, s₁, .unheard call o hc hf h1, h2⟩
      · exact .inr ⟨e, he, .unheard call o hc hf h1⟩
    | _ => cases hq
  | @rollback _ op next s s' r e rest ih =>
    cases p with
    | done a => exact .inl ⟨a, s, .done a s, by rw [show f a = _ from hq]; exact .rollback e rest⟩
    | exec op' next' =>
      cases hq
      rcases ih rfl with ⟨a, s₁, h1, h2⟩ | ⟨e', he, h1⟩
      · exact .inl ⟨a, s₁, .rollback e h1, h2⟩
      · exact .inr ⟨e', he, .rollback e h1⟩
    | _ => cases hq
  | @call _ c next q s s₁ s' r hr callee rest _ ih =>
    cases p with
    | done a => exact .inl ⟨a, s, .done a s, by rw [show f a = _ from hq]; exact .call hr callee rest⟩
    | call c' next' =>
      cases hq
      rcases ih rfl with ⟨a, s₂, h1, h2⟩ | ⟨e, he, h1⟩
      · exact .inl ⟨a, s₂, .call hr callee h1, h2⟩
      · exact .inr ⟨e, he, .call hr callee h1⟩
    | _ => cases hq
  | @cut _ c next q s s₁ s' r hr callee rest _ ih =>
    cases p with
    | done a => exact .inl ⟨a, s, .done a s, by rw [show f a = _ from hq]; exact .cut hr callee rest⟩
    | call c' next' =>
      cases hq
      rcases ih rfl with ⟨a, s₂, h1, h2⟩ | ⟨e, he, h1⟩
      · exact .inl ⟨a, s₂, .cut hr callee h1, h2⟩
      · exact .inr ⟨e, he, .cut hr callee h1⟩
    | _ => cases hq
  | @unsent _ c next s s' r hr rest ih =>
    cases p with
    | done a => exact .inl ⟨a, s, .done a s, by rw [show f a = _ from hq]; exact .unsent hr rest⟩
    | call c' next' =>
      cases hq
      rcases ih rfl with ⟨a, s₂, h1, h2⟩ | ⟨e, he, h1⟩
      · exact .inl ⟨a, s₂, .unsent hr h1, h2⟩
      · exact .inr ⟨e, he, .unsent hr h1⟩
    | _ => cases hq
  | @ask _ next s s' r a rest ih =>
    cases p with
    | done b => exact .inl ⟨b, s, .done b s, by rw [show f b = _ from hq]; exact .ask a rest⟩
    | ask next' =>
      cases hq
      rcases ih rfl with ⟨b, s₁, h1, h2⟩ | ⟨e, he, h1⟩
      · exact .inl ⟨b, s₁, .ask a h1, h2⟩
      · exact .inr ⟨e, he, .ask a h1⟩
    | _ => cases hq
  | @elsewhere _ q s s' r c hc hb rest ih =>
    rcases ih hq with ⟨a, s₁, h1, h2⟩ | ⟨e, he, h1⟩
    · exact .inl ⟨a, s₁, .elsewhere c hc hb h1, h2⟩
    · exact .inr ⟨e, he, .elsewhere c hc hb h1⟩
  | dies q s hf => exact .inr ⟨S.lost, rfl, .dies p s hf⟩

/-- **`try … catch`**: the body is performed and answers, or it throws and the handler is performed. -/
theorem of_catching {p : S.Program α} {f : S.Err → S.Program α} {r : Except S.Err α} (h : Performs R (p.catching f) s r s') :
    (∃ a, r = .ok a ∧ Performs R p s (.ok a) s') ∨ (∃ e s₁, Performs R p s (.error e) s₁ ∧ Performs R (f e) s₁ r s') ∨
      r = .error S.lost := by
  generalize hq : p.catching f = q at h
  induction h with
  | done b s =>
    cases p with
    | done a => cases hq; exact .inl ⟨_, rfl, .done _ s⟩
    | fail e => exact .inr (.inl ⟨e, s, .fail e s, by rw [show f e = _ from hq]; exact .done b s⟩)
    | _ => cases hq
  | fail e s =>
    cases p with
    | fail e' => exact .inr (.inl ⟨e', s, .fail e' s, by rw [show f e' = _ from hq]; exact .fail e s⟩)
    | _ => cases hq
  | @commit _ op next s s' r call o hc rest ih =>
    cases p with
    | fail e => exact .inr (.inl ⟨e, s, .fail e s, by rw [show f e = _ from hq]; exact .commit call o hc rest⟩)
    | exec op' next' =>
      cases hq
      exact (ih rfl).imp (fun ⟨a, ha, h1⟩ => ⟨a, ha, .commit call o hc h1⟩)
        (.imp_left fun ⟨e, s₁, h1, h2⟩ => ⟨e, s₁, .commit call o hc h1, h2⟩)
    | _ => cases hq
  | @unheard _ op next s s' r call o hc hf rest ih =>
    cases p with
    | fail e => exact .inr (.inl ⟨e, s, .fail e s, by rw [show f e = _ from hq]; exact .unheard call o hc hf rest⟩)
    | exec op' next' =>
      cases hq
      exact (ih rfl).imp (fun ⟨a, ha, h1⟩ => ⟨a, ha, .unheard call o hc hf h1⟩)
        (.imp_left fun ⟨e, s₁, h1, h2⟩ => ⟨e, s₁, .unheard call o hc hf h1, h2⟩)
    | _ => cases hq
  | @rollback _ op next s s' r e rest ih =>
    cases p with
    | fail e' => exact .inr (.inl ⟨e', s, .fail e' s, by rw [show f e' = _ from hq]; exact .rollback e rest⟩)
    | exec op' next' =>
      cases hq
      exact (ih rfl).imp (fun ⟨a, ha, h1⟩ => ⟨a, ha, .rollback e h1⟩)
        (.imp_left fun ⟨e', s₁, h1, h2⟩ => ⟨e', s₁, .rollback e h1, h2⟩)
    | _ => cases hq
  | @call _ c next q s s₁ s' r hr callee rest _ ih =>
    cases p with
    | fail e => exact .inr (.inl ⟨e, s, .fail e s, by rw [show f e = _ from hq]; exact .call hr callee rest⟩)
    | call c' next' =>
      cases hq
      exact (ih rfl).imp (fun ⟨a, ha, h1⟩ => ⟨a, ha, .call hr callee h1⟩)
        (.imp_left fun ⟨e, s₂, h1, h2⟩ => ⟨e, s₂, .call hr callee h1, h2⟩)
    | _ => cases hq
  | @cut _ c next q s s₁ s' r hr callee rest _ ih =>
    cases p with
    | fail e => exact .inr (.inl ⟨e, s, .fail e s, by rw [show f e = _ from hq]; exact .cut hr callee rest⟩)
    | call c' next' =>
      cases hq
      exact (ih rfl).imp (fun ⟨a, ha, h1⟩ => ⟨a, ha, .cut hr callee h1⟩)
        (.imp_left fun ⟨e, s₂, h1, h2⟩ => ⟨e, s₂, .cut hr callee h1, h2⟩)
    | _ => cases hq
  | @unsent _ c next s s' r hr rest ih =>
    cases p with
    | fail e => exact .inr (.inl ⟨e, s, .fail e s, by rw [show f e = _ from hq]; exact .unsent hr rest⟩)
    | call c' next' =>
      cases hq
      exact (ih rfl).imp (fun ⟨a, ha, h1⟩ => ⟨a, ha, .unsent hr h1⟩)
        (.imp_left fun ⟨e, s₁, h1, h2⟩ => ⟨e, s₁, .unsent hr h1, h2⟩)
    | _ => cases hq
  | @ask _ next s s' r a rest ih =>
    cases p with
    | fail e => exact .inr (.inl ⟨e, s, .fail e s, by rw [show f e = _ from hq]; exact .ask a rest⟩)
    | ask next' =>
      cases hq
      exact (ih rfl).imp (fun ⟨b, hb, h1⟩ => ⟨b, hb, .ask a h1⟩)
        (.imp_left fun ⟨e, s₁, h1, h2⟩ => ⟨e, s₁, .ask a h1, h2⟩)
    | _ => cases hq
  | @elsewhere _ q s s' r c hc hb rest ih =>
    exact (ih hq).imp (fun ⟨a, ha, h1⟩ => ⟨a, ha, .elsewhere c hc hb h1⟩)
      (.imp_left fun ⟨e, s₁, h1, h2⟩ => ⟨e, s₁, .elsewhere c hc hb h1, h2⟩)
  | dies q s hf => exact .inr (.inr rfl)

/-- What every commit keeps, a procedure keeps. -/
theorem keeps {P : S.State → Prop} (hown : ∀ c : S.Commit, R.own c → P c.before → P c.after)
    (hothers : ∀ c : S.Commit, R.others c → P c.before → P c.after) {p : S.Program α} {r : Except S.Err α}
    (h : Performs R p s r s') (hs : P s) : P s' := by
  induction h with
  | commit call o hc _ ih => exact ih (hown ⟨call, _, _, o⟩ hc hs)
  | unheard call o hc _ _ ih => exact ih (hown ⟨call, _, _, o⟩ hc hs)
  | call _ _ _ ih1 ih2 => exact ih2 (ih1 hs)
  | cut _ _ _ ih1 ih2 => exact ih2 (ih1 hs)
  | rollback _ _ ih => exact ih hs
  | unsent _ _ ih => exact ih hs
  | ask _ _ ih => exact ih hs
  | elsewhere c hc hb _ ih => exact ih (hothers c hc (by rw [hb]; exact hs))
  | _ => exact hs

end Performs

/-! ## Reading a program, statement by statement -/

/-- What the others make of a state. -/
def Moved (R : S.Regime) : S.State → S.State → Prop :=
  Relation.ReflTransGen fun a b => ∃ c : S.Commit, R.others c ∧ c.before = a ∧ c.after = b

/-- What every commit of the others keeps. -/
theorem Moved.keeps {R : S.Regime} {P : S.State → Prop} (hP : ∀ c : S.Commit, R.others c → P c.before → P c.after)
    {s s' : S.State} (h : Moved R s s') (hs : P s) : P s' := by
  induction h with
  | refl => exact hs
  | tail _ h' ih =>
    obtain ⟨c, hc, rfl, rfl⟩ := h'
    exact hP c hc ih

namespace Performs

variable {R : S.Regime} {α β : Type} {s s' : S.State}

theorem of_done {a : α} {r : Except S.Err α} (h : Performs R (.done a) s r s') : Moved R s s' ∧ (r = .ok a ∨ r = .error S.lost) := by
  generalize hq : (Proc.done a : S.Program α) = q at h
  induction h with
  | done b s => cases hq; exact ⟨.refl, .inl rfl⟩
  | elsewhere c hc hb _ ih =>
    obtain ⟨h1, h2⟩ := ih hq
    exact ⟨.head ⟨c, hc, hb, rfl⟩ h1, h2⟩
  | dies => exact ⟨.refl, .inr rfl⟩
  | _ => cases hq

theorem of_fail {e : S.Err} {r : Except S.Err α} (h : Performs R (.fail e : S.Program α) s r s') :
    Moved R s s' ∧ (r = .error e ∨ r = .error S.lost) := by
  generalize hq : (Proc.fail e : S.Program α) = q at h
  induction h with
  | fail b s => cases hq; exact ⟨.refl, .inl rfl⟩
  | elsewhere c hc hb _ ih =>
    obtain ⟨h1, h2⟩ := ih hq
    exact ⟨.head ⟨c, hc, hb, rfl⟩ h1, h2⟩
  | dies => exact ⟨.refl, .inr rfl⟩
  | _ => cases hq

/-- A transaction: others commit, then it commits, or it does not, or nothing more happens. -/
theorem of_exec {op : S.Op} {next : Except S.Err (S.Res op) → S.Program α} {r : Except S.Err α}
    (h : Performs R (.exec op next) s r s') : ∃ s₁, Moved R s s₁ ∧
      ((∃ call o, R.own ⟨call, op, s₁, o⟩ ∧ (Performs R (next (.ok o.val)) (Tx.applyAll S.Row o.writes s₁) r s' ∨
          Performs R (next (.error S.lost)) (Tx.applyAll S.Row o.writes s₁) r s')) ∨
        (∃ e, Performs R (next (.error e)) s₁ r s') ∨ (r = .error S.lost ∧ s' = s₁)) := by
  generalize hq : (Proc.exec op next : S.Program α) = q at h
  induction h with
  | commit call o hc rest => cases hq; exact ⟨_, .refl, .inl ⟨call, o, hc, .inl rest⟩⟩
  | unheard call o hc _ rest => cases hq; exact ⟨_, .refl, .inl ⟨call, o, hc, .inr rest⟩⟩
  | rollback e rest => cases hq; exact ⟨_, .refl, .inr (.inl ⟨e, rest⟩)⟩
  | elsewhere c hc hb _ ih =>
    obtain ⟨s₁, h1, h2⟩ := ih hq
    exact ⟨s₁, .head ⟨c, hc, hb, rfl⟩ h1, h2⟩
  | dies => exact ⟨_, .refl, .inr (.inr ⟨rfl, rfl⟩)⟩
  | _ => cases hq

/-- A call: others commit, then it is performed for its caller, or the caller goes on without its answer. -/
theorem of_call {c : S.Call} {next : Except S.Err S.Reply → S.Program α} {r : Except S.Err α}
    (h : Performs R (.call c next) s r s') : ∃ s₁, Moved R s s₁ ∧
      ((∃ q s₂, R.reply q ∧ Performs R (S.proc c) s₁ q s₂ ∧ Performs R (next q) s₂ r s') ∨
        (R.reply (.error S.lost) ∧ ∃ s₂, (s₂ = s₁ ∨ ∃ q, Performs R (S.proc c) s₁ q s₂) ∧
          Performs R (next (.error S.lost)) s₂ r s') ∨ (r = .error S.lost ∧ s' = s₁)) := by
  generalize hq : (Proc.call c next : S.Program α) = q at h
  induction h with
  | call hr callee rest => cases hq; exact ⟨_, .refl, .inl ⟨_, _, hr, callee, rest⟩⟩
  | cut hr callee rest => cases hq; exact ⟨_, .refl, .inr (.inl ⟨hr, _, .inr ⟨_, callee⟩, rest⟩)⟩
  | unsent hr rest => cases hq; exact ⟨_, .refl, .inr (.inl ⟨hr, _, .inl rfl, rest⟩)⟩
  | elsewhere c hc hb _ ih =>
    obtain ⟨s₁, h1, h2⟩ := ih hq
    exact ⟨s₁, .head ⟨c, hc, hb, rfl⟩ h1, h2⟩
  | dies => exact ⟨_, .refl, .inr (.inr ⟨rfl, rfl⟩)⟩
  | _ => cases hq

/-- A transaction whose result is passed on. -/
theorem of_trans {op : S.Op} {r : Except S.Err (S.Res op)} (h : Performs R (Proc.trans op) s r s') :
    ∃ s₁ s₂, Moved R s s₁ ∧ Moved R s₂ s' ∧ ((∃ call o, R.own ⟨call, op, s₁, o⟩ ∧ s₂ = Tx.applyAll S.Row o.writes s₁ ∧
        (r = .ok o.val ∨ r = .error S.lost)) ∨ (s₂ = s₁ ∧ ∃ e, r = .error e)) := by
  obtain ⟨s₁, h1, ⟨call, o, hc, h2 | h2⟩ | ⟨e, h2⟩ | ⟨rfl, rfl⟩⟩ := of_exec h
  · obtain ⟨h3, h4⟩ := of_done h2
    exact ⟨s₁, _, h1, h3, .inl ⟨call, o, hc, rfl, h4⟩⟩
  · obtain ⟨h3, h4⟩ := of_fail h2
    exact ⟨s₁, _, h1, h3, .inl ⟨call, o, hc, rfl, .inr (h4.elim id id)⟩⟩
  · obtain ⟨h3, h4⟩ := of_fail h2
    exact ⟨s₁, s₁, h1, h3, .inr ⟨rfl, h4.elim (fun h => ⟨_, h⟩) fun h => ⟨_, h⟩⟩⟩
  · exact ⟨_, _, h1, .refl, .inr ⟨rfl, _, rfl⟩⟩

/-- A sequence that ends well: so does its first part. -/
theorem of_bind_ok {p : S.Program α} {f : α → S.Program β} {b : β} (h : Performs R (p >>= f) s (.ok b) s') :
    ∃ a s₁, Performs R p s (.ok a) s₁ ∧ Performs R (f a) s₁ (.ok b) s' := by
  rcases of_bind h with ⟨a, s₁, h1, h2⟩ | ⟨e, he, _⟩
  · exact ⟨a, s₁, h1, h2⟩
  · cases he

theorem of_trans_ok {op : S.Op} {a : S.Res op} (h : Performs R (Proc.trans op) s (.ok a) s') :
    ∃ s₁ call o, Moved R s s₁ ∧ R.own ⟨call, op, s₁, o⟩ ∧ a = o.val ∧ Moved R (Tx.applyAll S.Row o.writes s₁) s' := by
  obtain ⟨s₁, s₂, h1, h2, ⟨call, o, hc, rfl, hr⟩ | ⟨_, e, he⟩⟩ := of_trans h
  · rcases hr with hr | hr
    · cases hr
      exact ⟨s₁, call, o, h1, hc, rfl, h2⟩
    · cases hr
  · cases he

theorem of_need {x : Option α} {e : S.Err} {r : Except S.Err α} (h : Performs R (Proc.need x e) s r s') :
    Moved R s s' ∧ ((∃ a, x = some a ∧ r = .ok a) ∨ ∃ e', r = .error e') := by
  cases x with
  | none =>
    obtain ⟨h1, h2⟩ := of_fail h
    exact ⟨h1, .inr (h2.elim (fun h => ⟨_, h⟩) fun h => ⟨_, h⟩)⟩
  | some a =>
    obtain ⟨h1, h2⟩ := of_done h
    exact ⟨h1, h2.elim (fun h => .inl ⟨a, rfl, h⟩) fun h => .inr ⟨_, h⟩⟩

theorem of_ensure {c : Prop} [Decidable c] {e : S.Err} {r : Except S.Err Unit} (h : Performs R (Proc.ensure c e) s r s') :
    Moved R s s' ∧ (c ∧ r = .ok () ∨ ∃ e', r = .error e') := by
  unfold Proc.ensure at h
  split at h
  · rename_i hc
    obtain ⟨h1, h2⟩ := of_done h
    exact ⟨h1, h2.elim (fun h => .inl ⟨hc, h⟩) fun h => .inr ⟨_, h⟩⟩
  · obtain ⟨h1, h2⟩ := of_fail h
    exact ⟨h1, .inr (h2.elim (fun h => ⟨_, h⟩) fun h => ⟨_, h⟩)⟩

end Performs

/-! ## Calls of a run are performed -/

/-- Everybody commits what `Ok` allows, and anything can get lost. -/
def Regime.open (Ok : S.Commit → Prop) : S.Regime := ⟨Ok, Ok, fun _ => True, True⟩

section Adequacy
variable {Ok : S.Commit → Prop}

/-- Others may commit after the last step as well. -/
theorem Performs.later {α : Type} {p : S.Program α} {s s' : S.State} {r : Except S.Err α}
    (h : Performs (Regime.open Ok) p s r s') {c : S.Commit} (hc : Ok c) (hb : c.before = s') :
    Performs (Regime.open Ok) p s r c.after := by
  induction h with
  | done a s => exact .elsewhere c hc hb (.done a _)
  | fail e s => exact .elsewhere c hc hb (.fail e _)
  | commit call o ho _ ih => exact .commit call o ho (ih hb)
  | unheard call o ho hf _ ih => exact .unheard call o ho hf (ih hb)
  | rollback e _ ih => exact .rollback e (ih hb)
  | call hq callee _ _ ih => exact .call hq callee (ih hb)
  | cut hq callee _ _ ih => exact .cut hq callee (ih hb)
  | unsent hq _ ih => exact .unsent hq (ih hb)
  | ask a _ ih => exact .ask a (ih hb)
  | elsewhere c' hc' hb' _ ih => exact .elsewhere c' hc' hb' (ih hb)
  | dies p s hf => exact .elsewhere c hc hb (.dies p _ hf)

/-- What is performed from the later state is performed from the earlier one: others commit first. -/
def Leads (Ok : S.Commit → Prop) (a b : S.State) : Prop :=
  ∀ {α : Type} (p : S.Program α) (r : Except S.Err α) (s' : S.State), Performs (Regime.open Ok) p b r s' →
    Performs (Regime.open Ok) p a r s'

/-- How far the session of a call has got: what is left of it, performed from here, makes the call performed from where it
arrived. -/
def Session.Tracks (Ok : S.Commit → Prop) (w : S.World) (origin : ℕ → S.State) (s₀ : S.State) (c : S.Call) : S.Session → Prop
  | .ready p => ∀ r s', Performs (Regime.open Ok) p w.db r s' → Performs (Regime.open Ok) (S.proc c) s₀ r s'
  | .inTx op _ _ _ next => ∀ r s', Performs (Regime.open Ok) (.exec op next) w.db r s' →
      Performs (Regime.open Ok) (S.proc c) s₀ r s'
  | .waiting j next => ∃ c' x, w.sessions[j]? = some (c', x) ∧
      ∀ r s', Performs (Regime.open Ok) (.call c' next) (origin j) r s' → Performs (Regime.open Ok) (S.proc c) s₀ r s'
  | .finished q => Performs (Regime.open Ok) (S.proc c) s₀ q w.db
  | .crashed => True

/-- Every session is tracked from the state its call arrived at. -/
def World.Tracked (Ok : S.Commit → Prop) (w : S.World) (origin : ℕ → S.State) : Prop :=
  ∀ i c x, w.sessions[i]? = some (c, x) → x.Tracks Ok w origin (origin i) c ∧ Leads Ok (origin i) w.db

variable {w : S.World} {origin : ℕ → S.State} {i : ℕ} {c : S.Call}

theorem World.put_sessions_call {x y : S.Session} {j : ℕ} {c' : S.Call} (h : w.sessions[j]? = some (c', x)) :
    ∃ x', (w.put i y).sessions[j]? = some (c', x') := by
  rw [World.put_sessions, h, Option.map_some]
  split
  · exact ⟨y, rfl⟩
  · exact ⟨x, rfl⟩

/-- A session goes on, and nothing else happens. -/
theorem World.Tracked.put {x y : S.Session} (h : w.Tracked Ok origin) (hi : w.sessions[i]? = some (c, x))
    (hy : y.Tracks Ok (w.put i y) origin (origin i) c) : (w.put i y).Tracked Ok origin := by
  intro j c' x' hj
  by_cases hij : i = j
  · subst hij
    rw [World.put_sessions, hi, Option.map_some, if_pos rfl] at hj
    cases hj
    exact ⟨hy, (h i c x hi).2⟩
  · rw [World.put_ne hij] at hj
    obtain ⟨h1, h2⟩ := h j c' x' hj
    refine ⟨?_, h2⟩
    cases x' with
    | waiting k next =>
      obtain ⟨d, z, hd, hrest⟩ := h1
      obtain ⟨z', hz'⟩ := World.put_sessions_call (i := i) (y := y) hd
      exact ⟨d, z', hz', hrest⟩
    | _ => exact h1

/-- A call arrives. -/
theorem World.Tracked.spawn (h : w.Tracked Ok origin) (c : S.Call) :
    (w.spawn c).Tracked Ok (Function.update origin w.sessions.length w.db) := by
  intro j c' x' hj
  unfold World.spawn at hj
  rw [List.getElem?_append] at hj
  split at hj
  · rename_i hlt
    obtain ⟨h1, h2⟩ := h j c' x' hj
    rw [Function.update_of_ne (Nat.ne_of_lt hlt)]
    refine ⟨?_, h2⟩
    cases x' with
    | waiting k next =>
      obtain ⟨d, z, hd, hrest⟩ := h1
      have hk : k < w.sessions.length := (List.getElem?_eq_some_iff.1 hd).1
      refine ⟨d, z, ?_, ?_⟩
      · unfold World.spawn
        rw [List.getElem?_append_left hk]
        exact hd
      · rw [Function.update_of_ne (Nat.ne_of_lt hk)]
        exact hrest
    | _ => exact h1
  · rename_i hge
    rw [List.getElem?_singleton] at hj
    split at hj
    · rename_i heq
      cases hj
      rw [show j = w.sessions.length by omega, Function.update_self]
      exact ⟨fun r s' hp => hp, fun p r s' hp => hp⟩
    · cases hj

/-- One session commits; for all the others somebody else did. -/
theorem World.Tracked.commit {x : S.Session} {p : S.Code} (h : w.Tracked Ok origin) (hi : w.sessions[i]? = some (c, x))
    (d : S.Commit) (hd : Ok d) (hb : d.before = w.db) (hp : ∀ r s', Performs (Regime.open Ok) p d.after r s' →
      Performs (Regime.open Ok) (S.proc c) (origin i) r s') :
    (World.put { w with db := d.after } i (.ready p)).Tracked Ok origin := by
  intro j c' x' hj
  have hleads : Leads Ok (origin j) w.db → Leads Ok (origin j) d.after := fun h _ p r s' hs =>
    h p r s' (.elsewhere d hd hb hs)
  by_cases hij : i = j
  · subst hij
    rw [World.put_sessions] at hj
    dsimp only at hj
    rw [hi, Option.map_some, if_pos rfl] at hj
    cases hj
    exact ⟨hp, hleads (h i c x hi).2⟩
  · rw [World.put_ne hij] at hj
    obtain ⟨h1, h2⟩ := h j c' x' hj
    refine ⟨?_, hleads h2⟩
    cases x' with
    | ready q => exact fun r s' hs => h1 r s' (.elsewhere d hd hb hs)
    | inTx op L ws rest next => exact fun r s' hs => h1 r s' (.elsewhere d hd hb hs)
    | waiting k next =>
      obtain ⟨e, z, he, hrest⟩ := h1
      obtain ⟨z', hz'⟩ := World.put_sessions_call (w := { w with db := d.after }) (i := i) (y := .ready p) he
      exact ⟨e, z', hz', hrest⟩
    | finished q => exact Performs.later h1 hd hb
    | crashed => trivial

/-- **Every step keeps the sessions tracked.** -/
theorem Step.tracked {w' : S.World} {es : List S.Event} (step : Step w es w') (h : w.Tracked Ok origin)
    (hok : ∀ c : S.Commit, .commit c ∈ es → Ok c) :
    (∃ origin', w'.Tracked Ok origin') ∧
      ∀ c r db, .returned c r db ∈ es → ∃ s₀, Performs (Regime.open Ok) (S.proc c) s₀ r db := by
  have hnone : ∀ {es : List S.Event}, es = [] →
      ∀ c r db, .returned c r db ∈ es → ∃ s₀, Performs (Regime.open Ok) (S.proc c) s₀ r db := by
    rintro _ rfl c r db h
    cases h
  cases step with
  | spawn c => exact ⟨⟨_, h.spawn c⟩, hnone rfl⟩
  | «begin» hi => exact ⟨⟨origin, h.put hi (h _ _ _ hi).1⟩, hnone rfl⟩
  | lock hi _ => exact ⟨⟨origin, h.put hi (h _ _ _ hi).1⟩, hnone rfl⟩
  | write hi _ => exact ⟨⟨origin, h.put hi (h _ _ _ hi).1⟩, hnone rfl⟩
  | peek hi => exact ⟨⟨origin, h.put hi (h _ _ _ hi).1⟩, hnone rfl⟩
  | @commit i c op L ws a next hi =>
    have hd := hok _ List.mem_cons_self
    refine ⟨⟨origin, h.commit hi ⟨c, op, w.db, ⟨a, L, ws⟩⟩ hd rfl fun r s' hs => ?_⟩, fun c r db hr => ?_⟩
    · exact (h _ _ _ hi).1 r s' (.commit c ⟨a, L, ws⟩ hd hs)
    · cases List.mem_singleton.1 hr
  | @commitUnheard i c op L ws a next hi =>
    have hd := hok _ List.mem_cons_self
    refine ⟨⟨origin, h.commit hi ⟨c, op, w.db, ⟨a, L, ws⟩⟩ hd rfl fun r s' hs => ?_⟩, fun c r db hr => ?_⟩
    · exact (h _ _ _ hi).1 r s' (.unheard c ⟨a, L, ws⟩ hd trivial hs)
    · cases List.mem_singleton.1 hr
  | @rollback i c op L ws e next hi =>
    refine ⟨⟨origin, h.put hi fun r s' hs => (h _ _ _ hi).1 r s' (.rollback e hs)⟩, fun c r db hr => ?_⟩
    cases List.mem_singleton.1 hr
  | abort hi => exact ⟨⟨origin, h.put hi fun r s' hs => (h _ _ _ hi).1 r s' (.rollback S.lost hs)⟩, hnone rfl⟩
  | @send i c c' next hi =>
    refine ⟨⟨Function.update origin w.sessions.length w.db, ?_⟩, hnone rfl⟩
    have hlt : i < w.sessions.length := (List.getElem?_eq_some_iff.1 hi).1
    have hspawn := h.spawn c'
    have hi' : (w.spawn c').sessions[i]? = some (c, .ready (.call c' next)) := by
      unfold World.spawn
      rw [List.getElem?_append_left hlt]
      exact hi
    have hput : ((w.put i (.waiting w.sessions.length next)).spawn c') = ((w.spawn c').put i (.waiting w.sessions.length next)) := by
      unfold World.spawn World.put
      congr 1
      have hlt' : i < (w.sessions ++ [(c', Session.ready (S.proc c'))]).length := by
        rw [List.length_append]
        omega
      rw [List.modify_eq_take_cons_drop hlt, List.modify_eq_take_cons_drop hlt', List.take_append_of_le_length (Nat.le_of_lt hlt),
        List.drop_append_of_le_length hlt, List.getElem_append_left hlt, List.append_assoc, List.cons_append]
    rw [hput]
    refine hspawn.put hi' ⟨c', .ready (S.proc c'), ?_, fun r s' hs => ?_⟩
    · rw [World.put_ne (Nat.ne_of_lt hlt)]
      unfold World.spawn
      rw [List.getElem?_append_right (Nat.le_refl _), Nat.sub_self]
      rfl
    · rw [Function.update_self] at hs
      rw [Function.update_of_ne (Nat.ne_of_lt hlt)]
      exact (h _ _ _ hi).1 r s' hs
  | unsent hi => exact ⟨⟨origin, h.put hi fun r s' hs => (h _ _ _ hi).1 r s' (.unsent trivial hs)⟩, hnone rfl⟩
  | @reply i j c c' next q hi hj =>
    refine ⟨⟨origin, h.put hi fun r s' hs => ?_⟩, hnone rfl⟩
    obtain ⟨d, x, hd, hrest⟩ := (h _ _ _ hi).1
    cases Option.some.inj (hd.symm.trans hj)
    exact hrest r s' (.call trivial (h _ _ _ hj).1 hs)
  | @timeout i j c next hi =>
    refine ⟨⟨origin, h.put hi fun r s' hs => ?_⟩, hnone rfl⟩
    obtain ⟨d, x, hd, hrest⟩ := (h _ _ _ hi).1
    exact hrest r s' ((h _ _ _ hd).2 _ _ _ (.unsent trivial hs))
  | answer hi a => exact ⟨⟨origin, h.put hi fun r s' hs => (h _ _ _ hi).1 r s' (.ask a hs)⟩, hnone rfl⟩
  | @returns i c a hi =>
    have hp := (h _ _ _ hi).1 (.ok a) w.db (.done a w.db)
    refine ⟨⟨origin, h.put hi hp⟩, fun c r db hr => ?_⟩
    cases List.mem_singleton.1 hr
    exact ⟨_, hp⟩
  | @raises i c e hi =>
    have hp := (h _ _ _ hi).1 (.error e) w.db (.fail e w.db)
    refine ⟨⟨origin, h.put hi hp⟩, fun c r db hr => ?_⟩
    cases List.mem_singleton.1 hr
    exact ⟨_, hp⟩
  | crash hi => exact ⟨⟨origin, h.put hi trivial⟩, hnone rfl⟩

/-- **Every call that returned was performed**: its commits and the others' are commits of the run. -/
theorem Run.performed {s : S.State} {es : List S.Event} {w : S.World} (run : Run (quiet s) es w)
    (hok : ∀ c : S.Commit, .commit c ∈ es → Ok c) :
    (∃ origin, w.Tracked Ok origin) ∧
      ∀ c r db, .returned c r db ∈ es → ∃ s₀, Performs (Regime.open Ok) (S.proc c) s₀ r db := by
  induction run with
  | start => exact ⟨⟨fun _ => s, fun i c x h => nomatch h⟩, fun c r db h => nomatch h⟩
  | @step es es' w w' run step ih =>
    obtain ⟨⟨origin, horigin⟩, hall⟩ := ih fun c hc => hok c (List.mem_append_left _ hc)
    obtain ⟨htracked, hnew⟩ := step.tracked horigin fun c hc => hok c (List.mem_append_right _ hc)
    refine ⟨htracked, fun c r db h => ?_⟩
    rcases List.mem_append.1 h with h | h
    · exact hall c r db h
    · exact hnew c r db h

end Adequacy

end Rowdb.System
