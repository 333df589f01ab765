import Balii.Lib.Perform
/-!
# Alone — a program with nobody else about

What a program can answer at all (`Yields`), which transactions and calls it can make (`Uses`), and what it does when the
others' commits fall before it or after it: its transactions see one state, and `runAlone` computes one way for it to go.
-/
namespace Rowdb

/-! ## What a program answers -/

namespace Proc

variable {Op : Type} {Res : Op → Type} {Call Reply Answer ε α β : Type} {Q : α → Prop}

/-- Whatever comes back to it, the program answers with nothing but what `Q` says. -/
def Yields (Q : α → Prop) : Proc Op Res Call Reply Answer ε α → Prop
  | done a => Q a
  | fail _ => True
  | exec _ next => ∀ r, (next r).Yields Q
  | call _ next => ∀ r, (next r).Yields Q
  | ask next => ∀ a, (next a).Yields Q

theorem Yields.mono {Q' : α → Prop} (h : ∀ a, Q a → Q' a) : ∀ {p : Proc Op Res Call Reply Answer ε α}, p.Yields Q → p.Yields Q'
  | done a, hp => h a hp
  | fail _, _ => trivial
  | exec _ _, hp => fun r => Yields.mono h (hp r)
  | call _ _, hp => fun r => Yields.mono h (hp r)
  | ask _, hp => fun a => Yields.mono h (hp a)

theorem yields_true : ∀ p : Proc Op Res Call Reply Answer ε α, p.Yields fun _ => True
  | done _ => trivial
  | fail _ => trivial
  | exec _ next => fun r => yields_true (next r)
  | call _ next => fun r => yields_true (next r)
  | ask next => fun a => yields_true (next a)

/-- **A sequence answers what its last part answers**, from any answer of the first. -/
theorem yields_bind {Q : β → Prop} {f : α → Proc Op Res Call Reply Answer ε β} : ∀ {p : Proc Op Res Call Reply Answer ε α},
    p.Yields (fun a => (f a).Yields Q) → (p >>= f).Yields Q
  | done _, h => h
  | fail _, _ => trivial
  | exec _ _, h => fun r => yields_bind (h r)
  | call _ _, h => fun r => yields_bind (h r)
  | ask _, h => fun a => yields_bind (h a)

theorem yields_then {Q : β → Prop} {p : Proc Op Res Call Reply Answer ε α} {f : α → Proc Op Res Call Reply Answer ε β}
    (h : ∀ a, (f a).Yields Q) : (p >>= f).Yields Q :=
  yields_bind ((yields_true p).mono fun a _ => h a)

theorem yields_pure {a : α} : (pure a : Proc Op Res Call Reply Answer ε α).Yields Q ↔ Q a := Iff.rfl

theorem yields_ofExcept {x : Except ε α} (h : ∀ a, x = .ok a → Q a) : (ofExcept x : Proc Op Res Call Reply Answer ε α).Yields Q := by
  cases x with
  | error e => trivial
  | ok a => exact h a rfl

/-! ## What a program makes use of -/

section Uses
variable {A A' : Op → Prop} {B : Call → Prop}

/-- Whatever comes back to it, the program runs only these transactions and makes only these calls. -/
def Uses (A : Op → Prop) (B : Call → Prop) : Proc Op Res Call Reply Answer ε α → Prop
  | done _ => True
  | fail _ => True
  | exec op next => A op ∧ ∀ r, (next r).Uses A B
  | call c next => B c ∧ ∀ r, (next r).Uses A B
  | ask next => ∀ a, (next a).Uses A B

theorem Uses.mono (h : ∀ op, A op → A' op) : ∀ {p : Proc Op Res Call Reply Answer ε α}, p.Uses A B → p.Uses A' B
  | done _, _ => trivial
  | fail _, _ => trivial
  | exec _ _, hp => ⟨h _ hp.1, fun r => Uses.mono h (hp.2 r)⟩
  | call _ _, hp => ⟨hp.1, fun r => Uses.mono h (hp.2 r)⟩
  | ask _, hp => fun a => Uses.mono h (hp a)

/-- A sequence uses what its parts use; the second is begun with nothing but what the first answers. -/
theorem uses_bind {f : α → Proc Op Res Call Reply Answer ε β} : ∀ {p : Proc Op Res Call Reply Answer ε α}, p.Uses A B →
    p.Yields (fun a => (f a).Uses A B) → (p >>= f).Uses A B
  | done _, _, h => h
  | fail _, _, _ => trivial
  | exec _ _, hp, h => ⟨hp.1, fun r => uses_bind (hp.2 r) (h r)⟩
  | call _ _, hp, h => ⟨hp.1, fun r => uses_bind (hp.2 r) (h r)⟩
  | ask _, hp, h => fun a => uses_bind (hp a) (h a)

theorem uses_then {p : Proc Op Res Call Reply Answer ε α} {f : α → Proc Op Res Call Reply Answer ε β} (hp : p.Uses A B)
    (h : ∀ a, (f a).Uses A B) : (p >>= f).Uses A B :=
  uses_bind hp ((yields_true p).mono fun a _ => h a)

theorem uses_ofExcept : ∀ x : Except ε α, (ofExcept x : Proc Op Res Call Reply Answer ε α).Uses A B
  | .ok _ => trivial
  | .error _ => trivial

theorem uses_need (x : Option α) (e : ε) : (need x e : Proc Op Res Call Reply Answer ε α).Uses A B := by
  cases x <;> trivial

theorem yields_need {x : Option α} {e : ε} (h : ∀ a, x = some a → Q a) : (need x e : Proc Op Res Call Reply Answer ε α).Yields Q := by
  cases x with
  | none => trivial
  | some a => exact h a rfl

theorem uses_ensure (c : Prop) [Decidable c] (e : ε) : (ensure c e : Proc Op Res Call Reply Answer ε Unit).Uses A B := by
  unfold ensure
  split <;> trivial

theorem uses_catching {h : ε → Proc Op Res Call Reply Answer ε α} (hh : ∀ e, (h e).Uses A B) :
    ∀ {p : Proc Op Res Call Reply Answer ε α}, p.Uses A B → (p.catching h).Uses A B
  | done _, _ => trivial
  | fail e, _ => hh e
  | exec _ _, hp => ⟨hp.1, fun r => uses_catching hh (hp.2 r)⟩
  | call _ _, hp => ⟨hp.1, fun r => uses_catching hh (hp.2 r)⟩
  | ask _, hp => fun a => uses_catching hh (hp a)

theorem uses_trans {op : Op} (h : A op) : (trans op : Proc Op Res Call Reply Answer ε (Res op)).Uses A B :=
  ⟨h, fun r => uses_ofExcept r⟩

end Uses

end Proc

namespace System

variable {S : System} {α β : Type}

theorem Performs.yields {R : S.Regime} {Q : α → Prop} {p : S.Program α} {s s' : S.State} {r : Except S.Err α}
    (h : Performs R p s r s') (hp : p.Yields Q) {a : α} (ha : r = .ok a) : Q a := by
  induction h with
  | done b s => cases ha; exact hp
  | fail => cases ha
  | commit call o hc rest ih => exact ih (hp _) ha
  | unheard call o hc hf rest ih => exact ih (hp _) ha
  | rollback e rest ih => exact ih (hp _) ha
  | call hq callee rest _ ih => exact ih (hp _) ha
  | cut hq callee rest _ ih => exact ih (hp _) ha
  | unsent hq rest ih => exact ih (hp _) ha
  | ask a rest ih => exact ih (hp _) ha
  | elsewhere c hc hb rest ih => exact ih hp ha
  | dies => cases ha

/-! ## With nobody else about -/

/-- Nothing moves while a transaction runs. -/
abbrev Commit.Alone (c : S.Commit) : Prop := c.Faithful (fun _ => True) (fun _ _ _ => False)

/-- The program's own transactions, one after the other, and anything can get lost. -/
def Regime.alone (S : System) : S.Regime := ⟨Commit.Alone, fun _ => False, fun _ => True, True⟩

theorem rely_alone {K : List S.Key} {a b : S.State} (h : Rely (fun _ => True) (fun _ _ _ => False) K a b) : a = b := by
  obtain ⟨_, h⟩ := h
  induction h with
  | refl => rfl
  | tail _ h _ =>
    obtain ⟨_, _, h, _⟩ := h
    exact h.elim

theorem rely_refl (K : List S.Key) (s : S.State) : Rely (fun _ => True) (fun _ _ _ => False) K s s := ⟨trivial, .refl⟩

theorem moved_alone {s s' : S.State} (h : Moved (Regime.alone S) s s') : s' = s := by
  induction h with
  | refl => rfl
  | tail _ h _ =>
    obtain ⟨_, h, _⟩ := h
    exact h.elim

namespace Performs

variable {s s' : S.State}

theorem alone_done {a : α} {r : Except S.Err α} (h : Performs (Regime.alone S) (pure a) s r s') :
    s' = s ∧ (r = .ok a ∨ r = .error S.lost) := by
  obtain ⟨h1, h2⟩ := of_done h
  exact ⟨moved_alone h1, h2⟩

theorem alone_done_ok {a b : α} (h : Performs (Regime.alone S) (pure a) s (.ok b) s') : s' = s ∧ b = a := by
  obtain ⟨hs, hr⟩ := alone_done h
  rcases hr with hr | hr
  · cases hr
    exact ⟨hs, rfl⟩
  · cases hr

theorem alone_fail {e : S.Err} {r : Except S.Err α} (h : Performs (Regime.alone S) (.fail e : S.Program α) s r s') :
    s' = s ∧ ∃ e', r = .error e' := by
  obtain ⟨h1, h2⟩ := of_fail h
  exact ⟨moved_alone h1, h2.elim (fun h => ⟨_, h⟩) fun h => ⟨_, h⟩⟩

theorem alone_need {x : Option α} {e : S.Err} {r : Except S.Err α} (h : Performs (Regime.alone S) (Proc.need x e) s r s') :
    s' = s ∧ ((∃ a, x = some a ∧ r = .ok a) ∨ ∃ e', r = .error e') := by
  obtain ⟨h1, h2⟩ := of_need h
  exact ⟨moved_alone h1, h2⟩

theorem alone_need_ok {x : Option α} {e : S.Err} {a : α} (h : Performs (Regime.alone S) (Proc.need x e) s (.ok a) s') :
    s' = s ∧ x = some a := by
  obtain ⟨hs, ⟨b, hx, hr⟩ | ⟨e', hr⟩⟩ := alone_need h
  · cases hr
    exact ⟨hs, hx⟩
  · cases hr

theorem alone_ensure {c : Prop} [Decidable c] {e : S.Err} {r : Except S.Err Unit}
    (h : Performs (Regime.alone S) (Proc.ensure c e) s r s') : s' = s ∧ (c ∧ r = .ok () ∨ ∃ e', r = .error e') := by
  obtain ⟨h1, h2⟩ := of_ensure h
  exact ⟨moved_alone h1, h2⟩

theorem alone_ofExcept {x : Except S.Err α} {r : Except S.Err α} (h : Performs (Regime.alone S) (Proc.ofExcept x) s r s') :
    s' = s ∧ ((∃ a, x = .ok a ∧ r = .ok a) ∨ ∃ e', r = .error e') := by
  cases x with
  | ok a =>
    obtain ⟨h1, h2⟩ := alone_done h
    exact ⟨h1, h2.elim (fun h => .inl ⟨a, rfl, h⟩) fun h => .inr ⟨_, h⟩⟩
  | error e =>
    obtain ⟨h1, h2⟩ := alone_fail h
    exact ⟨h1, .inr h2⟩

/-- A transaction: it commits, heard of or not, or nothing happens. -/
theorem alone_trans {op : S.Op} {r : Except S.Err (S.Res op)} (h : Performs (Regime.alone S) (Proc.trans op) s r s') :
    (∃ call o, Commit.Alone (S := S) ⟨call, op, s, o⟩ ∧ s' = Tx.applyAll S.Row o.writes s ∧ (r = .ok o.val ∨ r = .error S.lost)) ∨
      (s' = s ∧ ∃ e, r = .error e) := by
  obtain ⟨s₁, s₂, h1, h2, h3⟩ := of_trans h
  obtain rfl := moved_alone h1
  obtain rfl := moved_alone h2
  rcases h3 with ⟨call, o, hc, hs, hr⟩ | ⟨rfl, e, he⟩
  · exact .inl ⟨call, o, hc, hs, hr⟩
  · exact .inr ⟨rfl, e, he⟩

theorem alone_trans_ok {op : S.Op} {a : S.Res op} (h : Performs (Regime.alone S) (Proc.trans op) s (.ok a) s') :
    ∃ call o, Commit.Alone (S := S) ⟨call, op, s, o⟩ ∧ a = o.val ∧ s' = Tx.applyAll S.Row o.writes s := by
  rcases alone_trans h with ⟨call, o, hc, hs, hr⟩ | ⟨_, e, he⟩
  · rcases hr with hr | hr
    · cases hr
      exact ⟨call, o, hc, rfl, hs⟩
    · cases hr
  · cases he

/-- What is left when the first part is a value that may be missing. -/
theorem alone_need_bind {x : Option α} {e : S.Err} {f : α → S.Program β} {r : Except S.Err β}
    (h : Performs (Regime.alone S) (Proc.need x e >>= f) s r s') :
    (s' = s ∧ ∃ e', r = .error e') ∨ ∃ a, x = some a ∧ Performs (Regime.alone S) (f a) s r s' := by
  rcases of_bind h with ⟨a, s₁, hneed, hrest⟩ | ⟨e', hr, hneed⟩
  · obtain ⟨rfl, hx⟩ := alone_need_ok hneed
    exact .inr ⟨a, hx, hrest⟩
  · exact .inl ⟨(alone_need hneed).1, e', hr⟩

theorem alone_ensure_bind {c : Prop} [Decidable c] {e : S.Err} {f : Unit → S.Program β} {r : Except S.Err β}
    (h : Performs (Regime.alone S) (Proc.ensure c e >>= f) s r s') :
    (s' = s ∧ ∃ e', r = .error e') ∨ (c ∧ Performs (Regime.alone S) (f ()) s r s') := by
  rcases of_bind h with ⟨_, s₁, hensure, hrest⟩ | ⟨e', hr, hensure⟩
  · obtain ⟨rfl, ⟨hc, _⟩ | ⟨e', he⟩⟩ := alone_ensure hensure
    · exact .inr ⟨hc, hrest⟩
    · cases he
  · exact .inl ⟨(alone_ensure hensure).1, e', hr⟩

/-- What the last part makes of an answer changes nothing. -/
theorem alone_bind_done {p : S.Program α} {f : α → β} {r : Except S.Err β}
    (h : Performs (Regime.alone S) (p >>= fun a => pure (f a)) s r s') :
    ∃ q, Performs (Regime.alone S) p s q s' ∧ ∀ b, r = .ok b → ∃ a, q = .ok a ∧ b = f a := by
  rcases of_bind h with ⟨a, s₁, hp, hdone⟩ | ⟨e, rfl, hp⟩
  · obtain ⟨rfl, hr⟩ := alone_done hdone
    refine ⟨_, hp, fun b hb => ⟨a, rfl, ?_⟩⟩
    rcases hr with hr | hr <;> rw [hr] at hb
    · cases hb
      rfl
    · cases hb
  · exact ⟨_, hp, fun _ hb => nomatch hb⟩

end Performs

/-! ## The commits on the way -/

/-- One commit of such an operation, alone. -/
def Commits (A : S.Op → Prop) (s s' : S.State) : Prop := ∃ c : S.Commit, A c.op ∧ c.Alone ∧ c.before = s ∧ c.after = s'

/-- **A program that uses only such operations goes from one state to the other by their commits**, however it ends. -/
theorem Performs.commits {A : S.Op → Prop} {B : S.Call → Prop} (hB : ∀ c, B c → (S.proc c).Uses A B) {p : S.Program α}
    {s s' : S.State} {r : Except S.Err α} (h : Performs (Regime.alone S) p s r s') (hp : p.Uses A B) :
    Relation.ReflTransGen (Commits A) s s' := by
  induction h with
  | done | fail | dies => exact .refl
  | commit call o hc rest ih => exact .head ⟨_, hp.1, hc, rfl, rfl⟩ (ih (hp.2 _))
  | unheard call o hc hf rest ih => exact .head ⟨_, hp.1, hc, rfl, rfl⟩ (ih (hp.2 _))
  | rollback e rest ih => exact ih (hp.2 _)
  | call hq callee rest ihc ih => exact (ihc (hB _ hp.1)).trans (ih (hp.2 _))
  | cut hq callee rest ihc ih => exact (ihc (hB _ hp.1)).trans (ih (hp.2 _))
  | unsent hq rest ih => exact ih (hp.2 _)
  | ask a rest ih => exact ih (hp a)
  | elsewhere c hc hb rest ih => exact hc.elim

/-- What each of the commits keeps, the program keeps. -/
theorem Performs.uses_keeps {A : S.Op → Prop} {B : S.Call → Prop} {P : S.State → Prop} (hB : ∀ c, B c → (S.proc c).Uses A B)
    (hP : ∀ c : S.Commit, A c.op → c.Alone → P c.before → P c.after) {p : S.Program α} {s s' : S.State} {r : Except S.Err α}
    (h : Performs (Regime.alone S) p s r s') (hp : p.Uses A B) (hs : P s) : P s' := by
  have hpath := h.commits hB hp
  clear h
  induction hpath with
  | refl => exact hs
  | tail _ hstep ih =>
    obtain ⟨c, hA, hc, rfl, rfl⟩ := hstep
    exact hP c hA hc ih

/-! ## Running a program -/

/-- One way for the program to go: every transaction is heard of, every call answered. -/
def runAlone : ℕ → {α : Type} → S.Program α → S.State → Option (Except S.Err α × S.State)
  | 0, _, _, _ => none
  | _ + 1, _, .done a, s => some (.ok a, s)
  | _ + 1, _, .fail e, s => some (.error e, s)
  | fuel + 1, _, .exec op next, s =>
    match (S.tx op).run s [] [] with
    | .ok o => runAlone fuel (next (.ok o.val)) (Tx.applyAll S.Row o.writes s)
    | .error e => runAlone fuel (next (.error e)) s
  | fuel + 1, _, .call c next, s =>
    match runAlone fuel (S.proc c) s with
    | none => none
    | some (q, s₁) => runAlone fuel (next q) s₁
  | _ + 1, _, .ask _, _ => none

/-- **The way that is computed is one the program can go.** -/
theorem runAlone_performs (c₀ : S.Call) : ∀ (fuel : ℕ) {α : Type} (p : S.Program α) (s s' : S.State) (r : Except S.Err α),
    runAlone fuel p s = some (r, s') → Performs (Regime.alone S) p s r s'
  | 0, _, _, _, _, _, h => nomatch h
  | _ + 1, _, .done a, s, _, _, h => by
    cases h
    exact .done a s
  | _ + 1, _, .fail e, s, _, _, h => by
    cases h
    exact .fail e s
  | fuel + 1, _, .exec op next, s, s', r, h => by
    have hrun := Tx.exec_of_run (R := Rely (fun _ => True) (fun _ _ _ => False)) (fun L => rely_refl L s) (S.tx op) [] []
    rw [runAlone] at h
    split at h
    · rename_i o ho
      rw [ho] at hrun
      exact .commit c₀ o hrun (runAlone_performs c₀ fuel _ _ _ _ h)
    · rename_i e _
      exact .rollback e (runAlone_performs c₀ fuel _ _ _ _ h)
  | fuel + 1, _, .call c next, s, s', r, h => by
    rw [runAlone] at h
    split at h
    · cases h
    · rename_i q s₁ hq
      exact .call trivial (runAlone_performs c₀ fuel _ _ _ _ hq) (runAlone_performs c₀ fuel _ _ _ _ h)
  | _ + 1, _, .ask next, _, _, _, h => nomatch h

end System

end Rowdb
