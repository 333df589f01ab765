import Mathlib.Data.List.Basic
/-!
# Machine — the runs of a labelled step relation

A run keeps its moves: the state before, the label and the state after.  What holds at the beginning and is kept by a move holds at
the end (`Run.invariant`), a run can be cut at a move (`Run.split`), and a machine that can follow every move follows the run
(`Run.simulates`).
-/
namespace Machine

variable {σ τ ℓ κ : Type}

structure Move (σ ℓ : Type) where
  before : σ
  label : ℓ
  after : σ

inductive Run (step : σ → ℓ → σ → Prop) (s₀ : σ) : List (Move σ ℓ) → σ → Prop
  | start : Run step s₀ [] s₀
  | step {moves : List (Move σ ℓ)} {s s' : σ} {label : ℓ} :
      Run step s₀ moves s → step s label s' → Run step s₀ (moves ++ [⟨s, label, s'⟩]) s'

section
variable {step : σ → ℓ → σ → Prop} {s₀ s : σ} {moves : List (Move σ ℓ)}

/-- **What the moves keep holds at the end**; `Fine` is what is known of the moves. -/
theorem Run.invariant (Fine : Move σ ℓ → Prop) (P : List (Move σ ℓ) → σ → Prop) (run : Run step s₀ moves s) (hstart : P [] s₀)
    (hstep : ∀ moves s label s', P moves s → step s label s' → Fine ⟨s, label, s'⟩ → P (moves ++ [⟨s, label, s'⟩]) s')
    (hfine : ∀ m ∈ moves, Fine m) : P moves s := by
  induction run with
  | start => exact hstart
  | step run st ih =>
    exact hstep _ _ _ _ (ih fun m hm => hfine m (List.mem_append_left _ hm)) st (hfine _ (List.mem_append_right _ List.mem_cons_self))

theorem Run.mem (run : Run step s₀ moves s) {m : Move σ ℓ} (hm : m ∈ moves) : step m.before m.label m.after := by
  induction run with
  | start => cases hm
  | step run st ih =>
    rcases List.mem_append.1 hm with hm | hm
    · exact ih hm
    · obtain rfl := List.mem_singleton.1 hm
      exact st

/-- **A run is a run up to a move, the move and a run from it.** -/
theorem Run.split (run : Run step s₀ moves s) {pre post : List (Move σ ℓ)} {m : Move σ ℓ} (h : moves = pre ++ m :: post) :
    Run step s₀ pre m.before ∧ Run step m.after post s := by
  induction run generalizing post with
  | start => cases pre <;> cases h
  | step run st ih =>
    rcases List.eq_nil_or_concat post with rfl | ⟨post, last, rfl⟩
    · obtain ⟨rfl, hm⟩ := List.append_inj' h rfl
      cases hm
      exact ⟨run, .start⟩
    · rw [List.concat_eq_append, ← List.cons_append, ← List.append_assoc] at h
      obtain ⟨rfl, hlast⟩ := List.append_inj' h rfl
      cases hlast
      obtain ⟨hpre, hpost⟩ := ih rfl
      rw [List.concat_eq_append]
      exact ⟨hpre, hpost.step st⟩

/-- **Another machine follows**, with the labels that stand for these. -/
theorem Run.simulates {step' : τ → κ → τ → Prop} {t₀ : τ} (R : σ → τ → Prop) (f : ℓ → κ) (Fine : Move σ ℓ → Prop)
    (run : Run step s₀ moves s) (hstart : R s₀ t₀)
    (hstep : ∀ s label s' t, step s label s' → Fine ⟨s, label, s'⟩ → R s t → ∃ t', step' t (f label) t' ∧ R s' t')
    (hfine : ∀ m ∈ moves, Fine m) :
    ∃ moves' t, Run step' t₀ moves' t ∧ moves'.map (·.label) = moves.map (fun m => f m.label) ∧ R s t := by
  induction run with
  | start => exact ⟨[], t₀, .start, rfl, hstart⟩
  | step run st ih =>
    obtain ⟨moves', t, run', hlabels, hR⟩ := ih fun m hm => hfine m (List.mem_append_left _ hm)
    obtain ⟨t', st', hR'⟩ := hstep _ _ _ t st (hfine _ (List.mem_append_right _ List.mem_cons_self)) hR
    refine ⟨_, t', run'.step st', ?_, hR'⟩
    rw [List.map_append, List.map_append, hlabels]
    rfl

end

end Machine
