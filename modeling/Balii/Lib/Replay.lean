import Balii.Lib.Guarantee
/-!
# Replay — what a run would have left without some of its commits

A commit's writes are functions of the rows they find, so they can be applied to another state than the one they were
committed at.  `replay skips s es` applies the writes of the commits of `es` in order, leaving out those that `skips` names:
the state as it would be had they never been made and the others done as they did.
-/
namespace Rowdb.System

variable {S : System}

def replayStep (skips : S.Commit → Bool) (s : S.State) : S.Event → S.State
  | .commit c => if skips c then s else Tx.applyAll S.Row c.out.writes s
  | _ => s

def replay (skips : S.Commit → Bool) (s : S.State) (es : List S.Event) : S.State := es.foldl (replayStep skips) s

/-- Nothing left out. -/
def stateAfter (s : S.State) (es : List S.Event) : S.State := replay (fun _ => false) s es

variable {skips : S.Commit → Bool} {s : S.State}

theorem replay_append (es es' : List S.Event) : replay skips s (es ++ es') = replay skips (replay skips s es) es' :=
  List.foldl_append

theorem replay_of_no_commit {es : List S.Event} (h : ∀ c : S.Commit, .commit c ∉ es) (a : S.State) : replay skips a es = a := by
  unfold replay
  induction es generalizing a with
  | nil => rfl
  | cons ev es ih =>
    rw [List.foldl_cons]
    cases ev with
    | commit c => exact absurd List.mem_cons_self (h c)
    | failed f => exact ih (fun c hc => h c (List.mem_cons_of_mem _ hc)) a
    | returned c r db => exact ih (fun c hc => h c (List.mem_cons_of_mem _ hc)) a

/-- **A run goes through the states its events lead to**, wherever it begins. -/
theorem Run.stateAfter_from {es : List S.Event} {w₀ w : S.World} (run : Run w₀ es w) :
    w.db = System.stateAfter w₀.db es ∧
      ∀ (pre post : List S.Event) (c : S.Commit), es = pre ++ .commit c :: post → c.before = System.stateAfter w₀.db pre := by
  induction run with
  | start =>
    refine ⟨rfl, fun pre post c h => ?_⟩
    cases pre <;> cases h
  | @step es es' w w' run step ih =>
    obtain ⟨hdb, hall⟩ := ih
    rcases step.events with ⟨c, rfl, hb, ha⟩ | ⟨_, hno, hsame⟩
    · refine ⟨?_, fun pre post d h => ?_⟩
      · show w'.db = replay _ w₀.db (es ++ [.commit c])
        rw [replay_append, ← ha, show replay _ w₀.db es = c.before from (hb.trans hdb).symm]
        rfl
      · rcases List.eq_nil_or_concat post with rfl | ⟨post', ev, rfl⟩
        · obtain ⟨rfl, hcd⟩ := List.append_inj' h rfl
          cases hcd
          rw [hb, hdb]
        · rw [List.concat_eq_append, ← List.cons_append, ← List.append_assoc] at h
          exact hall pre post' d (List.append_inj' h rfl).1
    · refine ⟨?_, fun pre post d h => ?_⟩
      · show w'.db = replay _ w₀.db (es ++ es')
        rw [replay_append, replay_of_no_commit hno, hsame, hdb]
        rfl
      · rcases List.append_eq_append_iff.1 h with ⟨m, rfl, hm⟩ | ⟨m, rfl, hm⟩
        · exact absurd (hm.symm ▸ List.mem_append_right _ List.mem_cons_self) (hno d)
        · cases m with
          | nil =>
            rw [List.nil_append] at hm
            exact absurd (hm ▸ List.mem_cons_self) (hno d)
          | cons ev m =>
            rw [List.cons_append, List.cons.injEq] at hm
            obtain ⟨rfl, -⟩ := hm
            exact hall pre m d rfl

theorem Run.stateAfter {es : List S.Event} {w : S.World} (run : Run (quiet s) es w) :
    w.db = System.stateAfter s es ∧
      ∀ (pre post : List S.Event) (c : S.Commit), es = pre ++ .commit c :: post → c.before = System.stateAfter s pre :=
  run.stateAfter_from

section Unaffected
variable {α : Type} {f : S.State → α}

/-- **When the commits left out do not matter**: what is observed by `f` is at every moment what the others alone would have
made of it, exactly if no commit left out changes it.  The others must determine it from what it was. -/
theorem Run.unaffected_iff {es : List S.Event} {w : S.World} (run : Run (quiet s) es w)
    (hkept : ∀ c : S.Commit, .commit c ∈ es → skips c = false → ∀ a b, f a = f b →
      f (Tx.applyAll S.Row c.out.writes a) = f (Tx.applyAll S.Row c.out.writes b)) :
    (∀ pre, pre <+: es → f (System.stateAfter s pre) = f (replay skips s pre)) ↔
      ∀ c : S.Commit, .commit c ∈ es → skips c = true → f c.after = f c.before := by
  have hbefore := run.stateAfter.2
  have hsnoc : ∀ (sk : S.Commit → Bool) (pre : List S.Event) (c : S.Commit), replay sk s (pre ++ [.commit c]) =
      if sk c then replay sk s pre else Tx.applyAll S.Row c.out.writes (replay sk s pre) := by
    intro sk pre c
    rw [replay_append]
    rfl
  have hafter : ∀ (pre post : List S.Event) (c : S.Commit), es = pre ++ .commit c :: post →
      System.stateAfter s (pre ++ [.commit c]) = c.after := by
    intro pre post c hes
    rw [System.stateAfter, hsnoc, if_neg Bool.false_ne_true, ← System.stateAfter, ← hbefore pre post c hes]
    rfl
  constructor
  · intro h c hc hskip
    obtain ⟨pre, post, rfl⟩ := List.append_of_mem hc
    have h1 := h (pre ++ [.commit c]) ⟨post, by rw [List.append_assoc]; rfl⟩
    have h2 := h pre ⟨_, rfl⟩
    rw [hafter pre post c rfl, hsnoc, if_pos hskip] at h1
    rw [h1, ← h2, ← hbefore pre post c rfl]
  · intro h pre
    induction pre using List.reverseRecOn with
    | nil => exact fun _ => rfl
    | append_singleton pre ev ih =>
      intro hpre
      obtain ⟨post, hes⟩ := hpre
      have hes : es = pre ++ ev :: post := by rw [← hes, List.append_assoc]; rfl
      have hpre := ih ⟨ev :: post, hes.symm⟩
      cases ev with
      | commit c =>
        have hmem : .commit c ∈ es := hes ▸ List.mem_append_right _ List.mem_cons_self
        rw [hafter pre post c hes, hsnoc]
        cases hskip : skips c with
        | true => rw [if_pos rfl, h c hmem hskip, ← hpre, ← hbefore pre post c hes]
        | false =>
          rw [if_neg Bool.false_ne_true]
          refine hkept c hmem hskip _ _ ?_
          rw [hbefore pre post c hes, hpre]
      | failed d =>
        rw [System.stateAfter, replay_append, replay_append]
        exact hpre
      | returned d r db =>
        rw [System.stateAfter, replay_append, replay_append]
        exact hpre

end Unaffected

end Rowdb.System
