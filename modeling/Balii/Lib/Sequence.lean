import Balii.Lib.Guarantee
import Balii.Lib.Under
/-!
# Sequence — numbers drawn when a row is written, under a lock

A sequence numbers certain writes at the moment they are made, not when they are committed: two open transactions draw in
turn, and what one drew is lost with it when it rolls back.  Where every such write is made under a lock of its own group,
the numbers of a group are stored in the order they were drawn.
-/
namespace Rowdb

namespace System

variable {S : System} (draws : S.Write → Bool)

/-- The writes of an open transaction that drew a number. -/
def Session.drawing : S.Session → List S.Write
  | .inTx _ _ ws _ _ => ws.filter draws
  | _ => []

def World.drawing (w : S.World) (i : ℕ) : List S.Write := (w.sessions[i]?).elim [] fun p => p.2.drawing draws

/-- The next number, the numbers drawn by the open transactions, and those stored. -/
structure Numbers (S : System) where
  next : ℕ
  drawn : ℕ → List (S.Write × ℕ)
  stored : List (S.Write × ℕ)

/-- The sequence of an empty table. -/
def Numbers.fresh (next : ℕ) : Numbers S := ⟨next, fun _ => [], []⟩

open World in
/-- **A step of the world, and of the sequence**: a write draws a number that is not below the next, a commit stores what its
transaction drew, and whatever ends a transaction otherwise forgets it. -/
inductive NumberedStep : S.World → S.Numbers → List S.Event → S.World → S.Numbers → Prop
  | draw {w : S.World} {n : S.Numbers} {i m : ℕ} {c op L ws v rest next}
      (h : w.sessions[i]? = some (c, .inTx op L ws (.write v rest) next))
      (hk : ∀ k ∈ Store.keys S.State S.Row v, w.Free i k) (hv : draws v = true) (hm : n.next ≤ m) :
      NumberedStep w n [] (w.put i (.inTx op (Store.keys S.State S.Row v ++ L) (ws ++ [v]) rest next))
        { n with next := m + 1, drawn := Function.update n.drawn i (n.drawn i ++ [(v, m)]) }
  | store {w w' : S.World} {n : S.Numbers} {i : ℕ} {c op L ws a next} {r : Except S.Err (S.Res op)}
      (h : w.sessions[i]? = some (c, .inTx op L ws (.done a) next))
      (step : Step w [.commit ⟨c, op, w.db, ⟨a, L, ws⟩⟩] w')
      (hw : w' = put { w with db := Tx.applyAll S.Row ws w.db } i (.ready (next r))) :
      NumberedStep w n [.commit ⟨c, op, w.db, ⟨a, L, ws⟩⟩] w'
        { n with drawn := Function.update n.drawn i [], stored := n.stored ++ n.drawn i }
  | other {w w' : S.World} {n : S.Numbers} {es : List S.Event} (step : Step w es w') (hno : ∀ c : S.Commit, .commit c ∉ es)
      (hsame : ∀ i, w'.drawing draws i = w.drawing draws i ∨ w'.drawing draws i = []) :
      NumberedStep w n es w' { n with drawn := fun i => if w'.drawing draws i = [] then [] else n.drawn i }

/-- A run with its numbers. -/
inductive NumberedRun (w₀ : S.World) (n₀ : S.Numbers) : List S.Event → S.World → S.Numbers → Prop
  | start : NumberedRun w₀ n₀ [] w₀ n₀
  | step {es es' : List S.Event} {w w' : S.World} {n n' : S.Numbers} (run : NumberedRun w₀ n₀ es w n)
      (step : NumberedStep draws w n es' w' n') : NumberedRun w₀ n₀ (es ++ es') w' n'

variable {draws}

theorem NumberedStep.toStep {w w' : S.World} {n n' : S.Numbers} {es : List S.Event} (h : NumberedStep draws w n es w' n') :
    Step w es w' := by
  cases h with
  | draw h hk => exact .write h hk
  | store h step hw => exact step
  | other step => exact step

theorem NumberedRun.toRun {w₀ w : S.World} {n₀ n : S.Numbers} {es : List S.Event} (h : NumberedRun draws w₀ n₀ es w n) :
    Run w₀ es w := by
  induction h with
  | start => exact .start
  | step _ step ih => exact ih.step step.toStep

theorem World.drawing_put {w : S.World} {i : ℕ} {p : S.Call × S.Session} (hi : w.sessions[i]? = some p) (x : S.Session) (j : ℕ) :
    (w.put i x).drawing draws j = if i = j then x.drawing draws else w.drawing draws j := by
  unfold World.drawing
  rw [put_sessions]
  split
  · rename_i hij
    subst hij
    rw [hi]
    rfl
  · cases w.sessions[j]? <;> rfl

theorem World.drawing_spawn (w : S.World) (c : S.Call) (j : ℕ) : (w.spawn c).drawing draws j = w.drawing draws j := by
  unfold World.drawing World.spawn
  rw [List.getElem?_append]
  split
  · rfl
  · rename_i hge
    rw [List.getElem?_eq_none (Nat.le_of_not_lt hge), List.getElem?_singleton]
    split <;> rfl

theorem World.drawing_of_session {w : S.World} {i : ℕ} {p : S.Call × S.Session} (hi : w.sessions[i]? = some p) :
    w.drawing draws i = p.2.drawing draws := by
  unfold World.drawing
  rw [hi]
  rfl

/-- **Every run can be numbered**, from any numbers on. -/
theorem Run.numbered {w₀ w : S.World} {es : List S.Event} (run : Run w₀ es w) (n₀ : S.Numbers) :
    ∃ n, NumberedRun draws w₀ n₀ es w n := by
  induction run with
  | start => exact ⟨n₀, .start⟩
  | @step es es' w w' run step ih =>
    obtain ⟨n, ih⟩ := ih
    have hother : (∀ c : S.Commit, .commit c ∉ es') →
        (∀ i, w'.drawing draws i = w.drawing draws i ∨ w'.drawing draws i = []) →
          ∃ n', NumberedRun draws w₀ n₀ (es ++ es') w' n' := fun hno hsame => ⟨_, ih.step (.other step hno hsame)⟩
    have hput : ∀ {i : ℕ} {p : S.Call × S.Session} {x : S.Session}, w.sessions[i]? = some p →
        (x.drawing draws = p.2.drawing draws ∨ x.drawing draws = []) →
          ∀ j, (w.put i x).drawing draws j = w.drawing draws j ∨ (w.put i x).drawing draws j = [] := by
      intro i p x hi hx j
      rw [World.drawing_put hi]
      split
      · rename_i hij
        subst hij
        rwa [World.drawing_of_session hi]
      · exact .inl rfl
    have hsilent : ∀ {ev : S.Event}, (∀ c, ev ≠ .commit c) → ∀ c : S.Commit, .commit c ∉ [ev] := by
      intro ev hev c hc
      exact hev c (List.mem_singleton.1 hc).symm
    cases step with
    | spawn c => exact hother (fun c hc => nomatch hc) fun i => .inl (World.drawing_spawn w c i)
    | «begin» hi => exact hother (fun c hc => nomatch hc) (hput hi (.inr rfl))
    | lock hi hk => exact hother (fun c hc => nomatch hc) (hput hi (.inl rfl))
    | @write i c op L ws v rest next hi hk =>
      by_cases hv : draws v = true
      · exact ⟨_, ih.step (.draw hi hk hv (Nat.le_refl _))⟩
      · refine hother (fun c hc => nomatch hc) (hput hi (.inl ?_))
        show (ws ++ [v]).filter draws = ws.filter draws
        rw [List.filter_append, List.filter_cons_of_neg hv, List.filter_nil, List.append_nil]
    | peek hi => exact hother (fun c hc => nomatch hc) (hput hi (.inl rfl))
    | commit hi => exact ⟨_, ih.step (.store hi (.commit hi) rfl)⟩
    | commitUnheard hi => exact ⟨_, ih.step (.store hi (.commitUnheard hi) rfl)⟩
    | rollback hi => exact hother (hsilent fun c hc => nomatch hc) (hput hi (.inr rfl))
    | abort hi => exact hother (fun c hc => nomatch hc) (hput hi (.inr rfl))
    | send hi =>
      refine hother (fun c hc => nomatch hc) fun j => ?_
      rw [World.drawing_spawn]
      exact hput hi (.inr rfl) j
    | unsent hi => exact hother (fun c hc => nomatch hc) (hput hi (.inr rfl))
    | reply hi hj => exact hother (fun c hc => nomatch hc) (hput hi (.inr rfl))
    | timeout hi => exact hother (fun c hc => nomatch hc) (hput hi (.inr rfl))
    | answer hi a => exact hother (fun c hc => nomatch hc) (hput hi (.inr rfl))
    | returns hi => exact hother (hsilent fun c hc => nomatch hc) (hput hi (.inr rfl))
    | raises hi => exact hother (hsilent fun c hc => nomatch hc) (hput hi (.inr rfl))
    | crash hi => exact hother (fun c hc => nomatch hc) (hput hi (.inr rfl))

/-! ## Numbers of a group are stored in order -/

/-- Of two numbered writes of one group, the first has the smaller number. -/
def InOrder (guard : S.Write → S.Key) (a b : S.Write × ℕ) : Prop := guard a.1 = guard b.1 → a.2 < b.2

/-- The numbers fit the world, and each open transaction's follow the stored ones in order. -/
structure Numbers.Fit (draws : S.Write → Bool) (guard : S.Write → S.Key) (w : S.World) (n : S.Numbers) : Prop where
  aligned (i : ℕ) : (n.drawn i).map Prod.fst = w.drawing draws i
  storedBelow : ∀ e ∈ n.stored, e.2 < n.next
  drawnBelow : ∀ i, ∀ e ∈ n.drawn i, e.2 < n.next
  ordered (i : ℕ) : (n.stored ++ n.drawn i).Pairwise (InOrder guard)

/-- The lock a drawing write is made under. -/
def DrawsUnder (draws : S.Write → Bool) (guard : S.Write → S.Key) (L : List S.Key) (v : S.Write) : Prop :=
  draws v = true → guard v ∈ L

variable {guard : S.Write → S.Key} {w w' : S.World} {n n' : S.Numbers} {es : List S.Event}

/-- A world whose sessions hold the locks of what they drew for. -/
def World.Guarded (draws : S.Write → Bool) (guard : S.Write → S.Key) (w : S.World) : Prop :=
  ∀ (i : ℕ) (p : S.Call × S.Session), w.sessions[i]? = some p → ∀ v ∈ p.2.drawing draws, guard v ∈ p.2.locks

theorem World.Sound.guarded {Inv : S.State → Prop} {G : List S.Key → S.State → S.State → Prop} (h : w.Sound Inv G)
    (hguard : ∀ op, Tx.Guarded (DrawsUnder draws guard) (S.tx op)) : w.Guarded draws guard := by
  intro i p hi v hv
  cases hp : p.2 with
  | inTx op L ws rest next =>
    have hholds := h.holds i p hi
    rw [hp] at hholds hv
    have hpath := hholds.2 w.db .refl
    obtain ⟨hmem, hdraws⟩ := List.mem_filter.1 hv
    exact (hpath.under (fun L L' v h hv hd => h _ (hv hd)) (hguard op [])).1 v hmem hdraws
  | _ =>
    rw [hp] at hv
    cases hv

/-- **One step keeps the numbers in order**: whoever draws or stores for a group is the only one to hold its lock. -/
theorem NumberedStep.fit (step : NumberedStep draws w n es w' n') (hw : w.Guarded draws guard)
    (hapart : ∀ (i j : ℕ) (p q : S.Call × S.Session), i ≠ j → w.sessions[i]? = some p → w.sessions[j]? = some q →
      ∀ k ∈ p.2.locks, k ∉ q.2.locks) (h : n.Fit draws guard w) : n'.Fit draws guard w' := by
  cases step with
  | @draw _ i m c op L ws v rest next hi hk hv hm =>
    have hdrawing : w.drawing draws i = _ := World.drawing_of_session hi
    refine ⟨fun j => ?_, fun e he => ?_, fun j e he => ?_, fun j => ?_⟩
    · rw [World.drawing_put hi]
      by_cases hij : i = j
      · subst hij
        show (Function.update n.drawn i _ i).map Prod.fst = _
        rw [Function.update_self, if_pos rfl, List.map_append, h.aligned, hdrawing]
        show _ = (ws ++ [v]).filter draws
        rw [List.filter_append, List.filter_cons_of_pos hv]
        rfl
      · show (Function.update n.drawn i _ j).map Prod.fst = _
        rw [Function.update_of_ne (Ne.symm hij), if_neg hij, h.aligned]
    · have := h.storedBelow e he
      show e.2 < m + 1
      omega
    · show e.2 < m + 1
      have he : e ∈ Function.update n.drawn i (n.drawn i ++ [(v, m)]) j := he
      by_cases hij : i = j
      · subst hij
        rw [Function.update_self] at he
        rcases List.mem_append.1 he with he | he
        · have := h.drawnBelow i e he
          omega
        · cases List.mem_singleton.1 he
          exact Nat.lt_succ_self m
      · rw [Function.update_of_ne (Ne.symm hij)] at he
        have := h.drawnBelow j e he
        omega
    · show (n.stored ++ Function.update n.drawn i (n.drawn i ++ [(v, m)]) j).Pairwise (InOrder guard)
      by_cases hij : i = j
      · subst hij
        rw [Function.update_self, ← List.append_assoc, List.pairwise_append]
        refine ⟨h.ordered i, List.pairwise_singleton .., fun e he e' he' _ => ?_⟩
        cases List.mem_singleton.1 he'
        have hbelow : e.2 < n.next := (List.mem_append.1 he).elim (h.storedBelow e) (h.drawnBelow i e)
        omega
      · rw [Function.update_of_ne (Ne.symm hij)]
        exact h.ordered j
  | @store _ _ i c op L ws a next r hi step hworld =>
    have hdrawing : ∀ j, w'.drawing draws j = if i = j then [] else w.drawing draws j := by
      intro j
      rw [hworld]
      exact World.drawing_put (w := { w with db := Tx.applyAll S.Row ws w.db }) hi _ j
    refine ⟨fun j => ?_, fun e he => ?_, fun j e he => ?_, fun j => ?_⟩
    · rw [hdrawing]
      by_cases hij : i = j
      · subst hij
        show (Function.update n.drawn i [] i).map Prod.fst = _
        rw [Function.update_self, if_pos rfl]
        rfl
      · show (Function.update n.drawn i [] j).map Prod.fst = _
        rw [Function.update_of_ne (Ne.symm hij), if_neg hij, h.aligned]
    · exact (List.mem_append.1 he).elim (h.storedBelow e) (h.drawnBelow i e)
    · have he : e ∈ Function.update n.drawn i [] j := he
      by_cases hij : i = j
      · subst hij
        rw [Function.update_self] at he
        cases he
      · rw [Function.update_of_ne (Ne.symm hij)] at he
        exact h.drawnBelow j e he
    · show (n.stored ++ n.drawn i ++ Function.update n.drawn i [] j).Pairwise (InOrder guard)
      by_cases hij : i = j
      · subst hij
        rw [Function.update_self, List.append_nil]
        exact h.ordered i
      · rw [Function.update_of_ne (Ne.symm hij), List.pairwise_append]
        obtain ⟨_, hj, hcross⟩ := List.pairwise_append.1 (h.ordered j)
        refine ⟨h.ordered i, hj, fun e he e' he' hg => ?_⟩
        rcases List.mem_append.1 he with he | he
        · exact hcross e he e' he' hg
        · -- two open transactions would hold the lock of one group
          have hmem : e.1 ∈ w.drawing draws i := h.aligned i ▸ List.mem_map_of_mem he
          have hmem' : e'.1 ∈ w.drawing draws j := h.aligned j ▸ List.mem_map_of_mem he'
          cases hsession : w.sessions[j]? with
          | none =>
            unfold World.drawing at hmem'
            rw [hsession] at hmem'
            cases hmem'
          | some q =>
            rw [World.drawing_of_session hi] at hmem
            rw [World.drawing_of_session hsession] at hmem'
            have hlock := hw i _ hi _ hmem
            rw [hg] at hlock
            exact absurd (hw j q hsession _ hmem') (hapart i j _ q hij hi hsession _ hlock)
  | other step hno hsame =>
    refine ⟨fun j => ?_, h.storedBelow, fun j e he => ?_, fun j => ?_⟩
    · show (if w'.drawing draws j = [] then [] else n.drawn j).map Prod.fst = _
      split
      · rename_i hnil
        rw [hnil]
        rfl
      · rename_i hne
        rw [h.aligned, (hsame j).resolve_right hne]
    · have he : e ∈ if w'.drawing draws j = [] then [] else n.drawn j := he
      split at he
      · cases he
      · exact h.drawnBelow j e he
    · show (n.stored ++ if w'.drawing draws j = [] then [] else n.drawn j).Pairwise (InOrder guard)
      split
      · rw [List.append_nil]
        exact (List.pairwise_append.1 (h.ordered j)).1
      · exact h.ordered j

/-- Before any transaction is open. -/
theorem Numbers.fit_quiet {s : S.State} (hopen : ∀ i, n.drawn i = []) (hbelow : ∀ e ∈ n.stored, e.2 < n.next)
    (hordered : n.stored.Pairwise (InOrder guard)) : n.Fit draws guard (quiet s) where
  aligned i := by
    rw [hopen]
    rfl
  storedBelow := hbelow
  drawnBelow i e he := by
    rw [hopen] at he
    cases he
  ordered i := by
    rw [hopen, List.append_nil]
    exact hordered

/-- **In every run the stored numbers of a group are in order.** -/
theorem NumberedRun.fit {s : S.State} {n₀ : S.Numbers} (run : NumberedRun draws (quiet s) n₀ es w n)
    (hguard : ∀ op, Tx.Guarded (DrawsUnder draws guard) (S.tx op)) (h0 : n₀.Fit draws guard (quiet s)) :
    n.Fit draws guard w := by
  induction run with
  | start => exact h0
  | @step es es' w w' n n' run step ih =>
    have hk : Keeps (S := S) (fun _ => True) (fun _ _ _ => True) (fun _ => True) fun _ => True :=
      fun _ _ _ _ _ => ⟨trivial, trivial⟩
    rcases run.toRun.sound_or_first hk trivial (fun _ _ => trivial) with ⟨hsound, _⟩ | ⟨_, _, hbad, _⟩
    · exact step.fit (hsound.guarded hguard) hsound.apart ih
    · exact absurd trivial hbad

/-- **What is stored is what was committed**, where `table` reads the numbered writes off a state. -/
theorem NumberedRun.stored {s : S.State} {n₀ : S.Numbers} (run : NumberedRun draws (quiet s) n₀ es w n)
    (hguard : ∀ op, Tx.Guarded (DrawsUnder draws guard) (S.tx op)) (h0 : n₀.Fit draws guard (quiet s))
    {table : S.State → List S.Write} (htable : ∀ ws s, table (Tx.applyAll S.Row ws s) = table s ++ ws.filter draws)
    (hs : n₀.stored.map Prod.fst = table s) : n.stored.map Prod.fst = table w.db := by
  induction run with
  | start => exact hs
  | @step es es' w w' n n' run step ih =>
    have hfit := run.fit hguard h0
    cases step with
    | draw hi hk hv hm => exact ih
    | @store _ _ i c op L ws a next r hi step hworld =>
      rw [hworld]
      show (n.stored ++ n.drawn i).map Prod.fst = table (Tx.applyAll S.Row ws w.db)
      rw [List.map_append, ih, hfit.aligned, htable, World.drawing_of_session hi]
      rfl
    | other step hno hsame =>
      rcases step.events with ⟨c, rfl, _⟩ | ⟨_, _, hdb⟩
      · exact absurd List.mem_cons_self (hno c)
      · rw [hdb]
        exact ih

end System
end Rowdb
