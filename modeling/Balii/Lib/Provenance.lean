import Balii.Lib.Trace
/-!
# Provenance — commits that write what earlier commits have read

What a call writes it may have read in a transaction before.  Whether the commit keeps the invariant then depends on the
states of earlier commits, and these met the invariant if all before them kept it: the first commit that does not has read
nothing wrong.
-/
namespace Rowdb.System

variable {S : System} {Inv : S.State → Prop} {G : List S.Key → S.State → S.State → Prop} {Permitted : S.Op → Prop}
  {Cond : S.Commit → Prop}

/-- **The first miss**: along a run every commit meets `Cond`, or one does not, and all before it are faithful. -/
theorem Run.first_miss (hk : Keeps Inv G Permitted Cond) {s : S.State} {es : List S.Event} {w : S.World}
    (run : Run (quiet s) es w) (hs : Inv s) (hp : ∀ c : S.Commit, .commit c ∈ es → Permitted c.op) :
    (∀ c : S.Commit, .commit c ∈ es → Cond c) ∨ ∃ es₁ c es₂, es = es₁ ++ .commit c :: es₂ ∧ ¬ Cond c ∧
      ∀ c' : S.Commit, .commit c' ∈ es₁ → c'.Faithful Inv G := by
  induction run with
  | start => exact .inl fun c hc => (nomatch hc)
  | @step es es' w w' run step ih =>
    have hp' : ∀ c : S.Commit, .commit c ∈ es → Permitted c.op := fun c hc => hp c (List.mem_append_left _ hc)
    rcases ih hp' with hall | ⟨es₁, c, es₂, rfl, hbad, hgood⟩
    · rcases run.sound_or_first hk hs hp' with ⟨hw, _, hgood, _⟩ | ⟨c, hc, hbad, _⟩
      · by_cases hnew : ∀ c : S.Commit, .commit c ∈ es' → Cond c
        · refine .inl fun c hc => ?_
          rcases List.mem_append.1 hc with hc | hc
          · exact hall c hc
          · exact hnew c hc
        · push Not at hnew
          obtain ⟨c, hc, hbad⟩ := hnew
          obtain ⟨ρ₁, ρ₂, rfl⟩ := List.append_of_mem hc
          refine .inr ⟨es ++ ρ₁, c, ρ₂, (List.append_assoc _ _ _).symm, hbad, fun c' hc' => ?_⟩
          rcases List.mem_append.1 hc' with hc' | hc'
          · exact (hgood c' hc').2.2
          · exact (step.faithful hw (List.mem_append_left _ hc')).2
      · exact absurd (hall c hc) hbad
    · exact .inr ⟨es₁, c, es₂ ++ es', by rw [List.append_assoc, List.cons_append], hbad, hgood⟩

/-- **The rule for what was read before**: if a faithful commit reads as `Reads` says, and each program, where the commits before
have read so, makes only commits that meet `Cond`, then every commit of the run does. -/
theorem Execution.meets_of_reads {Init : S.State → Prop} (e : Execution S Init Permitted) (hk : Keeps Inv G Permitted Cond)
    (h0 : ∀ s, Init s → Inv s) {Reads : S.Commit → Prop} (hreads : ∀ c : S.Commit, c.Faithful Inv G → Reads c)
    (hproc : ∀ i call τ, Follows (fun _ => True) i call (fun τ c => (∀ c' : S.Commit, .commit c' ∈ τ.events → Reads c') → Cond c)
      (S.proc call) (fun _ _ => True) τ) :
    ∀ c, .commit c ∈ e.events → Cond c := by
  obtain ⟨τ, hτ, hevents⟩ := e.traced
  have hmeets := (hτ.follows (quiet_follows e.init) (fun _ _ => trivial) known_nothing
    fun i call τ' _ _ _ => hproc i call τ').1
  rcases e.run.first_miss hk (h0 _ e.starts) e.permitted with hall | ⟨es₁, c, es₂, heq, hbad, hgood⟩
  · exact hall
  · obtain ⟨τ₁, τ₂, rfl, rfl, hrest⟩ := List.map_eq_append_iff.1 (hevents.trans heq)
    obtain ⟨x, τ₃, rfl, hx, rfl⟩ := List.map_eq_cons_iff.1 hrest
    obtain ⟨i, ev⟩ := x
    obtain rfl : ev = .commit c := hx
    exact absurd (hmeets.commits τ₁ i c τ₃ rfl fun c' hc' => hreads c' (hgood c' hc')) hbad

end Rowdb.System
