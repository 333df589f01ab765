import Balii.Lib.Trace
/-!
# Ends — how a transaction can end

`Ends R P Q t s L ws` says of a body that, run at the state `s` with the locks `L` and the writes `ws` so far, it can fail only
with an error of `P` and commits only as `Q` says.  It is computed statement by statement, and from it follow both the
invariants of a system's commits and the errors its transactions can fail with.
-/
namespace Rowdb

namespace Tx

variable {σ κ ω ε α β : Type} {Row : κ → Type} [Store σ Row ω]

def Ends (R : List κ → σ → σ → Prop) (P : ε → Prop) (Q : Outcome κ ω α → Prop) : Tx σ Row ω ε α → σ → List κ → List ω → Prop
  | done a, _, L, ws => Q ⟨a, L, ws⟩
  | fail e, _, _, _ => P e
  | lock k next, s, L, ws => Ends R P Q (next (Store.get ω (applyAll Row ws s) k)) s (k :: L) ws
  | write w rest, s, L, ws => Ends R P Q rest s (Store.keys σ Row w ++ L) (ws ++ [w])
  | peek next, s, L, ws => ∀ s₀, R L s₀ s → Ends R P Q (next (applyAll Row ws s₀)) s L ws

section Rules
variable {R : List κ → σ → σ → Prop} {P : ε → Prop} {s : σ} {L : List κ} {ws : List ω}

/-- **How a sequence ends** is how its second part ends after its first. -/
theorem ends_bind {Q : Outcome κ ω β → Prop} {t : Tx σ Row ω ε α} {f : α → Tx σ Row ω ε β} : ∀ {L : List κ} {ws : List ω},
    Ends R P Q (t >>= f) s L ws ↔ Ends R P (fun m => Ends R P Q (f m.val) s m.locks m.writes) t s L ws := by
  induction t with
  | done a => exact Iff.rfl
  | fail e => exact Iff.rfl
  | lock k next ih => exact ih _
  | write w rest ih => exact ih
  | peek next ih => exact forall_congr' fun s₀ => imp_congr Iff.rfl (ih _)

theorem ends_lockRow {k : κ} {Q : Outcome κ ω (Row k) → Prop} : Ends R P Q (lockRow k : Tx σ Row ω ε (Row k)) s L ws ↔
    Q ⟨Store.get ω (applyAll Row ws s) k, k :: L, ws⟩ := Iff.rfl

theorem ends_look {f : σ → α} {Q : Outcome κ ω α → Prop} : Ends R P Q (look f : Tx σ Row ω ε α) s L ws ↔
    ∀ s₀, R L s₀ s → Q ⟨f (applyAll Row ws s₀), L, ws⟩ := Iff.rfl

theorem ends_ensure {c : Prop} [Decidable c] {e : ε} {Q : Outcome κ ω Unit → Prop} :
    Ends R P Q (ensure c e : Tx σ Row ω ε Unit) s L ws ↔ (c → Q ⟨(), L, ws⟩) ∧ (¬ c → P e) := by
  unfold ensure
  split
  · rename_i hc
    exact ⟨fun h => ⟨fun _ => h, fun hn => absurd hc hn⟩, fun h => h.1 hc⟩
  · rename_i hc
    exact ⟨fun h => ⟨fun hp => absurd hp hc, fun _ => h⟩, fun h => h.2 hc⟩

theorem ends_need {x : Option α} {e : ε} {Q : Outcome κ ω α → Prop} :
    Ends R P Q (need x e : Tx σ Row ω ε α) s L ws ↔ (∀ a, x = some a → Q ⟨a, L, ws⟩) ∧ (x = none → P e) := by
  cases x with
  | none => exact ⟨fun h => ⟨fun a ha => (nomatch ha), fun _ => h⟩, fun h => h.2 rfl⟩
  | some a => exact ⟨fun h => ⟨fun b hb => by cases hb; exact h, fun hn => (nomatch hn)⟩, fun h => h.1 a rfl⟩

/-- A commit is one of those. -/
theorem Ends.exec {Q : Outcome κ ω α → Prop} {t : Tx σ Row ω ε α} {o : Outcome κ ω α} : ∀ {L : List κ} {ws : List ω},
    Ends R P Q t s L ws → Exec R t s L ws o → Q o := by
  induction t with
  | done a => rintro L ws h rfl; exact h
  | fail e => exact fun _ ho => ho.elim
  | lock k next ih => exact fun h ho => ih _ h ho
  | write w rest ih => exact fun h ho => ih h ho
  | peek next ih =>
    rintro L ws h ⟨s₀, hr, ho⟩
    exact ih _ (h s₀ hr) ho

/-- A failure is one of those. -/
theorem Ends.fails {Q : Outcome κ ω α → Prop} {t : Tx σ Row ω ε α} {e : ε} : ∀ {L : List κ} {ws : List ω},
    Ends R P Q t s L ws → Fails R t s L ws e → P e := by
  induction t with
  | done a => exact fun _ ho => ho.elim
  | fail e' => rintro L ws h rfl; exact h
  | lock k next ih => exact fun h ho => ih _ h ho
  | write w rest ih => exact fun h ho => ih h ho
  | peek next ih =>
    rintro L ws h ⟨s₀, hr, ho⟩
    exact ih _ (h s₀ hr) ho

end Rules
end Tx

namespace System

variable {S : System}

/-- Every transaction ends well: it keeps the invariant and fails with errors of `P` only. -/
def EndsWell (S : System) (Inv : S.State → Prop) (P : S.Err → Prop) : Prop :=
  ∀ op s, Inv s → Tx.Ends (Rely Inv fun _ _ _ => True) P (fun o => Inv (Tx.applyAll S.Row o.writes s)) (S.tx op) s [] []

variable {Init : S.State → Prop} {Permitted : S.Op → Prop} {Inv : S.State → Prop} {P : S.Err → Prop}

theorem EndsWell.keeps (h : EndsWell S Inv P) : Keeps Inv (fun _ _ _ => True) Permitted fun _ : S.Commit => True :=
  fun c _ hb hf _ => ⟨(h c.op c.before hb).exec hf, trivial⟩

/-- **The invariant holds in every state of a run**, and every transaction that fails does so with an error of `P`. -/
theorem Execution.ends (e : Execution S Init Permitted) (h : EndsWell S Inv P) (h0 : ∀ s, Init s → Inv s) :
    (∀ s ∈ e.history, Inv s) ∧ ∀ f, .failed f ∈ e.events → P f.err := by
  refine ⟨fun s hs => e.invariant h.keeps h0 (fun _ _ => trivial) hs, fun f hf => ?_⟩
  obtain ⟨hb, hfail⟩ := e.failures h.keeps h0 (fun _ _ => trivial) f hf
  exact (h f.op f.before hb).fails hfail

/-- **A call fails as a transaction of the run did**, or by losing its connection, where its program throws no error of its own. -/
theorem Execution.returned (e : Execution S Init Permitted) (hfail : ∀ f, .failed f ∈ e.events → P f.err)
    (hproc : ∀ i call τ, (∀ x ∈ τ, ∀ f, x.2 = Event.failed f → P f.err) →
      Follows (fun τ : S.Trace => ∀ x ∈ τ, ∀ f, x.2 = Event.failed f → P f.err) i call (fun _ _ => True) (S.proc call)
        (fun r _ => ∀ err, r = .error err → P err) τ) :
    ∀ call err db, .returned call (.error err) db ∈ e.events → P err := by
  obtain ⟨τ, hτ, hevents⟩ := e.traced
  have hlaw : ∀ τ', τ' <+: τ → ∀ x ∈ τ', ∀ f, x.2 = Event.failed f → P f.err := fun τ' hpre x hx f hf =>
    hfail f (hevents ▸ List.mem_map.2 ⟨x, hpre.subset hx, hf⟩)
  have hmeets := (hτ.follows (Q := fun _ _ _ _ => True) (quiet_follows e.init) hlaw known_nothing
    fun i call τ' _ hτ' _ => hproc i call τ' hτ').1
  intro call err db hreturned
  rw [← hevents] at hreturned
  obtain ⟨⟨i, ev⟩, he, rfl⟩ := List.mem_map.1 hreturned
  obtain ⟨τ₁, τ₂, rfl⟩ := List.append_of_mem he
  exact hmeets.returns τ₁ i call _ db τ₂ rfl err rfl

end System
end Rowdb
