import Mathlib.Data.List.Induction
import Mathlib.Tactic.Ring
/-!
# FixedWindow — a counter that starts anew when its window has ended

The first attempt opens a window and each attempt counts, admitted or not.  At most `limit` are admitted in a window, and as a window
opens only after the one before has ended, the admitted attempts of any span of time are bounded (`admitted_le`); who has not
tried for the length of a window is admitted (`admitted_of_quiet`).
-/
namespace FixedWindow

structure Counter where
  count : ℕ
  /-- The last moment of the window. -/
  ends : ℕ
  deriving DecidableEq

/-- One more in the window, or the first of a new one. -/
def hit (length now : ℕ) : Option Counter → Counter
  | some c => if now ≤ c.ends then ⟨c.count + 1, c.ends⟩ else ⟨1, now + length⟩
  | none => ⟨1, now + length⟩

/-- An attempt: whether it is counted, and whether what it counted to is heard. -/
structure Attempt where
  time : ℕ
  counted : Bool
  heard : Bool

/-- The counter and the times of the attempts that were admitted. -/
structure State where
  counter : Option Counter
  admitted : List ℕ

variable (length limit : ℕ)

def attempt (s : State) (a : Attempt) : State :=
  if a.counted then
    let c := hit length a.time s.counter
    { counter := some c, admitted := if a.heard = true ∧ c.count ≤ limit then s.admitted ++ [a.time] else s.admitted }
  else s

def run (attempts : List Attempt) : State := attempts.foldl (attempt length limit) ⟨none, []⟩

/-- The admitted attempts of a span of time. -/
def State.admittedIn (s : State) (start stop : ℕ) : ℕ := (s.admitted.filter fun t => start ≤ t ∧ t ≤ stop).length

section
variable {length limit} {p : List Attempt} {start stop : ℕ}

theorem run_snoc (p : List Attempt) (a : Attempt) : run length limit (p ++ [a]) = attempt length limit (run length limit p) a := by
  unfold run
  rw [List.foldl_append]
  rfl

theorem attempt_of_not_counted (s : State) {a : Attempt} (h : a.counted = false) : attempt length limit s a = s := by
  simp [attempt, h]

theorem attempt_of_counted (s : State) {a : Attempt} (h : a.counted = true) : attempt length limit s a =
    { counter := some (hit length a.time s.counter),
      admitted := if a.heard = true ∧ (hit length a.time s.counter).count ≤ limit then s.admitted ++ [a.time] else s.admitted } := by
  simp [attempt, h]

/-- An attempt adds itself, or nothing. -/
theorem admittedIn_attempt (s : State) {a : Attempt} (h : a.counted = true) :
    (attempt length limit s a).admittedIn start stop = s.admittedIn start stop +
      if (a.heard = true ∧ (hit length a.time s.counter).count ≤ limit) ∧ start ≤ a.time ∧ a.time ≤ stop then 1 else 0 := by
  rw [attempt_of_counted s h]
  unfold State.admittedIn
  by_cases hpass : a.heard = true ∧ (hit length a.time s.counter).count ≤ limit
  · simp only [if_pos hpass, List.filter_append, List.length_append]
    by_cases hin : start ≤ a.time ∧ a.time ≤ stop
    · simp [hin, hpass]
    · simp [hin]
  · simp [hpass]

/-! ## The bound -/

/-- The windows that have ended since `start` and admitted something are `k` at most, and the running one opened after them. -/
def Paced (length limit start stop k : ℕ) (s : State) : Prop :=
  k * (length + 1) ≤ stop - start + length ∧
    match s.counter with
    | none => s.admittedIn start stop = 0
    | some c => s.admittedIn start stop ≤ limit * k + min limit c.count ∧
      (0 < s.admittedIn start stop → start + k * (length + 1) ≤ c.ends)

/-- Nothing is admitted of the span so far. -/
theorem paced_zero {s : State} (h : s.admittedIn start stop = 0) : Paced length limit start stop 0 s := by
  refine ⟨by omega, ?_⟩
  cases s.counter with
  | none => exact h
  | some c => exact ⟨by omega, fun hpos => absurd h hpos.ne'⟩

/-- The first that is admitted of the span. -/
theorem paced_first {s : State} {a : Attempt} (hzero : s.admittedIn start stop = 0) (ha : a.counted = true) :
    Paced length limit start stop 0 (attempt length limit s a) := by
  have hends : a.time ≤ (hit length a.time s.counter).ends := by
    unfold hit
    split
    · split
      · assumption
      · exact Nat.le_add_right _ _
    · exact Nat.le_add_right _ _
  have hcount : 1 ≤ (hit length a.time s.counter).count := by
    unfold hit
    split
    · split <;> simp
    · simp
  have hin : (attempt length limit s a).admittedIn start stop = _ := admittedIn_attempt s ha
  rw [attempt_of_counted s ha] at hin ⊢
  refine ⟨by omega, ?_⟩
  dsimp only
  rw [hin, hzero]
  split <;> omega

/-- **An attempt counts in its window, or opens one after all that were before.** -/
theorem Paced.attempt {s : State} {k : ℕ} (h : Paced length limit start stop k s) (a : Attempt) (hstop : a.time ≤ stop) :
    ∃ k', Paced length limit start stop k' (attempt length limit s a) := by
  cases ha : a.counted with
  | false => exact ⟨k, by rwa [attempt_of_not_counted s ha]⟩
  | true =>
    by_cases hzero : s.admittedIn start stop = 0
    · exact ⟨0, paced_first hzero ha⟩
    · obtain ⟨counter, admitted⟩ := s
      obtain ⟨hk, hcounter⟩ := h
      have hin : (FixedWindow.attempt length limit ⟨counter, admitted⟩ a).admittedIn start stop = _ := admittedIn_attempt _ ha
      rw [attempt_of_counted _ ha] at hin ⊢
      cases counter with
      | none => exact absurd hcounter hzero
      | some c =>
        obtain ⟨hle, hends⟩ := hcounter
        have hlate := hends (Nat.pos_of_ne_zero hzero)
        dsimp only at hin hle hends
        by_cases halive : a.time ≤ c.ends
        · have hhit : hit length a.time (some c) = ⟨c.count + 1, c.ends⟩ := if_pos halive
          refine ⟨k, hk, ?_, fun _ => by rw [hhit]; exact hlate⟩
          dsimp only
          rw [hin, hhit]
          dsimp only
          split <;> omega
        · have hhit : hit length a.time (some c) = ⟨1, a.time + length⟩ := if_neg halive
          have hsucc : (k + 1) * (length + 1) = k * (length + 1) + (length + 1) := Nat.succ_mul k (length + 1)
          have hlimit : limit * (k + 1) = limit * k + limit := Nat.mul_succ limit k
          refine ⟨k + 1, by omega, ?_, fun _ => ?_⟩
          · dsimp only
            rw [hin, hhit]
            dsimp only
            split <;> omega
          · rw [hhit]
            dsimp only
            omega

theorem Paced.admittedIn_le {s : State} {k : ℕ} (h : Paced length limit start stop k s) :
    s.admittedIn start stop ≤ limit * ((stop - start + length) / (length + 1) + 1) := by
  have hk : k ≤ (stop - start + length) / (length + 1) := (Nat.le_div_iff_mul_le (Nat.succ_pos length)).2 h.1
  have hmul : limit * (k + 1) ≤ limit * ((stop - start + length) / (length + 1) + 1) := Nat.mul_le_mul_left limit (by omega)
  have hsucc : limit * (k + 1) = limit * k + limit := Nat.mul_succ limit k
  obtain ⟨-, hcounter⟩ := h
  cases hc : s.counter with
  | none =>
    rw [hc] at hcounter
    dsimp only at hcounter
    omega
  | some c =>
    rw [hc] at hcounter
    dsimp only at hcounter
    omega

theorem admittedIn_attempt_late (s : State) {a : Attempt} (h : stop < a.time) :
    (attempt length limit s a).admittedIn start stop = s.admittedIn start stop := by
  cases ha : a.counted with
  | false => rw [attempt_of_not_counted s ha]
  | true =>
    rw [admittedIn_attempt s ha, if_neg fun hin => by omega, Nat.add_zero]

/-- **In any span of time the admitted attempts are bounded** by the windows that can have opened in it. -/
theorem admitted_le (limit start stop : ℕ) (sorted : p.Pairwise fun a b => a.time ≤ b.time) :
    (run length limit p).admittedIn start stop ≤ limit * ((stop - start + length) / (length + 1) + 1) := by
  have hall : (run length limit p).admittedIn start stop ≤ limit * ((stop - start + length) / (length + 1) + 1) ∧
      ((∀ a ∈ p, a.time ≤ stop) → ∃ k, Paced length limit start stop k (run length limit p)) := by
    induction p using List.reverseRecOn with
    | nil => exact ⟨Nat.zero_le _, fun _ => ⟨0, paced_zero rfl⟩⟩
    | append_singleton p a ih =>
      rw [List.pairwise_append] at sorted
      obtain ⟨hle, hpaced⟩ := ih sorted.1
      rw [run_snoc]
      by_cases hstop : a.time ≤ stop
      · have hbefore : ∀ x ∈ p, x.time ≤ stop := fun x hx => (sorted.2.2 x hx a (List.mem_singleton_self a)).trans hstop
        obtain ⟨k, hk⟩ := hpaced hbefore
        obtain ⟨k', hk'⟩ := hk.attempt a hstop
        exact ⟨hk'.admittedIn_le, fun _ => ⟨k', hk'⟩⟩
      · refine ⟨by rwa [admittedIn_attempt_late _ (by omega)], fun hall => ?_⟩
        exact absurd (hall a (List.mem_append_right _ (List.mem_singleton_self a))) hstop
  exact hall.1

/-! ## Who gets through -/

/-- A window ends its length after one of its attempts. -/
theorem ends_le {c : Counter} (h : (run length limit p).counter = some c) :
    ∃ a ∈ p, a.counted = true ∧ c.ends ≤ a.time + length := by
  induction p using List.reverseRecOn generalizing c with
  | nil => cases h
  | append_singleton p a ih =>
    rw [run_snoc] at h
    cases ha : a.counted with
    | false =>
      rw [attempt_of_not_counted _ ha] at h
      obtain ⟨b, hb, hc⟩ := ih h
      exact ⟨b, List.mem_append_left _ hb, hc⟩
    | true =>
      rw [attempt_of_counted _ ha] at h
      cases h
      have hself : a ∈ p ++ [a] := List.mem_append_right _ (List.mem_singleton_self a)
      cases hc : (run length limit p).counter with
      | none => exact ⟨a, hself, ha, le_refl _⟩
      | some c =>
        unfold hit
        dsimp only
        split
        · obtain ⟨b, hb, hc⟩ := ih hc
          exact ⟨b, List.mem_append_left _ hb, hc⟩
        · exact ⟨a, hself, ha, le_refl _⟩

/-- The window of the counter, if there is one, has ended: the next attempt is the first of its window. -/
theorem hit_of_ended {counter : Option Counter} {now : ℕ} (h : ∀ c, counter = some c → c.ends < now) :
    hit length now counter = ⟨1, now + length⟩ := by
  cases counter with
  | none => rfl
  | some c => exact if_neg (Nat.not_le.2 (h c rfl))

/-- **Who has not tried for a window's length is first**, whatever came before. -/
theorem first_of_quiet {now : ℕ} (h : ∀ a ∈ p, a.counted = true → a.time + length < now) :
    hit length now (run length limit p).counter = ⟨1, now + length⟩ := by
  refine hit_of_ended fun c hc => ?_
  obtain ⟨a, ha, hcounted, hle⟩ := ends_le hc
  exact hle.trans_lt (h a ha hcounted)

end

end FixedWindow
