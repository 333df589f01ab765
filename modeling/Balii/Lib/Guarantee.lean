import Balii.Lib.Service
/-!
# Guarantee — every interleaving reduces to commits

While a session holds a row nobody else writes it, so what the session read under its locks is still there when it
commits; what it only peeked at may have moved, but by whole commits of others that hold none of its locks.  So each
commit of each interleaving is an `Exec` of its body at the state it commits at, and an invariant of the commits is an
invariant of every run.
-/
namespace Rowdb.System

open Relation (ReflTransGen)

variable {S : System}

/-- A commit of somebody else: it holds none of the keys `K`, it does what `G` promises, the rows of `K` stay. -/
def Others (G : List S.Key → S.State → S.State → Prop) (K : List S.Key) (a b : S.State) : Prop :=
  ∃ L, (∀ k ∈ L, k ∉ K) ∧ G L a b ∧ ∀ k ∈ K, (Store.get S.Write a k : S.Row k) = Store.get S.Write b k

/-- From a state seen while holding `K` to a later one: commits of others. -/
def Rely (Inv : S.State → Prop) (G : List S.Key → S.State → S.State → Prop) (K : List S.Key) (a b : S.State) : Prop :=
  Inv a ∧ ReflTransGen (Others G K) a b

/-- The commit is an execution of its transaction's body. -/
def Commit.Faithful (Inv : S.State → Prop) (G : List S.Key → S.State → S.State → Prop) (c : S.Commit) : Prop :=
  Tx.Exec (Rely Inv G) (S.tx c.op) c.before [] [] c.out

/-- The failure is one of its transaction's body. -/
def Failure.Faithful (Inv : S.State → Prop) (G : List S.Key → S.State → S.State → Prop) (f : S.Failure) : Prop :=
  Tx.Fails (Rely Inv G) (S.tx f.op) f.before [] [] f.err

theorem Commit.Faithful.mono {Inv Inv' : S.State → Prop} {G : List S.Key → S.State → S.State → Prop} {c : S.Commit}
    (h : ∀ s, Inv s → Inv' s) (hf : c.Faithful Inv G) : c.Faithful Inv' G :=
  Tx.Exec.mono (fun _ a _ hr => ⟨h a hr.1, hr.2⟩) _ hf

section Others
variable {G : List S.Key → S.State → S.State → Prop} {K K' : List S.Key} {a b : S.State}

theorem Others.mono (h : ∀ k ∈ K, k ∈ K') (ho : Others G K' a b) : Others G K a b := by
  obtain ⟨L, h1, h2, h3⟩ := ho
  exact ⟨L, fun k hk hK => h1 k hk (h k hK), h2, fun k hk => h3 k (h k hk)⟩

/-- Holding more keys, less can happen. -/
theorem others_mono (h : ∀ k ∈ K, k ∈ K') (ho : ReflTransGen (Others G K') a b) : ReflTransGen (Others G K) a b :=
  ReflTransGen.mono (fun _ _ => Others.mono h) _ _ ho

/-- The rows one holds do not change. -/
theorem get_eq_of_others (ho : ReflTransGen (Others G K) a b) :
    ∀ k ∈ K, (Store.get S.Write a k : S.Row k) = Store.get S.Write b k := by
  induction ho with
  | refl => exact fun _ _ => rfl
  | tail _ h ih =>
    obtain ⟨L, _, _, h3⟩ := h
    exact fun k hk => (ih k hk).trans (h3 k hk)

/-- **What others keep stays as it was peeked at**: a value every commit without the keys `K` keeps is the same later. -/
theorem eq_of_others {α : Type} {f : S.State → α} (h : ∀ L a b, (∀ k ∈ L, k ∉ K) → G L a b → f b = f a)
    (ho : ReflTransGen (Others G K) a b) : f b = f a := by
  induction ho with
  | refl => rfl
  | tail _ h' ih =>
    obtain ⟨L, h1, h2, _⟩ := h'
    rw [h L _ _ h1 h2, ih]

/-- A property every commit without the keys `K` keeps holds later if it held when peeked at. -/
theorem inv_of_others {P : S.State → Prop} (h : ∀ L a b, (∀ k ∈ L, k ∉ K) → G L a b → P a → P b)
    (ho : ReflTransGen (Others G K) a b) (ha : P a) : P b := by
  induction ho with
  | refl => exact ha
  | tail _ h' ih =>
    obtain ⟨L, h1, h2, _⟩ := h'
    exact h L _ _ h1 h2 ih

end Others

section Sound
variable (Inv : S.State → Prop) (G : List S.Key → S.State → S.State → Prop)

/-- A session in the middle of a transaction: whatever the others do meanwhile, its body has got to its rest. -/
def Session.Holds (s : S.State) : S.Session → Prop
  | .inTx op L ws rest _ => (∀ w ∈ ws, ∀ k ∈ Store.keys S.State S.Row w, k ∈ L) ∧
      ∀ s', ReflTransGen (Others G L) s s' → Tx.Path (Rely Inv G) s' (S.tx op) [] [] rest L ws
  | _ => True

/-- Every session holds its place, and no key is held twice. -/
structure World.Sound (w : S.World) : Prop where
  holds : ∀ (i : ℕ) (p : S.Call × S.Session), w.sessions[i]? = some p → p.2.Holds Inv G w.db
  apart : ∀ (i j : ℕ) (p q : S.Call × S.Session), i ≠ j → w.sessions[i]? = some p → w.sessions[j]? = some q → ∀ k ∈ p.2.locks, k ∉ q.2.locks

variable {Inv G}

theorem World.Sound.free {w : S.World} (h : w.Sound Inv G) {i : ℕ} {p : S.Call × S.Session} (hi : w.sessions[i]? = some p) :
    ∀ k ∈ p.2.locks, w.Free i k :=
  fun k hk j hj q hq => h.apart i j p q (Ne.symm hj) hi hq k hk

theorem World.Sound.put {w : S.World} (h : w.Sound Inv G) {i : ℕ} {x : S.Session} (hx : x.Holds Inv G w.db)
    (hf : ∀ k ∈ x.locks, w.Free i k) : (w.put i x).Sound Inv G where
  holds j p hp := by
    by_cases hij : i = j
    · subst hij
      rw [World.put_self hp]
      exact hx
    · exact h.holds j p (by rwa [World.put_ne hij] at hp)
  apart j j' p q hne hp hq k hk := by
    by_cases hij : i = j
    · subst hij
      rw [World.put_self hp] at hk
      exact hf k hk j' (Ne.symm hne) q (by rwa [World.put_ne hne] at hq)
    · rw [World.put_ne hij] at hp
      by_cases hij' : i = j'
      · subst hij'
        rw [World.put_self hq]
        exact fun hx => hf k hx j hne p hp hk
      · rw [World.put_ne hij'] at hq
        exact h.apart j j' p q hne hp hq k hk

theorem World.Sound.ready {w : S.World} (h : w.Sound Inv G) {i : ℕ} {x : S.Session} (hx : x.Holds Inv G w.db)
    (hl : x.locks = []) : (w.put i x).Sound Inv G :=
  h.put hx (by rw [hl]; exact fun k hk => nomatch hk)

theorem World.Sound.spawn {w : S.World} (h : w.Sound Inv G) (c : S.Call) : (w.spawn c).Sound Inv G := by
  have hnew : ∀ (i : ℕ) (p : S.Call × S.Session), (w.spawn c).sessions[i]? = some p → w.sessions[i]? = some p ∨ p.2 = .ready (S.proc c) := by
    intro i p hp
    unfold World.spawn at hp
    rw [List.getElem?_append] at hp
    split at hp
    · exact .inl hp
    · rw [List.getElem?_singleton] at hp
      split at hp
      · cases hp; exact .inr rfl
      · cases hp
  refine ⟨fun i p hp => ?_, fun i j p q hne hp hq k hk => ?_⟩
  · rcases hnew i p hp with hp | hp
    · exact h.holds i p hp
    · rw [hp]; trivial
  · rcases hnew i p hp with hp | hp
    · rcases hnew j q hq with hq | hq
      · exact h.apart i j p q hne hp hq k hk
      · rw [hq]; exact fun hk => nomatch hk
    · rw [hp] at hk; cases hk

/-- **A commit leaves the other sessions their place**, if it does what is promised of keys that none of them holds. -/
theorem World.Sound.commit {w : S.World} (h : w.Sound Inv G) {i : ℕ} {c : S.Call} {op : S.Op} {L K : List S.Key}
    {ws : List S.Write} {a : S.Res op} {next : Except S.Err (S.Res op) → S.Code} {p : S.Code}
    (hi : w.sessions[i]? = some (c, .inTx op L ws (.done a) next)) (hK : ∀ k ∈ K, w.Free i k)
    (hg : G K w.db (Tx.applyAll S.Row ws w.db)) :
    (World.put { w with db := Tx.applyAll S.Row ws w.db } i (.ready p)).Sound Inv G := by
  have hkeys := (h.holds i _ hi).1
  have hfree := h.free hi
  refine ⟨fun j q hq => ?_, fun j j' q r hne hq hr k hk => ?_⟩
  · by_cases hij : i = j
    · subst hij
      rw [World.put_self hq]
      trivial
    · rw [World.put_ne hij] at hq
      have hj := h.holds j q hq
      cases hx : q.2 with
      | inTx op' L' ws' rest next' =>
        rw [hx] at hj
        have hL : ∀ k ∈ L, k ∉ L' := fun k hk => by
          have := hfree k hk j (Ne.symm hij) q hq
          rwa [hx] at this
        have hK' : ∀ k ∈ K, k ∉ L' := fun k hk => by
          have := hK k hk j (Ne.symm hij) q hq
          rwa [hx] at this
        refine ⟨hj.1, fun s' hs' => hj.2 s' (.head ⟨K, hK', hg, fun k hk => ?_⟩ hs')⟩
        exact (Tx.get_applyAll_of_notMem _ fun v hv hkv => hL k (hkeys v hv k hkv) hk).symm
      | ready p => trivial
      | waiting j next => trivial
      | finished r => trivial
      | crashed => trivial
  · by_cases hij : i = j
    · subst hij
      rw [World.put_self hq] at hk
      cases hk
    · rw [World.put_ne hij] at hq
      by_cases hij' : i = j'
      · subst hij'
        rw [World.put_self hr]
        exact fun hk => nomatch hk
      · rw [World.put_ne hij'] at hr
        exact h.apart j j' q r hne hq hr k hk

theorem World.Sound.faithful {w : S.World} (h : w.Sound Inv G) {i : ℕ} {c : S.Call} {op : S.Op} {L : List S.Key}
    {ws : List S.Write} {a : S.Res op} {next : Except S.Err (S.Res op) → S.Code}
    (hi : w.sessions[i]? = some (c, .inTx op L ws (.done a) next)) : Commit.Faithful Inv G ⟨c, op, w.db, ⟨a, L, ws⟩⟩ :=
  ((h.holds i _ hi).2 w.db .refl).exec rfl

theorem World.Sound.fails {w : S.World} (h : w.Sound Inv G) {i : ℕ} {c : S.Call} {op : S.Op} {L : List S.Key}
    {ws : List S.Write} {e : S.Err} {next : Except S.Err (S.Res op) → S.Code}
    (hi : w.sessions[i]? = some (c, .inTx op L ws (.fail e) next)) : Failure.Faithful Inv G ⟨c, op, w.db, e⟩ :=
  ((h.holds i _ hi).2 w.db .refl).fails rfl

/-- The statements of an open transaction, one at a time. -/
theorem World.Sound.statement {w : S.World} (h : w.Sound Inv G) {i : ℕ} {c : S.Call} {op : S.Op} {L L' : List S.Key}
    {ws ws' : List S.Write} {t t' : S.Body op} {next : Except S.Err (S.Res op) → S.Code}
    (hi : w.sessions[i]? = some (c, .inTx op L ws t next)) (hL : ∀ k ∈ L, k ∈ L')
    (hk : ∀ k ∈ L', k ∈ L ∨ w.Free i k) (hws : ∀ v ∈ ws', ∀ k ∈ Store.keys S.State S.Row v, k ∈ L')
    (hex : ∀ s', ReflTransGen (Others G L') w.db s' → Tx.Path (Rely Inv G) s' (S.tx op) [] [] t L ws →
      Tx.Path (Rely Inv G) s' (S.tx op) [] [] t' L' ws') :
    (w.put i (.inTx op L' ws' t' next)).Sound Inv G := by
  have hold := (h.holds i _ hi).2
  refine h.put ⟨hws, fun s' hs' => hex s' hs' (hold s' (others_mono hL hs'))⟩ fun k hk' => ?_
  rcases hk k hk' with hk | hk
  · exact h.free hi k hk
  · exact hk

end Sound

/-! ## The rule -/

section Rule
variable {Inv : S.State → Prop} {G : List S.Key → S.State → S.State → Prop} {Permitted : S.Op → Prop} {Cond : S.Commit → Prop}

/-- A step that commits does so at the state it finds, by the body of its transaction. -/
theorem Step.faithful {w w' : S.World} {es : List S.Event} (step : Step w es w') (h : w.Sound Inv G) {c : S.Commit}
    (hc : .commit c ∈ es) : c.before = w.db ∧ c.Faithful Inv G := by
  cases step with
  | commit hi => cases List.mem_singleton.1 hc; exact ⟨rfl, h.faithful hi⟩
  | commitUnheard hi => cases List.mem_singleton.1 hc; exact ⟨rfl, h.faithful hi⟩
  | rollback hi => cases List.mem_singleton.1 hc
  | returns hi => cases List.mem_singleton.1 hc
  | raises hi => cases List.mem_singleton.1 hc
  | _ => cases hc

/-- A step that rolls back has run the body of its transaction to an error. -/
theorem Step.fails {w w' : S.World} {es : List S.Event} (step : Step w es w') (h : w.Sound Inv G) {f : S.Failure}
    (hf : .failed f ∈ es) : f.before = w.db ∧ f.Faithful Inv G := by
  cases step with
  | rollback hi => cases List.mem_singleton.1 hf; exact ⟨rfl, h.fails hi⟩
  | commit hi => cases List.mem_singleton.1 hf
  | commitUnheard hi => cases List.mem_singleton.1 hf
  | returns hi => cases List.mem_singleton.1 hf
  | raises hi => cases List.mem_singleton.1 hf
  | _ => cases hf

/-- The commit does what is promised of keys that are its own, or that nobody holds. -/
def World.Promises (w : S.World) (G : List S.Key → S.State → S.State → Prop) (c : S.Commit) : Prop :=
  ∃ K, (∀ k ∈ K, k ∈ c.out.locks ∨ w.Unheld k) ∧ G K c.before c.after

/-- **One step keeps the world sound**, when the commit it may make keeps the invariant and the promise. -/
theorem Step.sound {w w' : S.World} {es : List S.Event} (step : Step w es w') (h : w.Sound Inv G) (hI : Inv w.db)
    (hc : ∀ c : S.Commit, .commit c ∈ es → Inv c.after ∧ w.Promises G c) :
    w'.Sound Inv G ∧ Inv w'.db := by
  have hfree : ∀ {i : ℕ} {c : S.Call} {op : S.Op} {L K : List S.Key} {ws : List S.Write} {t : S.Body op}
      {next : Except S.Err (S.Res op) → S.Code}, w.sessions[i]? = some (c, .inTx op L ws t next) →
      (∀ k ∈ K, k ∈ L ∨ w.Unheld k) → ∀ k ∈ K, w.Free i k := by
    intro i c op L K ws t next hi hK k hk
    rcases hK k hk with hk | hk
    · exact h.free hi k hk
    · exact fun j _ p hp => hk p (List.mem_of_getElem? hp)
  cases step with
  | spawn c => exact ⟨h.spawn c, hI⟩
  | «begin» hi => exact ⟨h.put ⟨fun v hv => (nomatch hv), fun s' _ => .start⟩ fun k hk => (nomatch hk), hI⟩
  | @lock i _ op L ws k body next hi hk =>
    have hkeys := (h.holds i _ hi).1
    refine ⟨h.statement hi (fun q hq => List.mem_cons_of_mem _ hq) (fun q hq => ?_)
      (fun v hv q hq => List.mem_cons_of_mem _ (hkeys v hv q hq)) (fun s' hs' hpath => ?_), hI⟩
    · rcases List.mem_cons.1 hq with rfl | hq
      · exact .inr hk
      · exact .inl hq
    · -- the row read when the lock was taken is the row at the commit
      have heq := Tx.get_applyAll_congr (fun (v : S.Write) hv q hq => List.mem_cons_of_mem k (hkeys v hv q hq))
        (get_eq_of_others hs') k List.mem_cons_self
      rw [heq]
      exact hpath.lock
  | @write i _ op L ws v rest next hi hk =>
    have hkeys := (h.holds i _ hi).1
    refine ⟨h.statement hi (fun q hq => List.mem_append_right _ hq) (fun q hq => ?_) (fun u hu q hq => ?_)
      (fun s' _ hpath => hpath.write), hI⟩
    · rcases List.mem_append.1 hq with hq | hq
      · exact .inr (hk q hq)
      · exact .inl hq
    · rcases List.mem_append.1 hu with hu | hu
      · exact List.mem_append_right _ (hkeys u hu q hq)
      · cases List.mem_singleton.1 hu
        exact List.mem_append_left _ hq
  | @peek i _ op L ws body next hi =>
    have hkeys := (h.holds i _ hi).1
    exact ⟨h.statement hi (fun q hq => hq) (fun q hq => .inl hq) hkeys fun s' hs' hpath => hpath.peek ⟨hI, hs'⟩, hI⟩
  | commit hi =>
    obtain ⟨h1, K, hK, h2⟩ := hc _ List.mem_cons_self
    exact ⟨h.commit hi (hfree hi hK) h2, h1⟩
  | commitUnheard hi =>
    obtain ⟨h1, K, hK, h2⟩ := hc _ List.mem_cons_self
    exact ⟨h.commit hi (hfree hi hK) h2, h1⟩
  | send hi => exact ⟨(h.ready (by trivial) rfl).spawn _, hI⟩
  | rollback hi => exact ⟨h.ready trivial rfl, hI⟩
  | abort hi => exact ⟨h.ready trivial rfl, hI⟩
  | unsent hi => exact ⟨h.ready trivial rfl, hI⟩
  | reply hi hj => exact ⟨h.ready trivial rfl, hI⟩
  | timeout hi => exact ⟨h.ready trivial rfl, hI⟩
  | answer hi a => exact ⟨h.ready trivial rfl, hI⟩
  | returns hi => exact ⟨h.ready trivial rfl, hI⟩
  | raises hi => exact ⟨h.ready trivial rfl, hI⟩
  | crash hi => exact ⟨h.ready (by trivial) rfl, hI⟩

/-- The permitted commits that meet `Cond` keep the invariant and the promise. -/
def Keeps (Inv : S.State → Prop) (G : List S.Key → S.State → S.State → Prop) (Permitted : S.Op → Prop)
    (Cond : S.Commit → Prop) : Prop :=
  ∀ c : S.Commit, Permitted c.op → Inv c.before → c.Faithful Inv G → Cond c → Inv c.after ∧ G c.out.locks c.before c.after

theorem quiet_sound (s : S.State) : (quiet s).Sound Inv G :=
  ⟨fun _ _ h => (by cases h), fun _ _ _ _ _ h => (by cases h)⟩

/-- Along a run every commit met `Cond` and the world is sound, or some commit did not, and up to there all was well. -/
theorem Run.sound_or_first (hk : Keeps Inv G Permitted Cond) {s : S.State} {es : List S.Event} {w : S.World}
    (run : Run (quiet s) es w) (hs : Inv s) (hp : ∀ c : S.Commit, .commit c ∈ es → Permitted c.op) :
    (w.Sound Inv G ∧ Inv w.db ∧ (∀ c : S.Commit, .commit c ∈ es → Cond c ∧ Inv c.before ∧ c.Faithful Inv G) ∧
        ∀ f : S.Failure, .failed f ∈ es → Inv f.before ∧ f.Faithful Inv G) ∨
      ∃ c : S.Commit, .commit c ∈ es ∧ ¬ Cond c ∧ Inv c.before ∧ c.Faithful Inv G := by
  induction run with
  | start => exact .inl ⟨quiet_sound s, hs, fun c hc => (nomatch hc), fun f hf => (nomatch hf)⟩
  | @step es es' w w' run step ih =>
    rcases ih fun c hc => hp c (List.mem_append_left _ hc) with ⟨hw, hI, hall, hfail⟩ | ⟨c, hc, hbad⟩
    · have hnew : ∀ c : S.Commit, .commit c ∈ es' → Inv c.before ∧ c.Faithful Inv G := fun c hc => by
        obtain ⟨hb, hf⟩ := step.faithful hw hc
        exact ⟨hb ▸ hI, hf⟩
      by_cases hcond : ∀ c : S.Commit, .commit c ∈ es' → Cond c
      · obtain ⟨h1, h2⟩ := step.sound hw hI fun c hc => by
          obtain ⟨hinv, hg⟩ := hk c (hp c (List.mem_append_right _ hc)) (hnew c hc).1 (hnew c hc).2 (hcond c hc)
          exact ⟨hinv, c.out.locks, fun k hk => .inl hk, hg⟩
        refine .inl ⟨h1, h2, fun c hc => ?_, fun f hf => ?_⟩
        · rcases List.mem_append.1 hc with hc | hc
          · exact hall c hc
          · exact ⟨hcond c hc, hnew c hc⟩
        · rcases List.mem_append.1 hf with hf | hf
          · exact hfail f hf
          · obtain ⟨hb, hf'⟩ := step.fails hw hf
            exact ⟨hb ▸ hI, hf'⟩
      · push Not at hcond
        obtain ⟨c, hc, hbad⟩ := hcond
        exact .inr ⟨c, List.mem_append_right _ hc, hbad, hnew c hc⟩
    · exact .inr ⟨c, List.mem_append_left _ hc, hbad⟩

/-- **A run in which every commit meets `Ok`** in the world it is made in. -/
inductive RunWhere (Ok : S.World → S.Commit → Prop) (w₀ : S.World) : List S.Event → S.World → Prop
  | start : RunWhere Ok w₀ [] w₀
  | step {es es' : List S.Event} {w w' : S.World} (run : RunWhere Ok w₀ es w) (step : Step w es' w')
      (ok : ∀ c : S.Commit, .commit c ∈ es' → Ok w c) : RunWhere Ok w₀ (es ++ es') w'

/-- **The rule for such runs**: what the commits that are `Ok` in a world keep, every state of the run has. -/
theorem RunWhere.sound {Ok : S.World → S.Commit → Prop}
    (hk : ∀ (w : S.World) (c : S.Commit), Inv c.before → c.Faithful Inv G → Ok w c → Inv c.after ∧ w.Promises G c)
    {s : S.State} {es : List S.Event} {w : S.World} (run : RunWhere Ok (quiet s) es w) (hs : Inv s) : w.Sound Inv G ∧ Inv w.db := by
  induction run with
  | start => exact ⟨quiet_sound s, hs⟩
  | step run step ok ih =>
    refine step.sound ih.1 ih.2 fun c hc => ?_
    obtain ⟨hbefore, hfaithful⟩ := step.faithful ih.1 hc
    exact hk _ c (hbefore ▸ ih.2) hfaithful (ok c hc)

end Rule

/-! ### Schedules -/

/-- In the world in which a command commits nobody else holds anything. -/
theorem Step.alone {w w' : S.World} {es : List S.Event} (step : Step w es w') (hcalm : w'.Calm) {c : S.Commit} (hc : .commit c ∈ es) :
    ∀ p ∈ w.sessions, ∀ k ∈ p.2.locks, k ∈ c.out.locks := by
  have hothers : ∀ {i : ℕ} {call : S.Call} {op : S.Op} {L : List S.Key} {ws : List S.Write} {t : S.Body op}
      {next : Except S.Err (S.Res op) → S.Code} {s : S.State} {x : S.Session}, w.sessions[i]? = some (call, .inTx op L ws t next) →
      (World.put ⟨s, w.sessions⟩ i x).Calm → ∀ p ∈ w.sessions, ∀ k ∈ p.2.locks, k ∈ L := by
    intro i call op L ws t next s x hi hcalm p hp k hk
    obtain ⟨j, hj⟩ := List.getElem?_of_mem hp
    by_cases hij : i = j
    · subst hij
      rw [hi] at hj
      cases hj
      exact hk
    · rw [hcalm j p (by rw [World.put_ne hij]; exact hj)] at hk
      cases hk
  cases step with
  | commit hi =>
    cases List.mem_singleton.1 hc
    exact hothers hi hcalm
  | commitUnheard hi =>
    cases List.mem_singleton.1 hc
    exact hothers hi hcalm
  | rollback hi => cases List.mem_singleton.1 hc
  | returns hi => cases List.mem_singleton.1 hc
  | raises hi => cases List.mem_singleton.1 hc
  | _ => cases hc

/-- **A schedule is such a run** if its commits are `Ok` wherever nobody else is in the middle of anything. -/
theorem schedule_runWhere {Ok : S.World → S.Commit → Prop} {w₀ : S.World} : ∀ (cmds : List S.Cmd) {w : S.World} {es : List S.Event},
    RunWhere Ok w₀ es w → w.Calm →
    (∀ c : S.Commit, .commit c ∈ (schedule w cmds).1 → ∀ w' : S.World, (∀ p ∈ w'.sessions, ∀ k ∈ p.2.locks, k ∈ c.out.locks) → Ok w' c) →
    RunWhere Ok w₀ (es ++ (schedule w cmds).1) (schedule w cmds).2
  | [], w, es, run, _, _ => by rwa [schedule, List.append_nil]
  | cmd :: cmds, w, es, run, h, hok => by
    obtain ⟨hcalm, w₁, hsilent, hlast⟩ := obey_step h cmd
    have hrun : RunWhere Ok w₀ es w₁ := by
      clear hlast
      generalize hes : ([] : List S.Event) = es' at hsilent
      induction hsilent with
      | start => exact run
      | @step es₁ es₂ w₂ w₃ _ step ih =>
        obtain ⟨rfl, rfl⟩ := List.append_eq_nil_iff.1 hes.symm
        have hnext := (ih rfl).step step fun c hc => by cases hc
        rwa [List.append_nil] at hnext
    have hfirst : RunWhere Ok w₀ (es ++ (obey w cmd).1) (obey w cmd).2 := by
      rcases hlast with hlast | ⟨step, _⟩
      · rw [hlast, List.append_nil]
        exact hrun
      · exact hrun.step step fun c hc => hok c (List.mem_append_left _ hc) w₁ (step.alone hcalm hc)
    have hrest := schedule_runWhere cmds hfirst hcalm fun c hc => hok c (List.mem_append_right _ hc)
    rwa [List.append_assoc] at hrest

namespace Execution

variable {Init : S.State → Prop} {Permitted : S.Op → Prop} {Inv : S.State → Prop}
  {G : List S.Key → S.State → S.State → Prop} {Cond : S.Commit → Prop}

/-- **The rule for runs whose every commit meets `Cond`**: the invariant at both ends of every commit. -/
theorem commits (e : Execution S Init Permitted) (hk : Keeps Inv G Permitted Cond) (h0 : ∀ s, Init s → Inv s)
    (hc : ∀ c, .commit c ∈ e.events → Cond c) :
    ∀ c, .commit c ∈ e.events → Inv c.before ∧ c.Faithful Inv G ∧ Inv c.after ∧ G c.out.locks c.before c.after := by
  intro c hm
  rcases e.run.sound_or_first hk (h0 _ e.starts) e.permitted with ⟨_, _, h, _⟩ | ⟨b, hb, hbad, _⟩
  · obtain ⟨h1, h2, h3⟩ := h c hm
    exact ⟨h2, h3, hk c (e.permitted c hm) h2 h3 h1⟩
  · exact absurd (hc b hb) hbad

/-- With nothing to keep, every commit is of its body. -/
theorem faithful (e : Execution S Init Permitted) :
    ∀ c, .commit c ∈ e.events → c.Faithful (fun _ => True) fun _ _ _ => True := by
  have hk : Keeps (fun _ => True) (fun _ _ _ => True) Permitted (fun _ : S.Commit => True) := fun _ _ _ _ _ => ⟨trivial, trivial⟩
  exact fun c hc => (e.commits hk (fun _ _ => trivial) (fun _ _ => trivial) c hc).2.1

/-- Every transaction that threw did so at a state that meets the invariant. -/
theorem failures (e : Execution S Init Permitted) (hk : Keeps Inv G Permitted Cond) (h0 : ∀ s, Init s → Inv s)
    (hc : ∀ c, .commit c ∈ e.events → Cond c) :
    ∀ f, .failed f ∈ e.events → Inv f.before ∧ f.Faithful Inv G := by
  rcases e.run.sound_or_first hk (h0 _ e.starts) e.permitted with ⟨_, _, _, h⟩ | ⟨b, hb, hbad, _⟩
  · exact h
  · exact absurd (hc b hb) hbad

/-- The invariant in every state of the run. -/
theorem invariant (e : Execution S Init Permitted) (hk : Keeps Inv G Permitted Cond) (h0 : ∀ s, Init s → Inv s)
    (hc : ∀ c, .commit c ∈ e.events → Cond c) {s : S.State} (hs : s ∈ e.history) : Inv s := by
  rcases mem_history.1 hs with rfl | ⟨c, hm, rfl⟩
  · exact h0 _ e.starts
  · exact (e.commits hk h0 hc c hm).2.2.1

/-- **When the condition is exact**: a commit that misses it, from a state that was still well, spoils what it reaches. -/
theorem iff_of_spoils (e : Execution S Init Permitted) (hk : Keeps Inv G Permitted Cond) (h0 : ∀ s, Init s → Inv s)
    {P : S.Commit → Prop} (hP : ∀ c, Permitted c.op → Inv c.before → c.Faithful Inv G → Cond c → P c)
    (hbad : ∀ c, Permitted c.op → Inv c.before → c.Faithful Inv G → ¬ Cond c → ¬ P c) :
    (∀ c, .commit c ∈ e.events → Cond c) ↔ ∀ c, .commit c ∈ e.events → P c := by
  constructor
  · intro hc c hm
    obtain ⟨h1, h2, _⟩ := e.commits hk h0 hc c hm
    exact hP c (e.permitted c hm) h1 h2 (hc c hm)
  · intro hp
    rcases e.run.sound_or_first hk (h0 _ e.starts) e.permitted with ⟨_, _, h, _⟩ | ⟨b, hb, hb', hI, hf⟩
    · exact fun c hm => (h c hm).1
    · exact absurd (hp b hb) (hbad b (e.permitted b hb) hI hf hb')

/-- The same of a property of states that the invariant implies. -/
theorem iff_history (e : Execution S Init Permitted) (hk : Keeps Inv G Permitted Cond) (h0 : ∀ s, Init s → Inv s)
    {P : S.State → Prop} (hP : ∀ s, Inv s → P s)
    (hbad : ∀ c, Permitted c.op → Inv c.before → c.Faithful Inv G → ¬ Cond c → ¬ P c.after) :
    (∀ c, .commit c ∈ e.events → Cond c) ↔ ∀ s ∈ e.history, P s := by
  rw [e.iff_of_spoils hk h0 (P := fun c => P c.after) (fun c hp h hf hc => hP _ (hk c hp h hf hc).1) hbad]
  constructor
  · intro h s hs
    rcases mem_history.1 hs with rfl | ⟨c, hc, rfl⟩
    · exact hP _ (h0 _ e.starts)
    · exact h c hc
  · exact fun h c hc => h _ (mem_history.2 (.inr ⟨c, hc, rfl⟩))

end Execution

end Rowdb.System
