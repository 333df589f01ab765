import Balii.Cart.Updates
/-!
# Clearing — whether a checkout clears the cart it was made from

A checkout compares the time of its snapshot with that of the cart it finds.  Every save gives the cart a new time, also one that
changes no line, and two saves in one millisecond give it the same: the comparison is right exactly when the last save between the two
tells by its time what it did to the lines.
-/
namespace Balii.Carts

open Rowdb Rowdb.Atomic List

variable {cfg : Config}

section Runs
variable (r : (carts cfg).Run fun _ => True)

/-- The checkout `i` has saved its snapshot at the place `s`, and at `m`, the last time before `n`, it read the cart again. -/
structure Checkout (i : ℕ) (owner : Owner) (key : String) (s m n : ℕ) (snapshot : Cart) : Prop where
  saved : ∃ b, Does r.trace s i (.createOrder owner) (.set key snapshot) b
  read : ∃ b, Does r.trace m i (.createOrder owner) (.get key) b
  after : s < m
  before : m < n
  last : ∀ k b, m < k → k < n → ¬ Does r.trace k i (.createOrder owner) (.get key) b

/-- At the place `n` the checkout deletes the cart. -/
def ClearedAt (n i : ℕ) (owner : Owner) (key : String) : Prop := ∃ b, Does r.trace n i (.createOrder owner) (.del key) b

/-- At the place `n` the checkout ends, and has not cleared the cart, for the cart had changed. -/
def KeptAt (n i : ℕ) (owner : Owner) : Prop := Returns r.trace n i (.createOrder owner) (.ok (.ordered (some false)))

/-- **A cart is cleared if and only if its lines are those of the snapshot.** -/
def ClearsExactly : Prop :=
  ∀ i owner key s m n snapshot, Checkout r i owner key s m n snapshot →
    (ClearedAt r n i owner key → (r.state n).lines key = linesOf snapshot.items) ∧
      (KeptAt r n i owner → (r.state m).lines key ≠ linesOf snapshot.items)

/-- The time tells whether these are the lines of the snapshot. -/
def Told (snapshot : Cart) (updatedAt : ℕ) (x : Lines) : Prop := updatedAt = snapshot.updatedAt ↔ x = linesOf snapshot.items

/-- The last change of the cart between the two places is told by its time: the time it saved the cart with, or, if it deleted the
cart or the cart's week ended, the time at which the checkout then made an empty one. -/
def Tells (i : ℕ) (owner : Owner) (key : String) (s m n : ℕ) (snapshot : Cart) : Prop :=
  ∀ k j call op b, s < k → k < m → Does r.trace k j call op b → Changes key op b → (∀ k', k < k' → k' < m → ¬ ChangesAt r.trace k' key) →
    match op with
    | .set _ later => Told snapshot later.updatedAt (linesOf later.items)
    | _ => ∀ w b', m < w → w < n → Does r.trace w i (.createOrder owner) .readClock b' → Told snapshot b'.now []

/-- While the checkout compares, the cart's week ends. -/
def EndsMeanwhile (key : String) (m n : ℕ) : Prop := ∃ k, m < k ∧ k < n ∧ RunsOutAt r.trace k key

/-- So it is for every checkout that has come to its end; and if the cart's week ends while the checkout compares, nothing is deleted
that the snapshot should have had. -/
def TimesTell : Prop :=
  ∀ i owner key s m n snapshot, Checkout r i owner key s m n snapshot →
    (ClearedAt r n i owner key → ¬ EndsMeanwhile r key m n → Tells r i owner key s m n snapshot) ∧
      (ClearedAt r n i owner key → EndsMeanwhile r key m n → linesOf snapshot.items = []) ∧
      (KeptAt r n i owner → Tells r i owner key s m n snapshot)

end Runs

/-! ## The comparison -/

section Comparison
variable {r : (carts cfg).Run fun _ => True} {s m n i : ℕ} {owner : Owner} {key : String} {snapshot snap cart : Cart} {l rest : Log cfg}

/-- The snapshot and the cart of the log are those of the trace. -/
theorem Compares.places (h : Compares key snap cart l) (hl : LoggedTo r.trace n i (.createOrder owner) (l ++ rest))
    (hrest : ∀ w ∈ rest, Releases key w.op) (hcheckout : Checkout r i owner key s m n snapshot) :
    snap = snapshot ∧ ∃ l₃ : Log cfg, Found key (r.state m) l₃ cart ∧ l₃.length ≤ 1 ∧
      (∀ w ∈ l₃, m < w.place ∧ w.place < n ∧ Does r.trace w.place i (.createOrder owner) .readClock w.before) ∧
      ∀ w b, m < w → w < n → Does r.trace w i (.createOrder owner) .readClock b → ∃ x ∈ l₃, x.before = b := by
  obtain ⟨l₁, z, l₂, y, l₃, rfl, hset, hget, -, hl₁, hl₂, hclock, hlength, hfound⟩ := h
  obtain ⟨⟨bs, hsaved⟩, ⟨bm, hread⟩, hsm, hmn, hlast⟩ := hcheckout
  have hmem : ∀ x ∈ l₁ ++ z :: l₂ ++ y :: l₃, x ∈ l₁ ++ z :: l₂ ++ y :: l₃ ++ rest := fun x hx => List.mem_append_left _ hx
  have hy : y ∈ l₁ ++ z :: l₂ ++ y :: l₃ ++ rest := hmem y (by simp)
  -- The only `SET` of the log is the snapshot.
  have hsnap : snap = snapshot := by
    obtain ⟨x, hx, -, hop, -⟩ := hl.find (hsm.trans hmn) hsaved
    have hwritten : x.op.written = some key := by
      rw [hop]
      rfl
    simp only [List.append_assoc, List.cons_append, List.mem_append, List.mem_cons] at hx
    rcases hx with hx | rfl | hx | rfl | hx | hx
    · rw [hl₁ x hx] at hwritten
      cases hwritten
    · rw [hset] at hop
      cases hop
      rfl
    · rw [hl₂ x hx] at hwritten
      cases hwritten
    · rw [hget] at hwritten
      cases hwritten
    · rw [hclock x hx] at hwritten
      cases hwritten
    · obtain ⟨token, htoken⟩ := hrest x hx
      rw [htoken] at hwritten
      cases hwritten
  -- Nothing is read after `y`, so that is where the checkout read last.
  have hordered := hl.pairwise
  rw [List.append_assoc, List.cons_append, List.pairwise_append] at hordered
  obtain ⟨-, hlater, hearlier⟩ := hordered
  have hym : y.place = m := by
    have hyn := hl.lt y hy
    have hym : y.place ≤ m := by
      by_contra hgt
      exact hlast y.place y.before (by omega) hyn (hget ▸ hl.does hy)
    obtain ⟨x, hx, rfl, hop, -⟩ := hl.find hmn hread
    rw [List.append_assoc, List.cons_append] at hx
    rcases List.mem_append.1 hx with hx | hx
    · have := hearlier x hx y List.mem_cons_self
      omega
    · rcases List.mem_cons.1 hx with rfl | hx
      · rfl
      · rcases List.mem_append.1 hx with hx | hx
        · rw [hclock x hx] at hop
          cases hop
        · obtain ⟨token, htoken⟩ := hrest x hx
          rw [htoken] at hop
          cases hop
  have hbefore : y.before = r.state m := hym ▸ ((hl.does hy).at r.lawful).1
  refine ⟨hsnap, l₃, hbefore ▸ hfound, hlength, fun w hw => ?_, fun w b hmw hwn hdoes => ?_⟩
  · have hmem' : w ∈ l₁ ++ z :: l₂ ++ y :: l₃ ++ rest := hmem w (by simp [hw])
    refine ⟨?_, hl.lt w hmem', hclock w hw ▸ hl.does hmem'⟩
    rw [← hym]
    exact List.rel_of_pairwise_cons hlater (List.mem_append_left _ hw)
  · obtain ⟨x, hx, rfl, hop, hb⟩ := hl.find hwn hdoes
    rw [List.append_assoc, List.cons_append] at hx
    rcases List.mem_append.1 hx with hx | hx
    · have := hearlier x hx y List.mem_cons_self
      omega
    · rcases List.mem_cons.1 hx with rfl | hx
      · rw [hget] at hop
        cases hop
      · rcases List.mem_append.1 hx with hx | hx
        · exact ⟨x, hx, hb⟩
        · obtain ⟨token, htoken⟩ := hrest x hx
          rw [htoken] at hop
          cases hop

theorem exists_lastChange (τ : (carts cfg).Trace) (key : String) (s m : ℕ) : (∀ k, s < k → k < m → ¬ ChangesAt τ k key) ∨
    ∃ k, s < k ∧ k < m ∧ ChangesAt τ k key ∧ ∀ k', k < k' → k' < m → ¬ ChangesAt τ k' key := by
  induction m with
  | zero => exact .inl fun k _ hk => absurd hk (Nat.not_lt_zero k)
  | succ m ih =>
    by_cases hm : s < m ∧ ChangesAt τ m key
    · exact .inr ⟨m, hm.1, Nat.lt_succ_self m, hm.2, fun k' h1 h2 => by omega⟩
    · have hnone : s < m → ¬ ChangesAt τ m key := fun hsm hchanges => hm ⟨hsm, hchanges⟩
      rcases ih with hfree | ⟨k, hsk, hkm, hchanges, hfree⟩
      · refine .inl fun k hsk hkm => ?_
        rcases Nat.lt_succ_iff_lt_or_eq.1 hkm with hlt | rfl
        · exact hfree k hsk hlt
        · exact hnone hsk
      · refine .inr ⟨k, hsk, by omega, hchanges, fun k' hkk' hk'm => ?_⟩
        rcases Nat.lt_succ_iff_lt_or_eq.1 hk'm with hlt | rfl
        · exact hfree k' hkk' hlt
        · exact hnone (hsk.trans hkk')

/-- An empty cart that the checkout has made is told by the time at which it did so. -/
theorem told_gone_iff (hgone : (r.state m).carts.lookup key = none) {l₃ : Log cfg} (hfound : Found key (r.state m) l₃ cart)
    (hlength : l₃.length ≤ 1) (hclock : ∀ w ∈ l₃, m < w.place ∧ w.place < n ∧ Does r.trace w.place i (.createOrder owner) .readClock w.before)
    (hall : ∀ w b, m < w → w < n → Does r.trace w i (.createOrder owner) .readClock b → ∃ x ∈ l₃, x.before = b) :
    Told snapshot cart.updatedAt (linesOf cart.items) ↔
      ∀ w b, m < w → w < n → Does r.trace w i (.createOrder owner) .readClock b → Told snapshot b.now [] := by
  obtain ⟨hempty, w, hw, hnow⟩ : cart.items = [] ∧ ∃ w ∈ l₃, w.before.now = cart.updatedAt := by
    rcases hfound with h | ⟨_, hempty, w, hw, _, hnow⟩
    · rw [hgone] at h
      cases h
    · exact ⟨hempty, w, hw, hnow⟩
  have hlines : linesOf cart.items = [] := by
    rw [hempty]
    rfl
  rw [hlines, ← hnow]
  have hone : ∀ x ∈ l₃, x = w := by
    intro x hx
    obtain ⟨y, rfl⟩ | hnil := (Nat.le_one_iff_eq_zero_or_eq_one.1 hlength).symm.imp List.length_eq_one_iff.1 List.length_eq_zero_iff.1
    · exact (List.mem_singleton.1 hx).trans (List.mem_singleton.1 hw).symm
    · rw [hnil] at hw
      cases hw
  constructor
  · intro htold p bp hmp hpn hdoesp
    obtain ⟨x, hx, rfl⟩ := hall p bp hmp hpn hdoesp
    rw [hone x hx]
    exact htold
  · intro htells
    obtain ⟨hmw, hwn, hdoesw⟩ := hclock w hw
    exact htells w.place w.before hmw hwn hdoesw

/-- **What the checkout has read is told by its time exactly when the last change is.** -/
theorem told_iff (hcheckout : Checkout r i owner key s m n snapshot) {l₃ : Log cfg} (hfound : Found key (r.state m) l₃ cart)
    (hlength : l₃.length ≤ 1) (hclock : ∀ w ∈ l₃, m < w.place ∧ w.place < n ∧ Does r.trace w.place i (.createOrder owner) .readClock w.before)
    (hall : ∀ w b, m < w → w < n → Does r.trace w i (.createOrder owner) .readClock b → ∃ x ∈ l₃, x.before = b) :
    Told snapshot cart.updatedAt (linesOf cart.items) ↔ Tells r i owner key s m n snapshot := by
  obtain ⟨⟨bs, hsaved⟩, -, hsm, -, -⟩ := hcheckout
  rcases exists_lastChange r.trace key s m with hfree | ⟨k, hsk, hkm, ⟨j, call, op, b, hdoes, hop⟩, hfree⟩
  · have hlookup : (r.state m).carts.lookup key = some snapshot :=
      (lookup_between (Nat.succ_le_of_lt hsm) fun k hsk hkm => hfree k hsk hkm).trans (lookup_set hsaved)
    have hcart : cart = snapshot := by
      rcases hfound with h | ⟨h, _⟩
      · exact Option.some.inj (h.symm.trans hlookup)
      · rw [hlookup] at h
        cases h
    subst hcart
    exact ⟨fun _ k j call op b hsk hkm hdoes hop _ => absurd ⟨j, call, op, b, hdoes, hop⟩ (hfree k hsk hkm),
      fun _ => ⟨fun _ => rfl, fun _ => rfl⟩⟩
  · -- The last change is the only one of which `Tells` says anything.
    have honly : ∀ k' j' call' op' b', s < k' → k' < m → Does r.trace k' j' call' op' b' → Changes key op' b' →
        (∀ k'', k' < k'' → k'' < m → ¬ ChangesAt r.trace k'' key) → op' = op := by
      intro k' j' call' op' b' hsk' hk'm hdoes' hop' hfree'
      rcases Nat.lt_trichotomy k k' with hlt | rfl | hgt
      · exact absurd ⟨j', call', op', b', hdoes', hop'⟩ (hfree k' hlt hk'm)
      · exact (hdoes'.unique hdoes).2.2.1
      · exact absurd ⟨j, call, op, b, hdoes, hop⟩ (hfree' k hgt hkm)
    have hsame : (r.state m).carts.lookup key = (r.state (k + 1)).carts.lookup key :=
      lookup_between (Nat.succ_le_of_lt hkm) fun k' hkk' hk'm => hfree k' hkk' hk'm
    have hgone : (∀ key' later, op ≠ .set key' later) → (r.state m).carts.lookup key = none := by
      intro hset
      rw [hsame]
      rcases hop with hwritten | hrunsOut
      · cases op with
        | set key' later => exact absurd rfl (hset key' later)
        | del key' =>
          obtain rfl := Option.some.inj hwritten
          exact lookup_del hdoes
        | _ => cases hwritten
      · exact lookup_runsOut hdoes hrunsOut
    cases op with
    | set key' later =>
      obtain rfl : key' = key := by
        rcases hop with hop | ⟨ms, hop, _⟩
        · exact Option.some.inj hop
        · cases hop
      have hlookup := hsame.trans (lookup_set hdoes)
      have hcart : cart = later := by
        rcases hfound with h | ⟨h, _⟩
        · exact Option.some.inj (h.symm.trans hlookup)
        · rw [hlookup] at h
          cases h
      subst hcart
      refine ⟨fun htold k' j' call' op' b' hsk' hk'm hdoes' hop' hfree' => ?_, fun htells => htells k j call _ b hsk hkm hdoes hop hfree⟩
      obtain rfl := honly k' j' call' op' b' hsk' hk'm hdoes' hop' hfree'
      exact htold
    | del key' =>
      rw [told_gone_iff (hgone nofun) hfound hlength hclock hall]
      refine ⟨fun htold k' j' call' op' b' hsk' hk'm hdoes' hop' hfree' => ?_, fun htells => htells k j call _ b hsk hkm hdoes hop hfree⟩
      obtain rfl := honly k' j' call' op' b' hsk' hk'm hdoes' hop' hfree'
      exact htold
    | pass ms =>
      rw [told_gone_iff (hgone nofun) hfound hlength hclock hall]
      refine ⟨fun htold k' j' call' op' b' hsk' hk'm hdoes' hop' hfree' => ?_, fun htells => htells k j call _ b hsk hkm hdoes hop hfree⟩
      obtain rfl := honly k' j' call' op' b' hsk' hk'm hdoes' hop' hfree'
      exact htold
    | _ => rcases hop with hop | ⟨_, hop, _⟩ <;> cases hop

theorem Compares.read (h : Compares key snap cart l) : Read key cart l := by
  obtain ⟨l₁, z, l₂, y, l₃, rfl, _, hget, hholding, _, _, hclock, _, hfound⟩ := h
  exact ⟨l₁ ++ z :: l₂, y, l₃, rfl, hget, hholding, kept_of_quiet (quiet_of_clock hclock), hfound⟩

/-- From its last reading of the cart to the deletion nobody writes it. -/
theorem Checkout.unwritten (hcheckout : Checkout r i owner key s m n snapshot) (hserves : Undisputed r.trace)
    (hl : LoggedTo r.trace n i (.createOrder owner) l) (hread : Read key cart l) (hwrites : WritesAt r.trace n i key) :
    ∀ k j, m ≤ k → k < n → ¬ WritesAt r.trace k j key := by
  obtain ⟨m', b, hget, hm'n, -, hfree⟩ := hserves.unwritten (locked r) hl hread hwrites
  have hm' : m' ≤ m := by
    by_contra hlater
    exact hcheckout.last m' b (by omega) hm'n hget
  exact fun k j hmk hkn => hfree k j (hm'.trans hmk) hkn

theorem Checkout.lines_eq (hcheckout : Checkout r i owner key s m n snapshot) (hfree : ∀ k j, m ≤ k → k < n → ¬ WritesAt r.trace k j key)
    (hends : ¬ EndsMeanwhile r key m n) : (r.state n).lines key = (r.state m).lines key := by
  obtain ⟨b, hread⟩ := hcheckout.read
  have hsame : (r.state n).carts.lookup key = (r.state m).carts.lookup key :=
    lookup_between hcheckout.before.le fun k hmk hkn => not_changesAt (fun j => hfree k j hmk hkn) fun hrunsOut => by
      rcases hmk.eq_or_lt with rfl | hlt
      · obtain ⟨j, call, op, b', hdoes, ms, rfl, _⟩ := hrunsOut
        cases (hdoes.unique hread).2.2.1
      · exact hends ⟨k, hlt, hkn, hrunsOut⟩
  unfold State.lines
  rw [hsame]

theorem lines_of_ended (hfree : ∀ k j, m ≤ k → k < n → ¬ WritesAt r.trace k j key) (hends : EndsMeanwhile r key m n) :
    (r.state n).lines key = [] := by
  obtain ⟨k, hmk, hkn, j, call, op, b, hdoes, hrunsOut⟩ := hends
  have hgone : (r.state n).carts.lookup key = none := by
    refine keeps_between (P := fun s : State => s.carts.lookup key = none) r.lawful (Nat.succ_le_of_lt hkn)
      (fun p j' call' op' b' y b'' hkp hpn hdoes' hperf hp => ?_) (lookup_runsOut hdoes hrunsOut)
    by_cases hop : RunsOut key op' b'
    · obtain ⟨ms, rfl, hruns⟩ := hop
      cases hperf
      exact (lookup_later b' ms key).trans (if_pos hruns)
    · have hwritten : ¬ Changes key op' b' := by
        rintro (hwritten | hruns)
        · exact hfree p j' (by omega) hpn ⟨call', op', b', hdoes', hwritten⟩
        · exact hop hruns
      exact (lookup_perform hperf hwritten).trans hp
  unfold State.lines
  rw [hgone]
  rfl

/-- **A cart that has been cleared was cleared rightly exactly when the last change is told by its time**, and nothing was there to
clear if its week ended meanwhile. -/
theorem cleared_iff (hserves : Undisputed r.trace) (hcheckout : Checkout r i owner key s m n snapshot) (hcleared : ClearedAt r n i owner key) :
    (r.state n).lines key = linesOf snapshot.items ↔
      (¬ EndsMeanwhile r key m n → Tells r i owner key s m n snapshot) ∧ (EndsMeanwhile r key m n → linesOf snapshot.items = []) := by
  obtain ⟨b, hdel⟩ := hcleared
  obtain ⟨l, hl, hkey, snap, cart, hcompares, hsame⟩ := allowed hdel
  have hfree := hcheckout.unwritten hserves hl hcompares.read ⟨_, _, b, hdel, rfl⟩
  rw [← List.append_nil l] at hl
  obtain ⟨rfl, l₃, hfound, hlength, hclock, hall⟩ := hcompares.places hl (fun w hw => (nomatch hw)) hcheckout
  by_cases hends : EndsMeanwhile r key m n
  · rw [lines_of_ended hfree hends]
    exact ⟨fun h => ⟨fun hnot => absurd hends hnot, fun _ => h.symm⟩, fun h => (h.2 hends).symm⟩
  · rw [hcheckout.lines_eq hfree hends, hfound.lines, ← told_iff hcheckout hfound hlength hclock hall]
    exact ⟨fun h => ⟨fun _ => ⟨fun _ => h, fun _ => hsame⟩, fun hends' => absurd hends' hends⟩, fun h => (h.1 hends).1 hsame⟩

theorem kept_iff (hcheckout : Checkout r i owner key s m n snapshot) (hkept : KeptAt r n i owner) :
    (r.state m).lines key ≠ linesOf snapshot.items ↔ Tells r i owner key s m n snapshot := by
  obtain ⟨l, hl, -, hanswers⟩ := (meets_all r.traced fun call => proc_logs call).2 _ _ _ _ hkept
  obtain ⟨key', l', w, snap, cart, hkey', rfl, hreleases, hcompares, hchanged⟩ := hanswers owner rfl rfl
  have hkey : getCartKey owner = .ok key := by
    obtain ⟨bs, hsaved⟩ := hcheckout.saved
    obtain ⟨l, hl, hkey, _⟩ := allowed hsaved
    exact hkey
  obtain rfl : key = key' := Except.ok.inj (hkey.symm.trans hkey')
  have hrest : ∀ x ∈ [w], Releases key x.op := by
    intro x hx
    obtain rfl := List.mem_singleton.1 hx
    exact hreleases
  obtain ⟨rfl, l₃, hfound, hlength, hclock, hall⟩ := hcompares.places hl hrest hcheckout
  rw [hfound.lines, ← told_iff hcheckout hfound hlength hclock hall]
  exact ⟨fun h => ⟨fun hsame => absurd hsame hchanged, fun hlines => absurd hlines h⟩, fun h hlines => hchanged (h.2 hlines)⟩

end Comparison

/-- **Where the lock serves, carts are cleared exactly as they should be if and only if the times tell.** -/
theorem clearsExactly_iff (r : (carts cfg).Run fun _ => True) (hserves : Undisputed r.trace) : ClearsExactly r ↔ TimesTell r := by
  constructor
  · intro h i owner key s m n snapshot hcheckout
    obtain ⟨hclears, hkeeps⟩ := h i owner key s m n snapshot hcheckout
    refine ⟨fun hcleared => ?_, fun hcleared => ?_, fun hkept => (kept_iff hcheckout hkept).1 (hkeeps hkept)⟩
    · exact ((cleared_iff hserves hcheckout hcleared).1 (hclears hcleared)).1
    · exact ((cleared_iff hserves hcheckout hcleared).1 (hclears hcleared)).2
  · intro h i owner key s m n snapshot hcheckout
    obtain ⟨htells, hended, hkeeps⟩ := h i owner key s m n snapshot hcheckout
    refine ⟨fun hcleared => ?_, fun hkept => (kept_iff hcheckout hkept).2 (hkeeps hkept)⟩
    exact (cleared_iff hserves hcheckout hcleared).2 ⟨htells hcleared, hended hcleared⟩

/-! ## A cart that was only looked at -/

/-- The customer has one shirt in the cart. -/
def oneShirt : State where
  carts := (∅ : Table String Cart).insert "cart:7" ⟨"cart:7", [newItem (sampleVariant "red") 1], [], 0, 0, 0, 0, 0⟩
  expires := (∅ : Table String ℕ).insert "cart:7" cartTtlMs
  locks := ∅
  nextToken := 0
  now := 0

/-- A checkout, with what happens between its snapshot and its clearing. -/
def orderedWhile (between : List (System.Cmd (carts standardConfig).system)) : (carts standardConfig).Run fun _ => True :=
  .ofSchedule oneShirt
    ([.arrive (.createOrder customer), .arrive (.pass 1), .arrive (.getCart customer), .go 0, .go 0, .go 0, .answer 0 sampleShop,
      .answer 0 sampleShop, .answer 0 sampleShop, .answer 0 sampleShop, .go 0, .go 0, .go 0, .answer 0 sampleShop] ++ between ++
      [.go 0, .go 0, .go 0, .go 0, .go 0, .go 0]) trivial

/-- The customer looks at the cart a millisecond later. -/
def lookedAt : List (System.Cmd (carts standardConfig).system) :=
  [.go 1, .go 2, .go 2, .go 2, .answer 2 sampleShop, .answer 2 sampleShop, .answer 2 sampleShop, .go 2, .go 2, .go 2, .go 2]

theorem undisputed_of_short {r : (carts cfg).Run fun _ => True} (h : (r.state r.trace.length).now < lockTtlMs) : Undisputed r.trace := by
  refine undisputed_of_inTime fun key a n i _ hwrites _ _ => ?_
  obtain ⟨call, op, b, hdoes, _⟩ := hwrites
  have hnow := now_le (r := r) hdoes.lt.le
  omega

/-- The places of a checkout that nobody disturbs. -/
def undisturbedAt (n : ℕ) : Op → Bool
  | .set .. => n == 4
  | .del _ => n == 9
  | .get _ => n == 2 || n == 8
  | .pass _ => false
  | _ => true

theorem undisturbed_cleared : ClearsExactly (orderedWhile []) ∧ ((orderedWhile []).state 10).lines "cart:7" = [] := by
  refine ⟨(clearsExactly_iff _ (undisputed_of_short (by decide))).2 ?_, by decide⟩
  have hplaces : ∀ {n i call op b}, Does (orderedWhile []).trace n i call op b → undisturbedAt n op = true := fun hdoes =>
    forall_does (p := fun n _ _ op => undisturbedAt n op) (by decide) hdoes
  have hlasts : ∀ {k key}, ¬ RunsOutAt (orderedWhile []).trace k key := by
    rintro k key ⟨i, call, op, b, hdoes, ms, rfl, -⟩
    cases hplaces hdoes
  rintro i owner key s m n snapshot ⟨⟨bs, hsaved⟩, ⟨bm, hread⟩, hsm, -, -⟩
  have hs : s = 4 := beq_iff_eq.1 (hplaces hsaved)
  have hm : m = 2 ∨ m = 8 := by simpa [undisturbedAt] using hplaces hread
  have htells : Tells (orderedWhile []) i owner key s m n snapshot := by
    rintro k j call op b hsk hkm hdoes (hop | hop) -
    · have hk : k = 4 ∨ k = 9 := by
        have hplace := hplaces hdoes
        cases op with
        | set key' cart => exact .inl (beq_iff_eq.1 hplace)
        | del key' => exact .inr (beq_iff_eq.1 hplace)
        | _ => cases hop
      omega
    · exact absurd ⟨j, call, op, b, hdoes, hop⟩ hlasts
  exact ⟨fun _ _ => htells, fun _ ⟨_, _, _, hrunsOut⟩ => absurd hrunsOut hlasts, fun _ => htells⟩

/-- What the checkout does on the way. -/
def checkoutAt (n : ℕ) : Op → Bool
  | .set key cart => n == 4 && key == "cart:7" && linesOf cart.items == [("red", 1)]
  | .del _ => false
  | _ => true

/-- **A cart that was only looked at since the checkout is kept**, with what has been bought. -/
theorem lookedAt_kept : ¬ ∀ cfg, ∀ r : (carts cfg).Run fun _ => True, Undisputed r.trace → ClearsExactly r := by
  intro hall
  have hexact := hall _ (orderedWhile lookedAt) (undisputed_of_short (by decide))
  obtain ⟨i, call, op, b, hdoes, hp⟩ := exists_does (A := carts standardConfig) (τ := (orderedWhile lookedAt).trace) (n := 4)
    (p := fun i call op => decide (i = 0 ∧ call = .createOrder customer) && op.written.isSome && checkoutAt 4 op) (by decide)
  simp only [Bool.and_eq_true, decide_eq_true_eq] at hp
  obtain ⟨⟨⟨rfl, rfl⟩, hwrites⟩, hplace⟩ := hp
  cases op with
  | set key snapshot =>
    simp only [checkoutAt, Bool.and_eq_true, beq_iff_eq, true_and] at hplace
    obtain ⟨rfl, hlines⟩ := hplace
    obtain ⟨b', hread⟩ : ∃ b', Does (orderedWhile lookedAt).trace 16 0 (.createOrder customer) (.get "cart:7") b' :=
      does_of_actAt (by decide)
    have hreturns : KeptAt (orderedWhile lookedAt) 18 0 customer := returns_of_replyAt (by decide)
    have hlast : ∀ k b, 16 < k → k < 18 → ¬ Does (orderedWhile lookedAt).trace k 0 (.createOrder customer) (.get "cart:7") b := by
      intro k b hk hk' hget
      obtain rfl : k = 17 := by omega
      have hact := hget.actAt
      have hother : actAt (orderedWhile lookedAt).trace 17 ≠ some (0, Call.createOrder customer, Op.get "cart:7") := by decide
      exact hother hact
    have hcheckout : Checkout (orderedWhile lookedAt) 0 customer "cart:7" 4 16 18 snapshot :=
      ⟨⟨b, hdoes⟩, ⟨b', hread⟩, by omega, by omega, hlast⟩
    refine (hexact 0 customer "cart:7" 4 16 18 snapshot hcheckout).2 hreturns ?_
    rw [hlines]
    decide
  | del key => cases hplace
  | _ => cases hwrites

end Balii.Carts
