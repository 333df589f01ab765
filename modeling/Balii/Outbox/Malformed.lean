import Balii.Outbox.Ordering
/-!
# Malformed — a row that cannot be read, and the rows behind it

`claimPendingEvents` reads the rows it has chosen inside its transaction: one that cannot be read takes the whole batch back, and
stays as claimable as it was.
-/
namespace Balii.Outbox

open Rowdb Rowdb.Atomic List

/-! ## The rows behind a malformed one -/

/-- The claimable rows that can be read. -/
def readable (max : ℕ) (locked : List Uuid) (s : State) : List (Uuid × Event) := (free max locked s).filter fun x => x.2.wellFormed

/-- What a claim would take if nothing malformed were there. -/
def nextReadable (max limit : ℕ) (locked scan : List Uuid) (s : State) : List (Uuid × Event) :=
  ((readable max locked s).insertionSort (older scan)).take limit

/-- **No malformed row is in the way**: what a claim would take without the malformed rows, some claim returns. -/
def Unblocked (cfg : Config) (limit : ℕ) (locked : List Uuid) (s : State) : Prop :=
  ∀ scan, ∀ x ∈ nextReadable cfg.maxRetryCount limit locked scan s, ∃ scan' returning rows s',
    claimPendingEvents cfg limit locked scan' returning s = .ok (rows, s') ∧ claimedRow x ∈ rows

/-- The row can be read, and is no younger than any malformed one. -/
def isInFront (max : ℕ) (locked : List Uuid) (s : State) (x : Uuid × Event) : Bool :=
  x.2.wellFormed && (free max locked s).all fun y => y.2.wellFormed || x.2.createdAt ≤ y.2.createdAt

def inFront (max : ℕ) (locked : List Uuid) (s : State) : List (Uuid × Event) := (free max locked s).filter (isInFront max locked s)

/-- **A batch of readable rows is in front**: nothing claimable is malformed, or as many readable rows as are claimed at once are no
younger than any malformed one, or there is nothing to claim. -/
def Clear (cfg : Config) (limit : ℕ) (locked : List Uuid) (s : State) : Prop :=
  limit ≤ (inFront cfg.maxRetryCount locked s).length ∨ (∀ x ∈ free cfg.maxRetryCount locked s, x.2.wellFormed = true) ∨
    ∀ x ∈ free cfg.maxRetryCount locked s, x.2.wellFormed = false

section Claims
variable {cfg : Config} {max limit : ℕ} {locked scan : List Uuid} {s : State} {x y : Uuid × Event}

theorem mem_inFront : x ∈ inFront max locked s ↔ x ∈ free max locked s ∧ x.2.wellFormed = true ∧
    ∀ y ∈ free max locked s, y.2.wellFormed = false → x.2.createdAt ≤ y.2.createdAt := by
  unfold inFront isInFront
  rw [mem_filter, Bool.and_eq_true, all_eq_true]
  refine and_congr_right fun _ => and_congr_right fun _ => forall₂_congr fun y _ => ?_
  cases y.2.wellFormed <;> simp

/-- The rows in front stand before a malformed one, whatever the scan, as do those the scan meets first. -/
theorem before_malformed (hx : x ∈ inFront max locked s) (hy : y ∈ free max locked s) (hmalformed : y.2.wellFormed = false)
    (hx' : x.1 ∈ scan) (hy' : y.1 ∉ scan) : ¬ older scan y x := by
  have hle := (mem_inFront.1 hx).2.2 y hy hmalformed
  have hidx : scan.idxOf x.1 < scan.idxOf y.1 := by
    rw [idxOf_eq_length hy']
    exact idxOf_lt_length_of_mem hx'
  unfold older
  omega

theorem le_inFront_of_readable (hall : ∀ x ∈ nextEvents max limit locked scan s, x.2.wellFormed = true) (hy : y ∈ free max locked s)
    (hmalformed : y.2.wellFormed = false) : limit ≤ (inFront max locked s).length := by
  have hsorted := pairwise_insertionSort (older scan) (free max locked s)
  have hperm := perm_insertionSort (older scan) (free max locked s)
  let sorted := (free max locked s).insertionSort (older scan)
  have hbehind : ∀ z ∈ free max locked s, z.2.wellFormed = false → z ∈ sorted.drop limit := by
    intro z hz hz'
    have hmem := hperm.mem_iff.2 hz
    rw [← take_append_drop limit (insertionSort _ _)] at hmem
    refine (mem_append.1 hmem).resolve_left fun htake => ?_
    rw [hall z htake] at hz'
    cases hz'
  have hfront : ∀ x ∈ sorted.take limit, isInFront max locked s x = true := by
    intro x hx
    have hmem : x ∈ inFront max locked s := by
      refine mem_inFront.2 ⟨hperm.mem_iff.1 (mem_of_mem_take hx), hall x hx, fun z hz hz' => ?_⟩
      rw [← take_append_drop limit (insertionSort _ _)] at hsorted
      have hbefore := (pairwise_append.1 hsorted).2.2 x hx z (hbehind z hz hz')
      unfold older at hbefore
      omega
    exact (mem_filter.1 hmem).2
  have hfull : (sorted.take limit).length = limit := by
    have := length_pos_of_mem (hbehind y hy hmalformed)
    rw [length_drop] at this
    rw [length_take]
    omega
  calc limit = (sorted.take limit).countP (isInFront max locked s) := by rw [countP_eq_length.2 hfront, hfull]
    _ ≤ sorted.countP (isInFront max locked s) := (take_sublist _ _).countP_le
    _ = (inFront max locked s).length := by rw [hperm.countP_eq, countP_eq_length_filter]; rfl

/-- The scan that meets a row first, then the other readable ones. -/
def scanFrom (max : ℕ) (locked : List Uuid) (s : State) (x : Uuid × Event) : List Uuid := x.1 :: (readable max locked s).map Prod.fst

theorem mem_readable : x ∈ readable max locked s ↔ x ∈ free max locked s ∧ x.2.wellFormed = true := by
  unfold readable
  rw [mem_filter]

/-- A malformed row is not met. -/
theorem notMem_scanFrom (hx : x ∈ readable max locked s) (hy : y ∈ free max locked s) (hmalformed : y.2.wellFormed = false) :
    y.1 ∉ scanFrom max locked s x := by
  have hne : ∀ z ∈ readable max locked s, y.1 ≠ z.1 := by
    intro z hz heq
    obtain ⟨hfree, hwell⟩ := mem_readable.1 hz
    have hlookup := (mem_free.1 hy).1
    rw [heq, (mem_free.1 hfree).1] at hlookup
    rw [← Option.some.inj hlookup, hwell] at hmalformed
    cases hmalformed
  intro hmem
  rcases mem_cons.1 hmem with heq | hmem
  · exact hne x hx heq
  · obtain ⟨z, hz, heq⟩ := mem_map.1 hmem
    exact hne z hz heq.symm

/-- With a batch in front, the scan from one of its rows makes a batch that can be read and has the row. -/
theorem scanFrom_takes (hfront : limit ≤ (inFront max locked s).length) (hx : x ∈ nextReadable max limit locked scan s) :
    (∀ y ∈ nextEvents max limit locked (scanFrom max locked s x) s, y.2.wellFormed = true) ∧
      x ∈ nextEvents max limit locked (scanFrom max locked s x) s := by
  have hxr : x ∈ readable max locked s := (mem_insertionSort _).1 (mem_of_mem_take hx)
  obtain ⟨hxf, hxw⟩ := mem_readable.1 hxr
  have hperm := perm_insertionSort (older (scanFrom max locked s x)) (free max locked s)
  have hsorted := pairwise_insertionSort (older (scanFrom max locked s x)) (free max locked s)
  have hmet : ∀ z ∈ readable max locked s, z.1 ∈ scanFrom max locked s x := fun z hz => mem_cons_of_mem _ (mem_map.2 ⟨z, hz, rfl⟩)
  -- fewer than the limit of the readable rows are older than `x`
  have hfew : (readable max locked s).countP (fun z => z.2.createdAt < x.2.createdAt) < limit := by
    have hcount := countP_lt_of_mem_take (pairwise_insertionSort (older scan) (readable max locked s)) (older_refl scan x) hx
    rw [(perm_insertionSort (older scan) _).countP_eq] at hcount
    refine lt_of_le_of_lt (countP_mono_left fun z _ hz => ?_) hcount
    simpa using (older_of_created scan (of_decide_eq_true hz)).2
  have hinFront : ∀ p : Uuid × Event → Bool, (∀ g ∈ inFront max locked s, p g = true) → limit ≤ (free max locked s).countP p := by
    intro p hp
    calc limit ≤ (inFront max locked s).length := hfront
      _ = (inFront max locked s).countP p := (countP_eq_length.2 hp).symm
      _ ≤ (free max locked s).countP p := filter_sublist.countP_le
  refine ⟨fun y hy => ?_, ?_⟩
  · by_contra hnot
    have hmalformed : y.2.wellFormed = false := by simpa using hnot
    have hyf : y ∈ free max locked s := hperm.mem_iff.1 (mem_of_mem_take hy)
    have hcount := countP_lt_of_mem_take hsorted (older_refl _ y) hy
    rw [hperm.countP_eq] at hcount
    have hle := hinFront (fun z => ¬ older (scanFrom max locked s x) y z) fun g hg => by
      have hgr : g ∈ readable max locked s := mem_readable.2 ⟨(mem_inFront.1 hg).1, (mem_inFront.1 hg).2.1⟩
      simpa using before_malformed hg hyf hmalformed (hmet g hgr) (notMem_scanFrom hxr hyf hmalformed)
    omega
  · refine mem_take_of_countP_le hsorted (older_refl _ x) (hperm.mem_iff.2 hxf) ?_
    rw [hperm.countP_eq]
    have holder : (free max locked s).countP (fun z => z.2.createdAt < x.2.createdAt) < limit := by
      refine lt_of_le_of_lt ?_ hfew
      unfold readable
      rw [countP_filter]
      refine countP_mono_left fun z hz hlt => ?_
      rw [Bool.and_eq_true]
      refine ⟨hlt, ?_⟩
      -- a malformed row older than `x` would have the whole front older than `x` too
      by_contra hnot
      have hmalformed : z.2.wellFormed = false := by simpa using hnot
      have hall : ∀ g ∈ free max locked s, isInFront max locked s g = true →
          (decide (g.2.createdAt < x.2.createdAt) && g.2.wellFormed) = true := by
        intro g hg hin
        obtain ⟨_, hwell, hbefore⟩ := mem_inFront.1 (mem_filter.2 ⟨hg, hin⟩)
        rw [Bool.and_eq_true]
        exact ⟨decide_eq_true (lt_of_le_of_lt (hbefore z hz hmalformed) (of_decide_eq_true hlt)), hwell⟩
      have hle := countP_mono_left hall
      unfold inFront at hfront
      unfold readable at hfew
      rw [← countP_eq_length_filter] at hfront
      rw [countP_filter] at hfew
      omega
    have hself : (free max locked s).countP (fun z => z == x) ≤ 1 := nodup_iff_count_le_one.1 (AList.nodup_select _ _) x
    rw [countP_eq_countP_filter_add _ _ fun z => decide (z.2.createdAt < x.2.createdAt)]
    have hfirst : (filter (fun z => decide (z.2.createdAt < x.2.createdAt)) (free max locked s)).countP
        (fun z => older (scanFrom max locked s x) z x) ≤ (free max locked s).countP fun z => z.2.createdAt < x.2.createdAt := by
      rw [countP_eq_length_filter (l := free max locked s)]
      exact countP_le_length
    have hsecond : (filter (fun z => !decide (z.2.createdAt < x.2.createdAt)) (free max locked s)).countP
        (fun z => older (scanFrom max locked s x) z x) ≤ (free max locked s).countP fun z => z == x := by
      rw [countP_filter]
      refine countP_mono_left fun z hz h => ?_
      rw [Bool.and_eq_true] at h
      have hbefore : older (scanFrom max locked s x) z x := of_decide_eq_true h.1
      have hnot : ¬ z.2.createdAt < x.2.createdAt := by simpa using h.2
      have hzero : (scanFrom max locked s x).idxOf x.1 = 0 := idxOf_cons_self
      have hmet : (scanFrom max locked s x).idxOf z.1 = 0 := by
        unfold older at hbefore
        omega
      have hid : z.1 = x.1 := by
        by_contra hne
        rw [scanFrom, idxOf_cons_ne _ (Ne.symm hne)] at hmet
        exact absurd hmet (Nat.succ_ne_zero _)
      have hrow : some z.2 = some x.2 := by rw [← (mem_free.1 hz).1, ← (mem_free.1 hxf).1, hid]
      exact beq_iff_eq.2 (Prod.ext hid (Option.some.inj hrow))
    omega

/-- A claim that can read what it chose returns it. -/
theorem claim_returns (hall : ∀ y ∈ nextEvents cfg.maxRetryCount limit locked scan s, y.2.wellFormed = true)
    (hx : x ∈ nextEvents cfg.maxRetryCount limit locked scan s) : ∃ scan returning rows s',
      claimPendingEvents cfg limit locked scan returning s = .ok (rows, s') ∧ claimedRow x ∈ rows :=
  ⟨scan, [], _, _, claimPendingEvents_ok.2 ⟨hall, rfl, rfl⟩, mem_map.2 ⟨x, (mem_insertionSort _).2 hx, rfl⟩⟩

/-- **Malformed rows are in nobody's way exactly when a whole batch of readable ones is in front of them.** -/
theorem unblocked_iff (cfg : Config) (limit : ℕ) (locked : List Uuid) (s : State) :
    Unblocked cfg limit locked s ↔ Clear cfg limit locked s := by
  constructor
  · intro h
    by_contra hnot
    unfold Clear at hnot
    push Not at hnot
    obtain ⟨hfew, ⟨y, hy, hmalformed⟩, w, hw, hwell⟩ := hnot
    have hreadable : w ∈ readable cfg.maxRetryCount locked s := mem_readable.2 ⟨hw, by simpa using hwell⟩
    obtain ⟨x, hx⟩ : ∃ x, x ∈ nextReadable cfg.maxRetryCount limit locked [] s := by
      refine exists_mem_of_length_pos ?_
      unfold nextReadable
      rw [length_take, length_insertionSort]
      have := length_pos_of_mem hreadable
      omega
    obtain ⟨scan, returning, rows, s', hclaim, _⟩ := h [] x hx
    have hle := le_inFront_of_readable (claimPendingEvents_ok.1 hclaim).1 hy (by simpa using hmalformed)
    omega
  · rintro (hfront | hall | hnone) scan x hx
    · obtain ⟨hall, hmem⟩ := scanFrom_takes hfront hx
      exact claim_returns hall hmem
    · have hsame : readable cfg.maxRetryCount locked s = free cfg.maxRetryCount locked s := filter_eq_self.2 hall
      unfold nextReadable at hx
      rw [hsame] at hx
      refine claim_returns (fun y hy => hall y ?_) hx
      exact (mem_insertionSort _).1 (mem_of_mem_take hy)
    · have hfree := mem_readable.1 ((mem_insertionSort _).1 (mem_of_mem_take hx))
      rw [hnone x hfree.1] at hfree
      cases hfree.2

end Claims

/-! ## A malformed row stays -/

section Runs
variable {cfg : Config} {Init : State → Prop} {r : (outbox cfg).Run Init} {m n i : ℕ} {id : Uuid} {e : Event}

theorem wellFormed_between (hmn : m ≤ n) (h : ∃ e, (r.state m).events.lookup id = some e ∧ e.wellFormed = true) :
    ∃ e, (r.state n).events.lookup id = some e ∧ e.wellFormed = true := by
  refine keeps_between (P := fun s : State => ∃ e, s.events.lookup id = some e ∧ e.wellFormed = true) r.lawful hmn ?_ h
  rintro k j call op b a b' _ _ _ hperf ⟨e, he, hwell⟩
  exact ⟨_, lookup_effect hperf he, (effect_columns op b _ e).2.2.trans hwell⟩

/-- What is claimed can be read. -/
theorem wellFormed_of_claimed {call : Call} {pre post : List OutboxEventRow} {event : OutboxEventRow}
    (h : ClaimedAt r m n i call pre event post) : ∃ e, (r.state n).events.lookup event.id = some e ∧ e.wellFormed = true := by
  obtain ⟨hmn, op, _, limit, locked, scan, returning, s', rfl, hclaim⟩ := h
  obtain ⟨e, he, _⟩ := claimed_row hclaim (mem_append_right pre mem_cons_self)
  have hwell := (claimPendingEvents_ok.1 hclaim).1 _ he
  exact wellFormed_between hmn.le ⟨e, (mem_nextEvents he).1, hwell⟩

/-- **A malformed row stays as it is**, whatever the publishers do. -/
theorem malformed_stays (r : (outbox cfg).Run Init) (hmn : m ≤ n) (he : (r.state m).events.lookup id = some e)
    (hmalformed : e.wellFormed = false) : (r.state n).events.lookup id = some e := by
  refine keeps_between (P := fun s : State => s.events.lookup id = some e) r.lawful hmn ?_ he
  rintro k j call op b a b' _ _ hdoes hperf he
  obtain ⟨hb, _⟩ := does_perform hdoes
  refine (lookup_effect hperf he).trans (congrArg some ?_)
  have hnot : ∀ {m l pre event post}, l ≤ k → ClaimedAt r m l j call pre event post → id ≠ event.id := by
    rintro m l pre event post hlk hclaimed rfl
    obtain ⟨e', he', hwell⟩ := wellFormed_between hlk (wellFormed_of_claimed hclaimed)
    rw [hb, he'] at he
    rw [Option.some.inj he, hmalformed] at hwell
    cases hwell
  cases op with
  | claim limit locked scan returning =>
    simp only [Op.effect]
    refine if_neg fun hid => ?_
    obtain ⟨⟨_, e₀⟩, hx, rfl⟩ := mem_map.1 hid
    obtain ⟨hall, _, _⟩ := claimPendingEvents_ok.1 hperf
    have hsame := (mem_nextEvents hx).1.symm.trans he
    have hwell := hall _ hx
    rw [Option.some.inj hsame, hmalformed] at hwell
    cases hwell
  | markPublished id' =>
    obtain ⟨l, publisher, event, hl, rfl, hsend⟩ := sent_of_published hdoes
    obtain ⟨m, pre, post, hclaimed, _⟩ := claimed_of_send hsend
    exact if_neg (hnot hl.le hclaimed)
  | markPublishFailed id' retryCount error =>
    obtain ⟨m, pre, event, post, hclaimed, rfl, _⟩ := claimed_of_failed hdoes
    exact if_neg (hnot le_rfl hclaimed)
  | _ => rfl

end Runs

/-! ## A row that cannot be read, with one behind it -/

/-- A malformed event, and a good one after it. -/
def malformedFirst : List (System.Cmd (outbox sampleConfig).system) :=
  [.arrive (.insertEvent 1 101 ⟨"exchange", "", "order.exchange.requested", .obj []⟩ 0), .go 0, .arrive (.pass 5), .go 1,
    .arrive (.insertEvent 2 102 sampleEvent 0), .go 2]

/-- Nothing is ever claimed: the malformed event is in every batch. -/
theorem malformedFirst_blocked : ¬ ∀ cfg, ∀ r : (outbox cfg).Run fun _ => True, ∀ limit locked n,
    Unblocked cfg limit locked (r.state n) := by
  intro hall
  let r : (outbox sampleConfig).Run fun _ => True := .ofSchedule emptyOutbox malformedFirst trivial
  have hfree : (free 2 [] (r.state 3)).map (fun x => (x.1, x.2.wellFormed)) = [(2, true), (1, false)] := by decide
  have hnext : (nextReadable 2 20 [] [] (r.state 3)).map Prod.fst = [2] := by decide
  obtain ⟨x, hx, _⟩ := mem_map.1 (hnext ▸ mem_singleton.2 rfl : 2 ∈ (nextReadable 2 20 [] [] (r.state 3)).map Prod.fst)
  obtain ⟨scan, returning, rows, s', hclaim, _⟩ := hall sampleConfig r 20 [] 3 [] x hx
  obtain ⟨hread, _⟩ := claimPendingEvents_ok.1 hclaim
  obtain ⟨y, hy, hmalformed⟩ := mem_map.1 (hfree ▸ mem_cons_of_mem _ (mem_singleton.2 rfl) :
    (1, false) ∈ (free 2 [] (r.state 3)).map fun x => (x.1, x.2.wellFormed))
  have htake : y ∈ nextEvents 2 20 [] scan (r.state 3) := by
    unfold nextEvents
    rw [take_of_length_le]
    · exact (mem_insertionSort _).2 hy
    · have hlength := congrArg List.length hfree
      rw [length_map] at hlength
      rw [length_insertionSort, hlength]
      decide
  have hwell := hread y htake
  rw [(Prod.mk.inj hmalformed).2] at hwell
  cases hwell

end Balii.Outbox
