import Balii.Outbox.Delivery
/-!
# Ordering — the events of one aggregate in the order they were created

Kafka keeps the order of the messages of one key, the aggregate.  The publisher claims the oldest rows first, but what it failed to
send is put off while younger events of the aggregate go on, and a claim returns its rows in no particular order.  Order is kept where
an event can be claimed only together with what is older, and what fails has nothing younger with it.
-/
namespace Balii.Outbox

open Rowdb Rowdb.Atomic List

/-- The event `a` is older than the event `b` of its aggregate. -/
def Older (s : State) (a b : Uuid) : Prop :=
  ((s.events.lookup a).any fun e => (s.events.lookup b).any fun e' => e.aggregateId == e'.aggregateId && e.createdAt < e'.createdAt) = true

instance (s : State) (a b : Uuid) : Decidable (Older s a b) := inferInstanceAs (Decidable (_ = true))

theorem older_iff {s : State} {a b : Uuid} : Older s a b ↔ ∃ e e', s.events.lookup a = some e ∧ s.events.lookup b = some e' ∧
    e.aggregateId = e'.aggregateId ∧ e.createdAt < e'.createdAt := by
  unfold Older
  constructor
  · intro h
    obtain ⟨e, he, h⟩ := Option.any_eq_true _ _ |>.1 h
    obtain ⟨e', he', h⟩ := Option.any_eq_true _ _ |>.1 h
    simp only [Bool.and_eq_true, beq_iff_eq, decide_eq_true_eq] at h
    exact ⟨e, e', he, he', h.1, h.2⟩
  · rintro ⟨e, e', he, he', hkey, hlt⟩
    simp [he, he', hkey, hlt]

/-- **In order**: of an aggregate nothing is acknowledged before what is older. -/
structure Ordered (s : State) : Prop where
  present : ∀ id, Acknowledged s id → ∃ e, s.events.lookup id = some e
  inOrder : ∀ a b, Older s a b → Acknowledged s b → Acknowledged s a

/-- The claim can have the row: it is neither put off nor leased nor out of retries, and nobody else has locked it. -/
def Claimable (cfg : Config) (locked : List Uuid) (s : State) (id : Uuid) : Prop := id ∈ (free cfg.maxRetryCount locked s).map Prod.fst

instance (cfg : Config) (locked : List Uuid) (s : State) (id : Uuid) : Decidable (Claimable cfg locked s id) :=
  inferInstanceAs (Decidable (_ ∈ _))

/-- The batch is full with rows created before. -/
def FullBefore (cfg : Config) (limit : ℕ) (locked : List Uuid) (s : State) (id : Uuid) : Prop :=
  limit ≤ (free cfg.maxRetryCount locked s).countP fun x => (s.events.lookup id).any fun e => decide (x.2.createdAt < e.createdAt)

/-! ## What a claim returns of an aggregate -/

section Claims
variable {cfg : Config} {limit : ℕ} {locked scan returning : List Uuid} {s s' : State} {pre post : List OutboxEventRow}
  {event : OutboxEventRow} {a : Uuid}

theorem claimable_of_claimed (h : claimPendingEvents cfg limit locked scan returning s = .ok (pre ++ event :: post, s')) :
    Claimable cfg locked s event.id ∧ ¬ FullBefore cfg limit locked s event.id := by
  obtain ⟨e, he, -⟩ := claimed_row h (mem_append_right pre mem_cons_self)
  refine ⟨mem_map.2 ⟨_, (mem_insertionSort _).1 (mem_of_mem_take he), rfl⟩, fun hfull => ?_⟩
  have hcount := countP_lt_of_mem_take (pairwise_insertionSort (older scan) _) (older_refl scan _) he
  rw [(perm_insertionSort (older scan) _).countP_eq] at hcount
  unfold FullBefore at hfull
  rw [(mem_nextEvents he).1] at hfull
  refine absurd (hfull.trans (countP_mono_left fun x _ hx => ?_)) (Nat.not_le.2 hcount)
  exact decide_eq_true (older_of_created scan (of_decide_eq_true hx)).2

/-- **A claim that can have what is older returns it first**, if `RETURNING` keeps the two in order. -/
theorem before_in_claim (h : claimPendingEvents cfg limit locked scan returning s = .ok (pre ++ event :: post, s'))
    (holder : Older s a event.id) (ha : Claimable cfg locked s a) (hreturning : returning.idxOf a ≤ returning.idxOf event.id) :
    a ∈ pre.map OutboxEventRow.id := by
  obtain ⟨e', he', -⟩ := claimed_row h (mem_append_right pre mem_cons_self)
  obtain ⟨⟨a, e⟩, he, rfl⟩ := mem_map.1 ha
  have hcreated : e.createdAt < e'.createdAt := by
    obtain ⟨f, f', hf, hf', -, hlt⟩ := older_iff.1 holder
    obtain rfl := Option.some.inj (hf.symm.trans (mem_free.1 he).1)
    obtain rfl := Option.some.inj (hf'.symm.trans (mem_nextEvents he').1)
    exact hlt
  obtain ⟨hbefore, hnot⟩ := older_of_created scan (a := (a, e)) (b := (event.id, e')) hcreated
  have hchosen : [(a, e), (event.id, e')] <+ nextEvents cfg.maxRetryCount limit locked scan s :=
    pair_sublist_take (pairwise_insertionSort (older scan) _) (fun heq => hnot (heq ▸ older_refl scan _)) ((mem_insertionSort _).2 he) hnot he'
  obtain ⟨-, hrows, -⟩ := claimPendingEvents_ok.1 h
  have hids : (pre ++ event :: post).map OutboxEventRow.id = ((nextEvents cfg.maxRetryCount limit locked scan s).insertionSort
      fun x y => returning.idxOf x.1 ≤ returning.idxOf y.1).map Prod.fst := by
    rw [hrows, map_map]
    rfl
  have hpair := (pair_sublist_insertionSort (r := fun x y : Uuid × Event => returning.idxOf x.1 ≤ returning.idxOf y.1) hreturning
    hchosen).map Prod.fst
  have hnodup : ((pre ++ event :: post).map OutboxEventRow.id).Nodup := by
    rw [hids]
    refine ((perm_insertionSort _ _).map Prod.fst).nodup_iff.2 (Nodup.sublist ((take_sublist _ _).map _) ?_)
    exact ((perm_insertionSort _ _).map Prod.fst).nodup_iff.2 (AList.nodup_keys_select _ _)
  rw [← hids] at hpair
  rw [map_append, map_cons] at hpair hnodup
  exact mem_of_pair_sublist hpair hnodup

end Claims

section Runs
variable {cfg : Config} {Init : State → Prop} {r : (outbox cfg).Run Init} {n m i : ℕ} {call : Call} {a b : Uuid}

/-- All events are sent by one publisher. -/
def OnePublisher (r : (outbox cfg).Run Init) : Prop :=
  ∃ publisher, ∀ n i p limit op b, Does r.trace n i (.publishPendingEvents p limit) op b → p = publisher

/-- **Nothing overtakes an older event of its aggregate.** -/
structure Orderly (r : (outbox cfg).Run Init) : Prop where
  /-- No event is put in that is older than one that is there, -/
  inserted : ∀ n i call id eventId event age b, Does r.trace n i call (.insertEvent id eventId event age) b →
    ∀ id', ¬ Older (r.state (n + 1)) id id'
  /-- when a claim can have an event, what is older is acknowledged, or the claim can have it too and `RETURNING` keeps their order, -/
  claimed : ∀ n i call limit locked scan returning b, Does r.trace n i call (.claim limit locked scan returning) b →
    ∀ id id', Older b id id' → Claimable cfg locked b id' →
      Acknowledged b id ∨ (Claimable cfg locked b id ∧ returning.idxOf id ≤ returning.idxOf id')
  /-- and what fails to be sent could not be claimed together with a younger event of its aggregate. -/
  reported : ∀ m n i call limit locked scan returning b id retryCount error b',
    Does r.trace m i call (.claim limit locked scan returning) b → m < n → Does r.trace n i call (.markPublishFailed id retryCount error) b' →
    Acknowledged b' id ∨ ∀ id', Older b id id' → Claimable cfg locked b id' → FullBefore cfg limit locked b id'

/-- A row that is there was there before, or has been put in. -/
theorem lookup_before {op : Op} {s s' : State} {x : op.Res} (h : perform cfg op s = .ok (x, s')) {e' : Event}
    (he' : s'.events.lookup a = some e') :
    (∃ e, s.events.lookup a = some e ∧ e'.aggregateId = e.aggregateId ∧ e'.createdAt = e.createdAt) ∨
      ∃ eventId event age, op = .insertEvent a eventId event age := by
  rw [lookup_perform h] at he'
  cases he : s.events.lookup a with
  | none =>
    rw [he] at he'
    cases op with
    | insertEvent id eventId event age =>
      have hins : Op.inserts (.insertEvent id eventId event age) s a = some e' := he'
      simp only [Op.inserts, Option.ite_none_right_eq_some] at hins
      obtain ⟨rfl, _⟩ := hins
      exact .inr ⟨eventId, event, age, rfl⟩
    | _ => cases he'
  | some e =>
    rw [he] at he'
    obtain rfl := Option.some.inj he'
    exact .inl ⟨e, rfl, (effect_columns op s a e).1, (effect_columns op s a e).2.1⟩

theorem older_before {op : Op} {s s' : State} {x : op.Res} (h : perform cfg op s = .ok (x, s')) (hb : (s.events.lookup b).isSome = true)
    (holder : Older s' a b) : Older s a b ∨ ∃ eventId event age, op = .insertEvent a eventId event age := by
  obtain ⟨e, e', he, he', hkey, hlt⟩ := older_iff.1 holder
  obtain ⟨f', hf'⟩ := Option.isSome_iff_exists.1 hb
  have hsame := (lookup_effect h hf').symm.trans he'
  obtain rfl := Option.some.inj hsame
  obtain ⟨hkey', hcreated', _⟩ := effect_columns op s b f'
  rcases lookup_before h he with ⟨f, hf, hfkey, hfcreated⟩ | hins
  · refine .inl (older_iff.2 ⟨f, f', hf, hf', ?_, ?_⟩)
    · rw [← hfkey, hkey, hkey']
    · rw [← hfcreated, ← hcreated']
      exact hlt
  · exact .inr hins

theorem present_mono (r : (outbox cfg).Run Init) (hmn : m ≤ n) (h : ((r.state m).events.lookup a).isSome = true) :
    ((r.state n).events.lookup a).isSome = true := by
  refine keeps_between (P := fun s : State => (s.events.lookup a).isSome = true) r.lawful hmn ?_ h
  rintro k i call op b x b' _ _ _ hperf hsome
  obtain ⟨e, he⟩ := Option.isSome_iff_exists.1 hsome
  rw [lookup_effect hperf he]
  rfl

theorem older_of_later (h : Orderly r) (hmn : m ≤ n) (hb : ((r.state m).events.lookup b).isSome = true) (holder : Older (r.state n) a b) :
    Older (r.state m) a b := by
  by_contra hnot
  let Before (s : State) : Prop := (s.events.lookup b).isSome = true ∧ ¬ Older s a b
  have hstart : Before (r.state m) := ⟨hb, hnot⟩
  suffices hlast : Before (r.state n) from hlast.2 holder
  refine keeps_between (P := Before) r.lawful hmn ?_ hstart
  rintro k i call op s x s' hk hkn hdoes hperf ⟨hsome, hnone⟩
  obtain ⟨hs, y, hperf'⟩ := does_perform hdoes
  have hs' : s' = r.state (k + 1) := by
    have hperf₀ : perform cfg op s = .ok (x, s') := hperf
    rw [hs, hperf'] at hperf₀
    exact (Prod.mk.inj (Except.ok.inj hperf₀)).2.symm
  refine ⟨?_, fun holder' => ?_⟩
  · rw [hs']
    rw [hs] at hsome
    exact present_mono r (Nat.le_succ k) hsome
  · rcases older_before hperf hsome holder' with hbefore | ⟨eventId, event, age, rfl⟩
    · exact hnone hbefore
    · rw [hs'] at holder'
      exact h.inserted k i call a eventId event age s hdoes b holder'

theorem acknowledged_of_older (h : Orderly r) {publisher : ℕ} {event : OutboxEventRow} {s : State}
    (hdoes : Does r.trace n i call (.send publisher event) s) (holder : Older (r.state n) a event.id) : Acknowledged (r.state n) a := by
  obtain ⟨m, pre, post, hclaimed, hpre⟩ := claimed_of_send hdoes
  obtain ⟨e, he, _⟩ := claimed_unpublished hclaimed
  have hmn := hclaimed.1
  have hpresent : ((r.state m).events.lookup event.id).isSome = true := by
    obtain ⟨_, op, _, limit, locked, scan, returning, s', rfl, hclaim⟩ := hclaimed
    obtain ⟨e, he, _⟩ := claimed_row hclaim (mem_append_right pre mem_cons_self)
    rw [(mem_nextEvents he).1]
    rfl
  have hthen := older_of_later h hmn.le hpresent holder
  obtain ⟨_, op, hclaim, limit, locked, scan, returning, s', rfl, hclaims⟩ := hclaimed
  obtain ⟨hclaimable, hroom⟩ := claimable_of_claimed hclaims
  rcases h.claimed m i call limit locked scan returning _ hclaim a event.id hthen hclaimable with hack | ⟨ha, hreturning⟩
  · exact acknowledged_mono r hmn.le hack
  · obtain ⟨row, hrow, rfl⟩ := mem_map.1 (before_in_claim hclaims hthen ha hreturning)
    obtain ⟨k, op, hmk, hkn, hhandles, rfl | ⟨error, rfl⟩⟩ := hpre row hrow
    · exact acknowledged_of_send r hhandles hkn
    · rcases h.reported m k i call limit locked scan returning _ row.id _ error _ hclaim hmk hhandles with hack | hfull
      · exact acknowledged_mono r hkn.le hack
      · exact absurd (hfull event.id hthen hclaimable) hroom

/-- **An orderly run acknowledges the events of each aggregate in the order they were created**, however many publish. -/
theorem publishes_in_order (r : (outbox cfg).Run Ordered) (h : Orderly r) (n : ℕ) : Ordered (r.state n) := by
  refine keeps_between (P := fun s : State => Ordered s) r.lawful (Nat.zero_le n) ?_ r.starts
  rintro k i call op s x s' _ _ hdoes hperf₀ hs
  have hperf : perform cfg op s = .ok (x, s') := hperf₀
  obtain ⟨hbefore, y, hperf'⟩ := does_perform hdoes
  have hafter : s' = r.state (k + 1) := by
    rw [hbefore, hperf'] at hperf
    exact (Prod.mk.inj (Except.ok.inj hperf)).2.symm
  -- what is sent was there when it was claimed
  have hsent : ∀ {publisher event}, op = .send publisher event → ((r.state k).events.lookup event.id).isSome = true := by
    rintro publisher event rfl
    obtain ⟨m, pre, post, hclaimed, _⟩ := claimed_of_send hdoes
    obtain ⟨e, he, _⟩ := claimed_unpublished hclaimed
    exact present_mono r hclaimed.1 (by rw [he]; rfl)
  have hpresent : ∀ id, Acknowledged s' id → (s.events.lookup id).isSome = true := by
    intro id hack
    rcases (acknowledged_perform hperf).1 hack with hack | ⟨publisher, event, hop, rfl⟩
    · obtain ⟨e, he⟩ := hs.present id hack
      rw [he]
      rfl
    · rw [hbefore]
      exact hsent hop
  refine ⟨fun id hack => ?_, fun a b holder hack => ?_⟩
  · obtain ⟨e, he⟩ := Option.isSome_iff_exists.1 (hpresent id hack)
    exact ⟨_, lookup_effect hperf he⟩
  · rcases older_before hperf (hpresent b hack) holder with holder' | ⟨eventId, event, age, rfl⟩
    · rcases (acknowledged_perform hperf).1 hack with hack | ⟨publisher, event, rfl, rfl⟩
      · exact (acknowledged_perform hperf).2 (.inl (hs.inOrder a b holder' hack))
      · rw [hbefore] at holder'
        have hacka := acknowledged_of_older h hdoes holder'
        rw [← hbefore] at hacka
        exact (acknowledged_perform hperf).2 (.inl hacka)
    · rw [hafter] at holder
      exact absurd holder (h.inserted k i call a eventId event age s hdoes b)

end Runs

/-! ## Two events of one payment -/

theorem ordered_empty : Ordered emptyOutbox := ⟨fun _ h => (nomatch h), fun _ _ h => (nomatch h)⟩

theorem older_mem_keys {s : State} {a b : Uuid} (h : Older s a b) : a ∈ s.events.keys ∧ b ∈ s.events.keys := by
  obtain ⟨e, e', he, he', _⟩ := older_iff.1 h
  refine ⟨AList.mem_keys.1 ?_, AList.mem_keys.1 ?_⟩
  · exact AList.lookup_isSome.1 (by rw [he]; rfl)
  · exact AList.lookup_isSome.1 (by rw [he']; rfl)

/-- Two events of a payment, claimed together. -/
def twoClaimed : List (System.Cmd (outbox sampleConfig).system) :=
  [.arrive (.insertEvent 1 101 sampleEvent 0), .go 0, .arrive (.pass 5), .go 1, .arrive (.insertEvent 2 102 sampleEvent 0), .go 2,
    .arrive (.publishPendingEvents 1 none), .go 3, .answer 3 ⟨[], [], []⟩, .go 3]

/-- Both are sent. -/
def twoSent : List (System.Cmd (outbox sampleConfig).system) := twoClaimed ++ [.go 3, .go 3, .go 3, .go 3, .go 3, .go 3]

def twoSentRun : (outbox sampleConfig).Run Ordered := .ofSchedule emptyOutbox twoSent ordered_empty

/-- Where rows are put in and claimed. -/
def twoSentPlaces (n _ : ℕ) (_ : Call) : Op → Bool
  | .insertEvent id .. => (n == 0 && id == 1) || (n == 2 && id == 2)
  | .claim limit locked scan returning => n == 4 && limit == 20 && locked == [] && scan == [] && returning == []
  | .markPublishFailed .. => false
  | _ => true

theorem twoSent_places {n i : ℕ} {call : Call} {op : Op} {b : State} (h : Does twoSentRun.trace n i call op b) :
    twoSentPlaces n i call op = true :=
  forall_does (p := twoSentPlaces) (by decide) h

/-- Both are acknowledged, and at no time out of order. -/
theorem twoSent_ordered : (∀ n, Ordered (twoSentRun.state n)) ∧ Acknowledged (twoSentRun.state 20) 1 ∧
    Acknowledged (twoSentRun.state 20) 2 := by
  refine ⟨publishes_in_order twoSentRun ⟨?_, ?_, ?_⟩, by decide, by decide⟩
  · intro n i call id eventId event age b hdoes id' holder
    have hmem := (older_mem_keys holder).2
    have hplace := twoSent_places hdoes
    simp only [twoSentPlaces, Bool.or_eq_true, Bool.and_eq_true, beq_iff_eq] at hplace
    rcases hplace with ⟨rfl, rfl⟩ | ⟨rfl, rfl⟩
    · have hnone : ∀ id' ∈ (twoSentRun.state 1).events.keys, ¬ Older (twoSentRun.state 1) 1 id' := by decide
      exact hnone id' hmem holder
    · have hnone : ∀ id' ∈ (twoSentRun.state 3).events.keys, ¬ Older (twoSentRun.state 3) 2 id' := by decide
      exact hnone id' hmem holder
  · intro n i call limit locked scan returning b hdoes id id' holder _
    obtain ⟨rfl, -⟩ := does_perform hdoes
    have hplace := twoSent_places hdoes
    simp only [twoSentPlaces, Bool.and_eq_true, beq_iff_eq] at hplace
    obtain ⟨⟨⟨⟨rfl, rfl⟩, rfl⟩, rfl⟩, rfl⟩ := hplace
    have hall : ∀ id ∈ (twoSentRun.state 4).events.keys, Claimable sampleConfig [] (twoSentRun.state 4) id := by decide
    exact .inr ⟨hall id (older_mem_keys holder).1, le_rfl⟩
  · intro m n i call limit locked scan returning b id retryCount error b' _ _ hdoes
    cases twoSent_places hdoes

/-- The first one fails, and the publisher goes on. -/
def firstFails : List (System.Cmd (outbox sampleConfig).system) :=
  twoClaimed ++ [.arrive (.setBroker (some "Kafka send failed")), .go 4, .go 3, .go 3, .arrive (.setBroker none), .go 5, .go 3, .go 3]

def publisherOf : Call → ℕ
  | .publishPendingEvents publisher _ => publisher
  | _ => 1

/-- The younger event is acknowledged, the older one is not. -/
theorem firstFails_overtaken : ¬ ∀ cfg, ∀ r : (outbox cfg).Run Ordered, OnePublisher r → ∀ n, Ordered (r.state n) := by
  intro hall
  let r : (outbox sampleConfig).Run Ordered := .ofSchedule emptyOutbox firstFails ordered_empty
  have hone : OnePublisher r := by
    refine ⟨1, fun n i p limit op b hdoes => ?_⟩
    have hcall := forall_does (A := outbox sampleConfig) (p := fun _ _ call _ => publisherOf call == 1) (by decide) hdoes
    exact beq_iff_eq.1 hcall
  have holder : Older (r.state 20) 1 2 := by decide
  have hyounger : Acknowledged (r.state 20) 2 := by decide
  have hnot : ¬ Acknowledged (r.state 20) 1 := by decide
  exact hnot ((hall sampleConfig r hone 20).inOrder 1 2 holder hyounger)

end Balii.Outbox
