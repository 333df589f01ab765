import Balii.Outbox.Publisher
/-!
# Delivery — no event is lost, and what was published stays so

A row's status, count and lease are written by three statements.  The report of a failure decides by the count the row had when it
was claimed, and by the row's id alone: it may come when another publisher, to whom the lease went, has counted on or published.
-/
namespace Balii.Outbox

open Rowdb Rowdb.Atomic List

/-- The row can be claimed, now or once its time has come. -/
def Event.Waits (max : ℕ) (e : Event) : Prop := ∀ now, e.nextRetryAt.getD 0 ≤ now → e.claimable max now = true

/-- The row has failed as often as is tried. -/
def Event.GivenUp (max : ℕ) (e : Event) : Prop := e.status = .failed ∧ max ≤ e.retryCount.getD 0

/-- **No event is lost**: what is published was acknowledged, and everything else waits to be claimed or has been given up. -/
structure NothingLost (cfg : Config) (s : State) : Prop where
  sent : ∀ id e, s.events.lookup id = some e → e.status = .published → Acknowledged s id
  kept : ∀ id e, s.events.lookup id = some e → e.status ≠ .published → e.Waits cfg.maxRetryCount ∨ e.GivenUp cfg.maxRetryCount

/-- **The report of a failure knows when it is the last**: it brings the row to the limit only when the count of its claim says so.
Rows are put in where at least one attempt is made. -/
def OnTime (cfg : Config) (op : Op) (s : State) : Prop :=
  match op with
  | .markPublishFailed id retryCount _ => ∀ e, s.events.lookup id = some e → cfg.maxRetryCount ≤ e.retryCount.getD 0 + 1 →
      cfg.maxRetryCount ≤ retryCount.getD 0 + 1
  | .insertEvent .. => 0 < cfg.maxRetryCount
  | _ => True

section Rows
variable {max now t : ℕ} {e : Event}

/-- When a row waits: it is not past the limit, and its lease ends. -/
theorem waits_iff : e.Waits max ↔ e.retryCount.getD 0 < max ∧
    (e.status = .pending ∨ e.status = .failed ∨ (e.status = .processing ∧ e.nextRetryAt.isSome = true)) := by
  unfold Event.Waits Event.claimable
  cases hnext : e.nextRetryAt with
  | none =>
    simp only [Option.getD_none, Nat.zero_le, true_imp_iff, Option.any_none, Option.all_none, Option.isSome_none]
    cases e.status <;> simp
  | some t =>
    simp only [Option.getD_some, Option.any_some, Option.all_some, Option.isSome_some]
    constructor
    · intro h
      have := h t le_rfl
      cases hstatus : e.status <;> simp_all
    · rintro ⟨hcount, hstatus⟩ now hnow
      rcases hstatus with h | h | ⟨h, _⟩ <;> simp [h, hcount, hnow]

theorem claimable_count (h : e.claimable max now = true) : e.retryCount.getD 0 < max := by
  simp only [Event.claimable, Bool.and_eq_true, decide_eq_true_eq] at h
  exact h.1.2

theorem claimable_unpublished (h : e.claimable max now = true) : e.status ≠ .published := by
  intro hstatus
  simp [Event.claimable, hstatus] at h

end Rows

section Steps
variable {cfg : Config} {op : Op} {s s' : State} {a : op.Res} {id : Uuid} {e : Event}

/-- **One step loses nothing** when it is on time, and marks as published only what was acknowledged. -/
theorem nothingLost_perform (h : perform cfg op s = .ok (a, s')) (hs : NothingLost cfg s) (htime : OnTime cfg op s)
    (hsent : ∀ id, op = .markPublished id → Acknowledged s id) : NothingLost cfg s' := by
  have hack : ∀ {id}, Acknowledged s id → Acknowledged s' id := fun hid => (acknowledged_perform h).2 (.inl hid)
  have hrow : ∀ {id e'}, s'.events.lookup id = some e' →
      (∃ e, s.events.lookup id = some e ∧ e' = op.effect cfg s id e) ∨ op.inserts s id = some e' := by
    intro id e' he'
    rw [lookup_perform h] at he'
    cases he : s.events.lookup id with
    | none =>
      rw [he] at he'
      exact .inr he'
    | some e =>
      rw [he] at he'
      exact .inl ⟨e, rfl, (Option.some.inj he').symm⟩
  have hinserted : ∀ {id e'}, op.inserts s id = some e' → e'.status = .pending ∧ e'.Waits cfg.maxRetryCount := by
    intro id e' hins
    cases op with
    | insertEvent id' eventId event age =>
      simp only [Op.inserts, Option.ite_none_right_eq_some, Option.some.injEq] at hins
      obtain ⟨_, rfl⟩ := hins
      exact ⟨rfl, waits_iff.2 ⟨htime, .inl rfl⟩⟩
    | _ => cases hins
  refine ⟨fun id e' he' hstatus => ?_, fun id e' he' hstatus => ?_⟩
  · rcases hrow he' with ⟨e, he, rfl⟩ | hins
    · cases op with
      | claim limit locked scan returning =>
        simp only [Op.effect] at hstatus
        split at hstatus
        · cases hstatus
        · exact hack (hs.sent id e he hstatus)
      | markPublished id' =>
        simp only [Op.effect] at hstatus
        split at hstatus
        · rename_i hid
          exact hack (hsent id (by rw [hid]))
        · exact hack (hs.sent id e he hstatus)
      | markPublishFailed id' retryCount error =>
        simp only [Op.effect] at hstatus
        split at hstatus
        · simp only [Event.failed, nextStatus] at hstatus
          split at hstatus <;> cases hstatus
        · exact hack (hs.sent id e he hstatus)
      | _ => exact hack (hs.sent id e he hstatus)
    · rw [(hinserted hins).1] at hstatus
      cases hstatus
  · rcases hrow he' with ⟨e, he, rfl⟩ | hins
    · cases op with
      | claim limit locked scan returning =>
        simp only [Op.effect] at hstatus ⊢
        split
        · rename_i hid
          obtain ⟨⟨_, e₀⟩, hx, rfl⟩ := List.mem_map.1 hid
          obtain ⟨hlookup, hclaimable⟩ := mem_nextEvents hx
          have hsame : e₀ = e := Option.some.inj (hlookup.symm.trans he)
          subst hsame
          have hcount := claimable_count hclaimable
          exact .inl (waits_iff.2 ⟨hcount, .inr (.inr ⟨rfl, rfl⟩)⟩)
        · rename_i hid
          rw [if_neg hid] at hstatus
          exact hs.kept id e he hstatus
      | markPublished id' =>
        simp only [Op.effect] at hstatus ⊢
        split
        · rename_i hid
          rw [if_pos hid] at hstatus
          exact absurd rfl hstatus
        · rename_i hid
          rw [if_neg hid] at hstatus
          exact hs.kept id e he hstatus
      | markPublishFailed id' retryCount error =>
        simp only [Op.effect] at hstatus ⊢
        split
        · rename_i hid
          subst hid
          have hlimit := htime e he
          by_cases hlast : cfg.maxRetryCount ≤ e.retryCount.getD 0 + 1
          · exact .inr ⟨if_pos (hlimit hlast), hlast⟩
          · refine .inl (waits_iff.2 ⟨by simp only [Event.failed, Option.getD_some]; omega, ?_⟩)
            simp only [Event.failed, nextStatus]
            split
            · exact .inr (.inl rfl)
            · exact .inl rfl
        · rename_i hid
          rw [if_neg hid] at hstatus
          exact hs.kept id e he hstatus
      | _ => exact hs.kept id e he hstatus
    · exact .inl (hinserted hins).2

theorem onTime_of_perform (h : perform cfg op s = .ok (a, s')) (hs' : NothingLost cfg s') : OnTime cfg op s := by
  cases op with
  | insertEvent id eventId event age =>
    have hlookup : s'.events.lookup id = _ := lookup_perform h
    have hfresh : s.events.lookup id = none := by
      unfold perform at h
      dsimp only at h
      split at h
      · cases h
      · rename_i hnew
        simpa using fun hs => hnew (.inl hs)
    rw [hfresh, Op.inserts, if_pos rfl] at hlookup
    rcases hs'.kept id _ hlookup (fun hstatus => by cases hstatus) with hwaits | hgiven
    · exact (waits_iff.1 hwaits).1
    · cases hgiven.1
  | markPublishFailed id retryCount error =>
    intro e he hlast
    have hlookup := lookup_effect h he
    simp only [Op.effect, if_true] at hlookup
    by_contra hearly
    have hstatus : (e.failed cfg s.now retryCount error).status = .pending := if_neg hearly
    rcases hs'.kept id _ hlookup (by rw [hstatus]; exact fun heq => by cases heq) with hwaits | hgiven
    · have hcount := (waits_iff.1 hwaits).1
      simp only [Event.failed, Option.getD_some] at hcount
      omega
    · rw [hgiven.1] at hstatus
      cases hstatus
  | _ => trivial

end Steps

section Runs
variable {cfg : Config}

theorem acknowledged_mono {Init : State → Prop} (r : (outbox cfg).Run Init) {id : Uuid} {m n : ℕ} (hmn : m ≤ n)
    (h : Acknowledged (r.state m) id) : Acknowledged (r.state n) id :=
  keeps_between (P := fun s : State => Acknowledged s id) r.lawful hmn
    (fun _ _ _ _ _ _ _ _ _ _ hperf hid => (acknowledged_perform hperf).2 (.inl hid)) h

/-- What a publisher sent is acknowledged from then on. -/
theorem acknowledged_of_send {Init : State → Prop} (r : (outbox cfg).Run Init) {k n i publisher : ℕ} {call : Call} {event : OutboxEventRow}
    {b : State} (h : Does r.trace k i call (.send publisher event) b) (hkn : k < n) : Acknowledged (r.state n) event.id := by
  obtain ⟨_, _, hperf⟩ := h.at r.lawful
  exact acknowledged_mono r hkn ((acknowledged_perform hperf).2 (.inr ⟨publisher, event, rfl, rfl⟩))

/-- **No event is lost in any state of a run exactly when every report of a failure is on time.** -/
theorem outbox_loses_nothing_iff (r : (outbox cfg).Run (NothingLost cfg)) :
    (∀ n, NothingLost cfg (r.state n)) ↔ ∀ n i call op b, Does r.trace n i call op b → OnTime cfg op b := by
  constructor
  · intro h n i call op b hdoes
    obtain ⟨_, _, hperf⟩ := hdoes.at r.lawful
    exact onTime_of_perform hperf (h (n + 1))
  · intro h n
    refine keeps_between (P := fun s : State => NothingLost cfg s) r.lawful (Nat.zero_le n) ?_ r.starts
    rintro k i call op b a b' _ _ hdoes hperf hb
    refine nothingLost_perform hperf hb (h k i call op b hdoes) fun id hop => ?_
    subst hop
    obtain ⟨j, publisher, event, hj, rfl, hsend⟩ := sent_of_published hdoes
    obtain ⟨hbefore, _⟩ := hdoes.at r.lawful
    rw [hbefore]
    exact acknowledged_of_send r hsend hj

/-! ## Published for good -/

variable {Init : State → Prop} {r : (outbox cfg).Run Init} {m n i k : ℕ} {id : Uuid}

def PublishedIn (s : State) (id : Uuid) : Prop := ∃ e, s.events.lookup id = some e ∧ e.status = .published

/-- **`PUBLISHED` is absorbing**: no step takes it back, and none sends the event again. -/
structure Absorbing (r : (outbox cfg).Run Init) : Prop where
  stays : ∀ id m n, m ≤ n → PublishedIn (r.state m) id → PublishedIn (r.state n) id
  unsent : ∀ n i call publisher event b, Does r.trace n i call (.send publisher event) b → ¬ PublishedIn (r.state n) event.id

/-- What a publisher does to an event it claimed, other than to mark it as published. -/
def Op.Treats (op : Op) (event : OutboxEventRow) : Prop :=
  (∃ publisher, op = .send publisher event) ∨ ∃ error, op = .markPublishFailed event.id event.retryCount error

/-- **Nobody publishes behind a publisher's back**: from a claim of an event to what its claimer sends or reports of it, nothing marks
the event as published. -/
def Undisturbed (r : (outbox cfg).Run Init) : Prop :=
  ∀ m n i call pre event post op b, ClaimedAt r m n i call pre event post → Does r.trace n i call op b → op.Treats event →
    ∀ k j call' b', m < k → k < n → ¬ Does r.trace k j call' (.markPublished event.id) b'

/-- An event just claimed is not published. -/
theorem claimed_unpublished {call : Call} {pre post : List OutboxEventRow} {event : OutboxEventRow}
    (h : ClaimedAt r m n i call pre event post) :
    ∃ e, (r.state (m + 1)).events.lookup event.id = some e ∧ e.status = .processing := by
  obtain ⟨_, op, hdoes, limit, locked, scan, returning, s', rfl, hclaim⟩ := h
  obtain ⟨_, a, hperf⟩ := does_perform hdoes
  obtain ⟨e, he, _⟩ := claimed_row hclaim (mem_append_right pre mem_cons_self)
  have hlookup := lookup_effect hperf (mem_nextEvents he).1
  have hmem : event.id ∈ (nextEvents cfg.maxRetryCount limit locked scan (r.state m)).map Prod.fst := mem_map.2 ⟨_, he, rfl⟩
  simp only [Op.effect, if_pos hmem] at hlookup
  exact ⟨_, hlookup, rfl⟩

/-- A row that is not published stays so while nothing marks it. -/
theorem unpublished_between (hmn : m ≤ n) (hno : ∀ k j call b, m ≤ k → k < n → ¬ Does r.trace k j call (.markPublished id) b)
    (h : ∃ e, (r.state m).events.lookup id = some e ∧ e.status ≠ .published) :
    ∃ e, (r.state n).events.lookup id = some e ∧ e.status ≠ .published := by
  refine keeps_between (P := fun s : State => ∃ e, s.events.lookup id = some e ∧ e.status ≠ .published) r.lawful hmn ?_ h
  rintro k j call op b a b' hk hkn hdoes hperf ⟨e, he, hstatus⟩
  refine ⟨_, lookup_effect hperf he, ?_⟩
  cases op with
  | claim limit locked scan returning =>
    simp only [Op.effect]
    split
    · exact fun heq => by cases heq
    · exact hstatus
  | markPublished id' =>
    simp only [Op.effect]
    split
    · rename_i hid
      subst hid
      exact absurd hdoes (hno k j call b hk hkn)
    · exact hstatus
  | markPublishFailed id' retryCount error =>
    simp only [Op.effect]
    split
    · simp only [Event.failed, nextStatus]
      split <;> exact fun heq => by cases heq
    · exact hstatus
  | _ => exact hstatus

/-- Undisturbed, an event is not published when its claimer sends it or reports its failure. -/
theorem unpublished_of_treats (h : Undisturbed r) {call : Call} {pre post : List OutboxEventRow} {event : OutboxEventRow} {op : Op}
    {b : State} (hclaimed : ClaimedAt r m n i call pre event post) (hdoes : Does r.trace n i call op b) (htreats : op.Treats event) :
    ¬ PublishedIn (r.state n) event.id := by
  obtain ⟨e, he, hstatus⟩ := claimed_unpublished hclaimed
  have hmn := hclaimed.1
  obtain ⟨e', he', hstatus'⟩ := unpublished_between (m := m + 1) (by omega)
    (fun k j call' b' hk hkn => h m n i call pre event post op b hclaimed hdoes htreats k j call' b' (by omega) hkn)
    ⟨e, he, by rw [hstatus]; exact fun heq => nomatch heq⟩
  rintro ⟨e'', he'', hpublished⟩
  rw [he'] at he''
  cases he''
  exact hstatus' hpublished

theorem publishedIn_of_marks {call : Call} {b : State} (h : Does r.trace k i call (.markPublished id) b) {e : Event}
    (he : (r.state k).events.lookup id = some e) : PublishedIn (r.state (k + 1)) id := by
  obtain ⟨_, _, hperf⟩ := does_perform h
  have hlookup := lookup_effect hperf he
  simp only [Op.effect, if_true] at hlookup
  exact ⟨_, hlookup, rfl⟩

/-- **`PUBLISHED` is absorbing in a run exactly when nobody publishes behind a publisher's back.** -/
theorem published_absorbing_iff (r : (outbox cfg).Run Init) : Absorbing r ↔ Undisturbed r := by
  constructor
  · intro h m n i call pre event post op b hclaimed hdoes htreats k j call' b' hmk hkn hmarks
    obtain ⟨e, he, _⟩ := claimed_unpublished hclaimed
    have hthere : ∃ e, (r.state k).events.lookup event.id = some e :=
      keeps_between (P := fun s : State => ∃ e, s.events.lookup event.id = some e) r.lawful (Nat.succ_le_of_lt hmk)
        (fun _ _ _ _ _ _ _ _ _ _ hperf ⟨_, he⟩ => ⟨_, lookup_effect hperf he⟩) ⟨e, he⟩
    obtain ⟨e', he'⟩ := hthere
    have hpublished := h.stays _ _ n hkn (publishedIn_of_marks hmarks he')
    rcases htreats with ⟨publisher, rfl⟩ | ⟨error, rfl⟩
    · exact h.unsent n i call publisher event b hdoes hpublished
    · obtain ⟨e₁, he₁, hstatus⟩ := h.stays _ _ (n + 1) (Nat.le_succ n) hpublished
      obtain ⟨e'', he'', _⟩ := hpublished
      obtain ⟨_, _, hperf⟩ := does_perform hdoes
      have hlookup := (lookup_effect hperf he'').symm.trans he₁
      simp only [Op.effect, if_true, Option.some.injEq] at hlookup
      rw [← hlookup] at hstatus
      simp only [Event.failed, nextStatus] at hstatus
      split at hstatus <;> cases hstatus
  · intro h
    refine ⟨fun id m n hmn hpublished => ?_, fun n i call publisher event b hdoes => ?_⟩
    · refine keeps_between (P := fun s : State => PublishedIn s id) r.lawful hmn ?_ hpublished
      rintro k i call op b a b' _ _ hdoes hperf ⟨e, he, hstatus⟩
      refine ⟨_, lookup_effect hperf he, ?_⟩
      cases op with
      | claim limit locked scan returning =>
        simp only [Op.effect]
        split
        · rename_i hid
          obtain ⟨⟨_, e₀⟩, hx, rfl⟩ := List.mem_map.1 hid
          obtain ⟨hlookup, hclaimable⟩ := mem_nextEvents hx
          have hsame : e₀ = e := Option.some.inj (hlookup.symm.trans he)
          subst hsame
          exact absurd hstatus (claimable_unpublished hclaimable)
        · exact hstatus
      | markPublished id' =>
        simp only [Op.effect]
        split
        · rfl
        · exact hstatus
      | markPublishFailed id' retryCount error =>
        simp only [Op.effect]
        split
        · rename_i hid
          subst hid
          obtain ⟨m, pre, event, post, hclaimed, rfl, rfl⟩ := claimed_of_failed hdoes
          obtain ⟨hb, _⟩ := hdoes.at r.lawful
          rw [hb] at he
          exact absurd ⟨e, he, hstatus⟩ (unpublished_of_treats h hclaimed hdoes (.inr ⟨error, rfl⟩))
        · exact hstatus
      | _ => exact hstatus
    · obtain ⟨m, pre, post, hclaimed, _⟩ := claimed_of_send hdoes
      exact unpublished_of_treats h hclaimed hdoes (.inl ⟨publisher, rfl⟩)

end Runs

/-! ## Two publishers with the same event -/

def sampleConfig : Config where
  maxBatchSize := 20
  retryDelayMs := 30000
  processingLeaseMs := 60000
  maxRetryCount := 2
  topicPrefix := none

/-- Nothing has been put in yet. -/
def emptyOutbox : State where
  events := ∅
  kafka := []
  isPublishing := fun _ => false
  producer := fun _ => true
  brokerDown := none
  now := 1000000

theorem nothingLost_empty (cfg : Config) : NothingLost cfg emptyOutbox :=
  ⟨fun _ _ h => (nomatch h), fun _ _ h => (nomatch h)⟩

def sampleEvent : NewEvent := ⟨"payment", "payment-1", "payment.success", .obj []⟩

/-- A publisher claims the event, and a second one does when the lease of the first has run out. -/
def claimedTwice : List (System.Cmd (outbox sampleConfig).system) :=
  [.arrive (.insertEvent 1 101 sampleEvent 0), .go 0, .go 0, .arrive (.publishPendingEvents 1 none), .go 1, .answer 1 ⟨[], [], []⟩, .go 1,
    .arrive (.pass 60000), .go 2, .arrive (.publishPendingEvents 2 none), .go 3, .answer 3 ⟨[], [], []⟩, .go 3]

/-- Both fail to send it. -/
def failedTwice : List (System.Cmd (outbox sampleConfig).system) :=
  claimedTwice ++ [.arrive (.setBroker (some "Kafka send failed")), .go 4, .go 1, .go 1, .go 3, .go 3]

/-- The event is `PENDING`, and may not be tried again. -/
theorem failedTwice_lost : ¬ ∀ cfg, ∀ r : (outbox cfg).Run (NothingLost cfg), ∀ n, NothingLost cfg (r.state n) := by
  intro hall
  let r : (outbox sampleConfig).Run (NothingLost sampleConfig) := .ofSchedule emptyOutbox failedTwice (nothingLost_empty _)
  have hrow : ((r.state 20).events.lookup 1).map (fun e => (e.status, e.retryCount)) = some (.pending, some 2) := by decide +kernel
  obtain ⟨e, he, heq⟩ := Option.map_eq_some_iff.1 hrow
  obtain ⟨hstatus, hcount⟩ := Prod.mk.inj heq
  rcases (hall sampleConfig r 20).kept 1 e he (by rw [hstatus]; exact fun h => nomatch h) with hwaits | hgiven
  · have hlimit := (waits_iff.1 hwaits).1
    rw [hcount] at hlimit
    exact absurd hlimit (by decide)
  · rw [hgiven.1] at hstatus
    cases hstatus

/-- The second one publishes it, then the first one fails to send it. -/
def publishedThenFailed : List (System.Cmd (outbox sampleConfig).system) :=
  claimedTwice ++ [.go 3, .go 3, .arrive (.setBroker (some "Kafka send failed")), .go 4, .go 1, .go 1]

/-- The event is `PENDING` again. -/
theorem publishedThenFailed_pending : ¬ ∀ cfg, ∀ r : (outbox cfg).Run fun _ => True, Absorbing r := by
  intro hall
  let r : (outbox sampleConfig).Run fun _ => True := .ofSchedule emptyOutbox publishedThenFailed trivial
  have hbefore : ((r.state 9).events.lookup 1).map Event.status = some .published := by decide +kernel
  have hafter : ((r.state 20).events.lookup 1).map Event.status = some .pending := by decide +kernel
  obtain ⟨e, he, hstatus⟩ := Option.map_eq_some_iff.1 hbefore
  obtain ⟨e', he', hstatus'⟩ := (hall sampleConfig r).stays 1 9 20 (by decide) ⟨e, he, hstatus⟩
  rw [he', Option.map_some, hstatus'] at hafter
  cases hafter

end Balii.Outbox
