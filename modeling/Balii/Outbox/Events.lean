import Balii.Schema
import Balii.Json
import Balii.Lib.Fallible
import Balii.Lib.Ranked
/-!
# Events — the outbox of the payment service, and what its publishers do to it

The rows of `payment_service.outbox_events`, what the Kafka broker took, and what each publisher knows of itself.  `perform` is
one statement, one transaction of `claimPendingEvents`, or one `send`.
-/
namespace Balii.Outbox

open Rowdb

inductive Status
  | pending
  | processing
  | published
  | failed
  deriving DecidableEq

/-- A row of `outbox_events`. -/
structure Event where
  eventId : Option Uuid
  aggregateType : String
  aggregateId : String
  type : String
  payload : Json
  status : Status
  retryCount : Option ℕ
  nextRetryAt : Option ℕ
  publishedAt : Option ℕ
  lastError : Option String
  createdAt : ℕ
  deriving DecidableEq

/-- A row as `claimPendingEvents` returns it. -/
structure OutboxEventRow where
  id : Uuid
  eventId : Option Uuid
  aggregateType : String
  aggregateId : String
  type : String
  payload : Json
  retryCount : Option ℕ
  deriving DecidableEq

structure OutboxPublishMessage where
  eventId : Uuid
  eventType : String
  aggregateType : String
  aggregateId : String
  occurredAt : ℕ
  payload : Json
  deriving DecidableEq

/-- A message for Kafka; `value` is sent as JSON, the headers repeat four of its fields. -/
structure PreparedKafkaEvent where
  topic : String
  key : String
  value : OutboxPublishMessage
  deriving DecidableEq

structure State where
  events : Table Uuid Event
  /-- What the broker took, each message with the row it was made from. -/
  kafka : List (Uuid × PreparedKafkaEvent)
  /-- `isPublishing` of each publisher. -/
  isPublishing : ℕ → Bool
  /-- Whether a publisher has its `producer`. -/
  producer : ℕ → Bool
  /-- What a `send` fails with while the broker cannot be reached. -/
  brokerDown : Option String
  now : ℕ

inductive Err
  | error (message : String)
  | lost
  deriving DecidableEq

/-- `error.message`. -/
def Err.message : Err → String
  | .error message => message
  | .lost => "Connection terminated unexpectedly"

structure Config where
  maxBatchSize : ℕ
  retryDelayMs : ℕ
  processingLeaseMs : ℕ
  maxRetryCount : ℕ
  /-- `KAFKA_TOPIC_PREFIX`. -/
  topicPrefix : Option String

/-- A row to insert, by the services that write events. -/
structure NewEvent where
  aggregateType : String
  aggregateId : String
  type : String
  payload : Json
  deriving DecidableEq

inductive Op
  | pass (ms : ℕ)
  /-- The `INSERT` of a transaction that began `age` ms ago. -/
  | insertEvent (id eventId : Uuid) (event : NewEvent) (age : ℕ)
  | setProducer (publisher : ℕ) (connected : Bool)
  | setBroker (down : Option String)
  | enter (publisher : ℕ)
  | leave (publisher : ℕ)
  /-- Others hold the rows of `locked`; ties are scanned in the order of `scan`, rows come back in that of `returning`. -/
  | claim (limit : ℕ) (locked scan returning : List Uuid)
  | send (publisher : ℕ) (event : OutboxEventRow)
  | markPublished (id : Uuid)
  | markPublishFailed (id : Uuid) (retryCount : Option ℕ) (error : Err)
  deriving DecidableEq

@[reducible] def Op.Res : Op → Type
  | .enter _ => Option String
  | .claim .. => List OutboxEventRow
  | _ => Unit

/-! ## Rows as JavaScript reads them -/

/-- `typeof value === 'string' && value.trim().length > 0`. -/
def nonBlank (s : String) : Bool := trim s ≠ ""

def readRowString (value keys : String) : Except Err String :=
  if nonBlank value then .ok value else .error (.error ("Unable to read raw row string for keys: " ++ keys))

def readRowPayload : Json → Json
  | .obj fields => .obj fields
  | _ => .obj []

def normalizeClaimedRow (row : Uuid × Event) : Except Err OutboxEventRow := do
  let aggregateType ← readRowString row.2.aggregateType "aggregateType, aggregatetype"
  let aggregateId ← readRowString row.2.aggregateId "aggregateId, aggregateid"
  let type ← readRowString row.2.type "type"
  pure ⟨row.1, row.2.eventId, aggregateType, aggregateId, type, readRowPayload row.2.payload, row.2.retryCount⟩

def requireString (value field : String) : Except Err String :=
  if nonBlank value then .ok value else .error (.error ("Invalid outbox " ++ field))

def resolveTopic (cfg : Config) (eventType : String) : String :=
  match (cfg.topicPrefix.map trim).filter (· ≠ "") with
  | some topicPrefix => topicPrefix ++ "." ++ eventType
  | none => eventType

def buildMessage (event : OutboxEventRow) (now : ℕ) : Except Err OutboxPublishMessage := do
  let eventType ← requireString event.type "eventType"
  let aggregateType ← requireString event.aggregateType "aggregateType"
  let aggregateId ← requireString event.aggregateId "aggregateId"
  pure ⟨event.eventId.getD event.id, eventType, aggregateType, aggregateId, now, event.payload⟩

def prepareKafkaEvent (cfg : Config) (event : OutboxEventRow) (now : ℕ) : Except Err PreparedKafkaEvent := do
  let message ← buildMessage event now
  let topic ← requireString (resolveTopic cfg message.eventType) "topic"
  let key ← requireString message.aggregateId "key"
  pure ⟨topic, key, message⟩

/-! ## The statements -/

/-- The `WHERE` of `next_events`. -/
def Event.claimable (max now : ℕ) (e : Event) : Bool :=
  (e.status = .pending || e.status = .failed || (e.status = .processing && e.nextRetryAt.any (· ≤ now))) &&
    e.retryCount.getD 0 < max && (e.status = .processing || e.nextRetryAt.all (· ≤ now))

/-- The claimable rows that nobody else has locked. -/
def free (max : ℕ) (locked : List Uuid) (s : State) : List (Uuid × Event) :=
  s.events.select fun id e => e.claimable max s.now && !locked.contains id

/-- `ORDER BY created_at ASC`, ties as they are scanned. -/
def older (scan : List Uuid) (a b : Uuid × Event) : Prop :=
  a.2.createdAt < b.2.createdAt ∨ (a.2.createdAt = b.2.createdAt ∧ scan.idxOf a.1 ≤ scan.idxOf b.1)

instance (scan : List Uuid) : DecidableRel (older scan) := fun a b =>
  inferInstanceAs (Decidable (a.2.createdAt < b.2.createdAt ∨ (a.2.createdAt = b.2.createdAt ∧ scan.idxOf a.1 ≤ scan.idxOf b.1)))

section Scans
variable (scan : List Uuid)

instance : Std.Total (older scan) where
  total a b := by
    unfold older
    omega

instance : IsTrans (Uuid × Event) (older scan) where
  trans a b c := by
    unfold older
    omega

theorem older_refl (a : Uuid × Event) : older scan a a := .inr ⟨rfl, le_rfl⟩

theorem older_of_created {a b : Uuid × Event} (h : a.2.createdAt < b.2.createdAt) : older scan a b ∧ ¬ older scan b a := by
  unfold older
  omega

end Scans

/-- `next_events`. -/
def nextEvents (max limit : ℕ) (locked scan : List Uuid) (s : State) : List (Uuid × Event) :=
  ((free max locked s).insertionSort (older scan)).take limit

/-- The `SET` of the claim. -/
def Event.leased (until_ : ℕ) (e : Event) : Event := { e with status := .processing, nextRetryAt := some until_ }

def Event.published (now : ℕ) (e : Event) : Event :=
  { e with status := .published, publishedAt := some now, nextRetryAt := none, lastError := none }

/-- The status a failed event gets, by the count it had when it was claimed. -/
def nextStatus (max : ℕ) (retryCount : Option ℕ) : Status := if max ≤ retryCount.getD 0 + 1 then .failed else .pending

def Event.failed (cfg : Config) (now : ℕ) (retryCount : Option ℕ) (error : Err) (e : Event) : Event :=
  { e with
    status := nextStatus cfg.maxRetryCount retryCount
    retryCount := some (e.retryCount.getD 0 + 1)
    nextRetryAt := some (now + cfg.retryDelayMs)
    lastError := some error.message }

def updateAll (ids : List Uuid) (f : Event → Event) (t : Table Uuid Event) : Table Uuid Event :=
  ids.foldl (fun t id => t.modify id f) t

/-- The `UPDATE` of a claim. -/
def lease (cfg : Config) (chosen : List (Uuid × Event)) (s : State) : State :=
  { s with events := updateAll (chosen.map Prod.fst) (Event.leased (s.now + cfg.processingLeaseMs)) s.events }

/-- What the transaction of `claimPendingEvents` returns, and leaves: a row that cannot be read takes it back. -/
def claimPendingEvents (cfg : Config) (limit : ℕ) (locked scan returning : List Uuid) (s : State) :
    Except Err (List OutboxEventRow × State) := do
  let chosen := nextEvents cfg.maxRetryCount limit locked scan s
  let rows ← (chosen.insertionSort fun a b => returning.idxOf a.1 ≤ returning.idxOf b.1).mapM normalizeClaimedRow
  pure (rows, lease cfg chosen s)

/-- The row the `INSERT` makes of an event. -/
def NewEvent.row (event : NewEvent) (eventId : Uuid) (createdAt : ℕ) : Event where
  eventId := some eventId
  aggregateType := event.aggregateType
  aggregateId := event.aggregateId
  type := event.type
  payload := event.payload
  status := .pending
  retryCount := some 0
  nextRetryAt := none
  publishedAt := none
  lastError := none
  createdAt := createdAt

/-- One statement, transaction or message: its result, and the state it leaves. -/
def perform (cfg : Config) (op : Op) (s : State) : Except Err (op.Res × State) :=
  match op with
  | .pass ms => .ok ((), { s with now := s.now + ms })
  | .insertEvent id eventId event age =>
    if (s.events.lookup id).isSome ∨ (s.events.find fun _ e => e.eventId == some eventId).isSome
    then .error (.error "duplicate key value violates unique constraint")
    else .ok ((), { s with events := s.events.insertNew id (event.row eventId (s.now - age)) })
  | .setProducer publisher connected => .ok ((), { s with producer := Function.update s.producer publisher connected })
  | .setBroker down => .ok ((), { s with brokerDown := down })
  | .enter publisher =>
    if s.isPublishing publisher = true then .ok (some "publisher_busy", s)
    else if s.producer publisher = false then .ok (some "kafka_unavailable", s)
    else .ok (none, { s with isPublishing := Function.update s.isPublishing publisher true })
  | .leave publisher => .ok ((), { s with isPublishing := Function.update s.isPublishing publisher false })
  | .claim limit locked scan returning => claimPendingEvents cfg limit locked scan returning s
  | .send publisher event =>
    match prepareKafkaEvent cfg event s.now with
    | .error e => .error e
    | .ok kafkaEvent =>
      if s.producer publisher = false then .error (.error "Cannot read properties of null (reading 'send')")
      else
        match s.brokerDown with
        | some message => .error (.error message)
        | none => .ok ((), { s with kafka := s.kafka ++ [(event.id, kafkaEvent)] })
  | .markPublished id => .ok ((), { s with events := s.events.modify id (Event.published s.now) })
  | .markPublishFailed id retryCount error =>
    .ok ((), { s with events := s.events.modify id (Event.failed cfg s.now retryCount error) })

/-! ## What a claim takes -/

/-- `readRowString` finds all it needs. -/
def Event.wellFormed (e : Event) : Bool := nonBlank e.aggregateType && nonBlank e.aggregateId && nonBlank e.type

def claimedRow (x : Uuid × Event) : OutboxEventRow :=
  ⟨x.1, x.2.eventId, x.2.aggregateType, x.2.aggregateId, x.2.type, readRowPayload x.2.payload, x.2.retryCount⟩

section Claims
variable {cfg : Config} {max limit : ℕ} {locked scan returning : List Uuid} {s s' : State} {rows : List OutboxEventRow}

theorem normalizeClaimedRow_ok (x : Uuid × Event) (h : x.2.wellFormed = true) : normalizeClaimedRow x = .ok (claimedRow x) := by
  simp only [Event.wellFormed, Bool.and_eq_true] at h
  obtain ⟨⟨h₁, h₂⟩, h₃⟩ := h
  unfold normalizeClaimedRow readRowString
  rw [if_pos h₁, if_pos h₂, if_pos h₃]
  rfl

theorem normalizeClaimedRow_error (x : Uuid × Event) (h : ¬ x.2.wellFormed = true) : ∃ e, normalizeClaimedRow x = .error e := by
  unfold normalizeClaimedRow readRowString
  by_cases h₁ : nonBlank x.2.aggregateType = true
  · by_cases h₂ : nonBlank x.2.aggregateId = true
    · by_cases h₃ : nonBlank x.2.type = true
      · exact absurd (by simp [Event.wellFormed, h₁, h₂, h₃]) h
      · rw [if_pos h₁, if_pos h₂, if_neg h₃]
        exact ⟨_, rfl⟩
    · rw [if_pos h₁, if_neg h₂]
      exact ⟨_, rfl⟩
  · rw [if_neg h₁]
    exact ⟨_, rfl⟩

/-- **A claim succeeds when it can read all it chose.** -/
theorem claimPendingEvents_ok : claimPendingEvents cfg limit locked scan returning s = .ok (rows, s') ↔
    (∀ x ∈ nextEvents cfg.maxRetryCount limit locked scan s, x.2.wellFormed = true) ∧
      rows = ((nextEvents cfg.maxRetryCount limit locked scan s).insertionSort
        fun a b => returning.idxOf a.1 ≤ returning.idxOf b.1).map claimedRow ∧
      s' = lease cfg (nextEvents cfg.maxRetryCount limit locked scan s) s := by
  have hmap := @mapM_ok _ _ _ _ _ _ normalizeClaimedRow_ok normalizeClaimedRow_error
    ((nextEvents cfg.maxRetryCount limit locked scan s).insertionSort fun a b => returning.idxOf a.1 ≤ returning.idxOf b.1)
  simp only [List.mem_insertionSort] at hmap
  unfold claimPendingEvents
  constructor
  · intro h
    cases hrows : (List.insertionSort (fun a b => returning.idxOf a.1 ≤ returning.idxOf b.1)
        (nextEvents cfg.maxRetryCount limit locked scan s)).mapM normalizeClaimedRow with
    | error e =>
      simp only [hrows] at h
      cases h
    | ok rows' =>
      simp only [hrows] at h
      cases h
      obtain ⟨hall, rfl⟩ := hmap.1 hrows
      exact ⟨hall, rfl, rfl⟩
  · rintro ⟨hall, rfl, rfl⟩
    simp only [hmap.2 ⟨hall, rfl⟩]
    rfl

theorem mem_free {x : Uuid × Event} :
    x ∈ free max locked s ↔ s.events.lookup x.1 = some x.2 ∧ x.2.claimable max s.now = true ∧ x.1 ∉ locked := by
  obtain ⟨id, e⟩ := x
  unfold free
  rw [AList.mem_select]
  simp

theorem mem_nextEvents {x : Uuid × Event} (h : x ∈ nextEvents max limit locked scan s) :
    s.events.lookup x.1 = some x.2 ∧ x.2.claimable max s.now = true := by
  have hfree : x ∈ free max locked s := (List.mem_insertionSort _).1 (List.mem_of_mem_take h)
  exact ⟨(mem_free.1 hfree).1, (mem_free.1 hfree).2.1⟩

/-- A row that a claim returns was chosen. -/
theorem claimed_row (h : claimPendingEvents cfg limit locked scan returning s = .ok (rows, s')) {row : OutboxEventRow}
    (hrow : row ∈ rows) : ∃ e, (row.id, e) ∈ nextEvents cfg.maxRetryCount limit locked scan s ∧ row = claimedRow (row.id, e) := by
  obtain ⟨_, rfl, _⟩ := claimPendingEvents_ok.1 h
  obtain ⟨x, hx, rfl⟩ := List.mem_map.1 hrow
  exact ⟨x.2, (List.mem_insertionSort _).1 hx, rfl⟩

end Claims

/-! ## What an operation makes of a row -/

theorem lookup_updateAll {f : Event → Event} (hf : ∀ e, f (f e) = f e) (id : Uuid) : ∀ (ids : List Uuid) (t : Table Uuid Event),
    (updateAll ids f t).lookup id = if id ∈ ids then (t.lookup id).map f else t.lookup id
  | [], t => rfl
  | i :: ids, t => by
    show (updateAll ids f (t.modify i f)).lookup id = _
    rw [lookup_updateAll hf id ids, AList.lookup_modify]
    by_cases hi : id = i
    · rw [if_pos hi, if_pos (List.mem_cons.2 (.inl hi))]
      split
      · cases t.lookup id with
        | none => rfl
        | some e => exact congrArg some (hf e)
      · rfl
    · simp only [List.mem_cons, hi, false_or, if_false]

/-- The change of a row that is there. -/
def Op.effect (cfg : Config) (op : Op) (s : State) (id : Uuid) (e : Event) : Event :=
  match op with
  | .claim limit locked scan _ =>
    if id ∈ (nextEvents cfg.maxRetryCount limit locked scan s).map Prod.fst then e.leased (s.now + cfg.processingLeaseMs) else e
  | .markPublished id' => if id = id' then e.published s.now else e
  | .markPublishFailed id' retryCount error => if id = id' then e.failed cfg s.now retryCount error else e
  | _ => e

/-- The row an operation puts in. -/
def Op.inserts (op : Op) (s : State) (id : Uuid) : Option Event :=
  match op with
  | .insertEvent id' eventId event age => if id = id' then some (event.row eventId (s.now - age)) else none
  | _ => none

section Rows
variable {cfg : Config} {op : Op} {s s' : State} {a : op.Res} {id : Uuid}

/-- **A row after an operation** is what the operation made of it, or a new one. -/
theorem lookup_perform (h : perform cfg op s = .ok (a, s')) :
    s'.events.lookup id = ((s.events.lookup id).map (op.effect cfg s id)).or (op.inserts s id) := by
  have same : ∀ {f : Event → Event}, (∀ e, f e = e) → s.events.lookup id = ((s.events.lookup id).map f).or none := by
    intro f hf
    rw [Option.or_none]
    cases s.events.lookup id with
    | none => rfl
    | some e => exact congrArg some (hf e).symm
  have hmodify : ∀ {id' : Uuid} {f : Event → Event},
      (s.events.modify id' f).lookup id = ((s.events.lookup id).map fun e => if id = id' then f e else e).or none := by
    intro id' f
    rw [AList.lookup_modify, Option.or_none]
    by_cases hid : id = id'
    · simp only [if_pos hid]
    · simp only [if_neg hid, Option.map_id']
  cases op with
  | insertEvent id' eventId event age =>
    unfold perform at h
    dsimp only at h
    split at h
    · cases h
    · rename_i hnew
      cases h
      have hfresh : s.events.lookup id' = none := by simpa using fun hs => hnew (.inl hs)
      show (s.events.insertNew id' (event.row eventId (s.now - age))).lookup id = _
      rw [AList.lookup_insertNew]
      by_cases hid : id = id'
      · subst hid
        simp [Op.inserts, hfresh]
      · simp only [if_neg hid, Op.inserts]
        exact same fun _ => rfl
  | enter publisher =>
    unfold perform at h
    dsimp only at h
    split at h
    · cases h
      exact same fun _ => rfl
    · split at h <;> cases h <;> exact same fun _ => rfl
  | claim limit locked scan returning =>
    obtain ⟨_, _, rfl⟩ := claimPendingEvents_ok.1 h
    show (updateAll _ _ s.events).lookup id = ((s.events.lookup id).map fun e => _).or none
    rw [lookup_updateAll (f := Event.leased _) fun _ => rfl, Option.or_none]
    by_cases hid : id ∈ (nextEvents cfg.maxRetryCount limit locked scan s).map Prod.fst
    · simp only [if_pos hid, Op.effect]
    · simp only [if_neg hid, Op.effect, Option.map_id']
  | send publisher event =>
    unfold perform at h
    dsimp only at h
    split at h
    · cases h
    · split at h
      · cases h
      · split at h
        · cases h
        · cases h
          exact same fun _ => rfl
  | markPublished id' => cases h; exact hmodify
  | markPublishFailed id' retryCount error => cases h; exact hmodify
  | pass ms => cases h; exact same fun _ => rfl
  | setProducer publisher connected => cases h; exact same fun _ => rfl
  | setBroker down => cases h; exact same fun _ => rfl
  | leave publisher => cases h; exact same fun _ => rfl

theorem lookup_effect (h : perform cfg op s = .ok (a, s')) {e : Event} (he : s.events.lookup id = some e) :
    s'.events.lookup id = some (op.effect cfg s id e) := by
  rw [lookup_perform h, he]
  rfl

/-- What an operation does not change of a row. -/
theorem effect_columns (op : Op) (s : State) (id : Uuid) (e : Event) :
    (op.effect cfg s id e).aggregateId = e.aggregateId ∧ (op.effect cfg s id e).createdAt = e.createdAt ∧
      (op.effect cfg s id e).wellFormed = e.wellFormed := by
  cases op with
  | claim limit locked scan returning =>
    simp only [Op.effect]
    split <;> exact ⟨rfl, rfl, rfl⟩
  | markPublished id' =>
    simp only [Op.effect]
    split <;> exact ⟨rfl, rfl, rfl⟩
  | markPublishFailed id' retryCount error =>
    simp only [Op.effect]
    split <;> exact ⟨rfl, rfl, rfl⟩
  | _ => exact ⟨rfl, rfl, rfl⟩

/-- The broker has taken a message made from the row. -/
def Acknowledged (s : State) (id : Uuid) : Prop := id ∈ s.kafka.map Prod.fst

instance (s : State) (id : Uuid) : Decidable (Acknowledged s id) := inferInstanceAs (Decidable (id ∈ s.kafka.map Prod.fst))

theorem acknowledged_perform (h : perform cfg op s = .ok (a, s')) :
    Acknowledged s' id ↔ Acknowledged s id ∨ ∃ publisher event, op = .send publisher event ∧ event.id = id := by
  cases op with
  | send publisher event =>
    unfold perform at h
    dsimp only at h
    split at h
    · cases h
    · split at h
      · cases h
      · split at h
        · cases h
        · cases h
          simp [Acknowledged, eq_comm]
  | insertEvent id' eventId event age =>
    unfold perform at h
    dsimp only at h
    split at h <;> cases h
    exact ⟨.inl, fun h => h.resolve_right (by simp)⟩
  | enter publisher =>
    unfold perform at h
    dsimp only at h
    split at h
    · cases h
      exact ⟨.inl, fun h => h.resolve_right (by simp)⟩
    · split at h <;> cases h <;> exact ⟨.inl, fun h => h.resolve_right (by simp)⟩
  | claim limit locked scan returning =>
    obtain ⟨_, _, rfl⟩ := claimPendingEvents_ok.1 h
    exact ⟨.inl, fun h => h.resolve_right (by simp)⟩
  | _ => cases h; exact ⟨.inl, fun h => h.resolve_right (by simp)⟩

end Rows

end Balii.Outbox
