import Balii.Outbox.Events
import Balii.Lib.Atomic
/-!
# Publisher — `PaymentOutboxPublisher`, any number of instances of it

One call claims a batch, then sends its events one after another and records how each went.  Whatever breaks a call leaves the
rest of its batch to the expiry of the lease.
-/
namespace Balii.Outbox

open Rowdb Rowdb.Atomic List

/-- What PostgreSQL is free to do with a claim: whose rows others have locked, how ties are scanned, in which order the rows come
back. -/
structure Answer where
  locked : List Uuid
  scan : List Uuid
  returning : List Uuid

/-- How far the loop has come; `failed` has an event's id and the error's message. -/
structure Progress where
  published : ℕ
  attemptedIds : List Uuid
  failed : List (Uuid × String)
  deriving DecidableEq

inductive Reply
  | skipped (reason : String)
  | result (claimed : ℕ) (progress : Progress)
  | done
  deriving DecidableEq

inductive Call
  | publishPendingEvents (publisher : ℕ) (limit : Option ℕ)
  | insertEvent (id eventId : Uuid) (event : NewEvent) (age : ℕ)
  | setProducer (publisher : ℕ) (connected : Bool)
  | setBroker (down : Option String)
  | pass (ms : ℕ)
  deriving DecidableEq

abbrev Procedure (α : Type) : Type := Proc Op Op.Res Call Reply Answer Err α

def act (op : Op) : Procedure op.Res := Proc.trans op

/-- The body of the `for`, up to its error. -/
def publishEvent (publisher : ℕ) (event : OutboxEventRow) (p : Progress) : Procedure (Progress × Option Err) := do
  let sent ← Proc.attempt (.send publisher event)
  match sent with
  | .error e => pure (p, some e)
  | .ok _ => do
    let marked ← Proc.attempt (.markPublished event.id)
    let p := { p with published := p.published + 1 }
    match marked with
    | .error e => pure (p, some e)
    | .ok _ => pure (p, none)

def publishEvents (publisher : ℕ) : List OutboxEventRow → Progress → Procedure Progress
  | [], p => pure p
  | event :: rest, p => do
    let outcome ← publishEvent publisher event { p with attemptedIds := p.attemptedIds ++ [event.id] }
    match outcome.2 with
    | none => publishEvents publisher rest outcome.1
    | some e => do
      act (.markPublishFailed event.id event.retryCount e)
      publishEvents publisher rest { outcome.1 with failed := outcome.1.failed ++ [(event.id, e.message)] }

/-- The body of the `try` of `publishPendingEvents`. -/
def publishBatch (publisher limit : ℕ) : Procedure Reply := do
  let choice ← Proc.answer
  let events ← act (.claim limit choice.locked choice.scan choice.returning)
  let progress ← publishEvents publisher events ⟨0, [], []⟩
  pure (.result events.length progress)

/-- `finally { this.isPublishing = false }`, on the way of an error. -/
def leaveWith (publisher : ℕ) (e : Err) : Procedure Reply := do
  act (.leave publisher)
  Proc.fail e

def publishPendingEvents (cfg : Config) (publisher : ℕ) (limit : Option ℕ) : Procedure Reply := do
  let reason ← act (.enter publisher)
  match reason with
  | some reason => pure (.skipped reason)
  | none => do
    let reply ← (publishBatch publisher (limit.getD cfg.maxBatchSize)).catching (leaveWith publisher)
    act (.leave publisher)
    pure reply

/-- One statement of another service, or the passing of time. -/
def just (op : Op) : Procedure Reply := do
  let _ ← act op
  pure .done

def Call.proc (cfg : Config) : Call → Procedure Reply
  | .publishPendingEvents publisher limit => Outbox.publishPendingEvents cfg publisher limit
  | .insertEvent id eventId event age => just (.insertEvent id eventId event age)
  | .setProducer publisher connected => just (.setProducer publisher connected)
  | .setBroker down => just (.setBroker down)
  | .pass ms => just (.pass ms)

/-- **The outbox and its publishers.** -/
@[reducible] def outbox (cfg : Config) : Atomic where
  State := State
  Err := Err
  Op := Op
  Res := Op.Res
  Call := Call
  Reply := Reply
  Answer := Answer
  perform := perform cfg
  proc := Call.proc cfg
  lost := .lost

/-! ## What a publisher has done when it writes -/

variable {cfg : Config}

abbrev Log (cfg : Config) : Type := List (Act (outbox cfg))

/-- The rows a claim returns. -/
def Claims (cfg : Config) (op : Op) (b : State) (rows : List OutboxEventRow) : Prop :=
  ∃ limit locked scan returning s', op = .claim limit locked scan returning ∧
    claimPendingEvents cfg limit locked scan returning b = .ok (rows, s')

/-- The row's turn in the loop is over. -/
def Handled (publisher : ℕ) (x : Act (outbox cfg)) (e : OutboxEventRow) : Prop :=
  x.op = .send publisher e ∨ ∃ error, x.op = .markPublishFailed e.id e.retryCount error

/-- The session has claimed `pre ++ event :: post`, and come to `event`. -/
def Reaches (l : Log cfg) (publisher : ℕ) (event : OutboxEventRow) : Prop :=
  ∃ c pre post, [c] <+ l ∧ Claims cfg c.op c.before (pre ++ event :: post) ∧
    ∀ e ∈ pre, ∃ x, [c, x] <+ l ∧ Handled publisher x e

def Allowed (cfg : Config) (call : Call) (l : Log cfg) (op : Op) (_ : State) : Prop :=
  match op with
  | .send publisher event => Reaches l publisher event
  | .markPublished id => ∃ publisher event x, Reaches l publisher event ∧ event.id = id ∧ [x] <+ l ∧ x.op = .send publisher event
  | .markPublishFailed id retryCount _ => ∃ publisher event, Reaches l publisher event ∧ event.id = id ∧ event.retryCount = retryCount
  | .insertEvent id eventId event age => call = .insertEvent id eventId event age
  | _ => True

section Programs
variable {call : Call} {l : Log cfg}

theorem logs_act {op : Op} {post : Log cfg → op.Res → Prop} (hop : ∀ s, Allowed cfg call l op s)
    (h : ∀ n b a b', perform cfg op b = .ok (a, b') → post (l ++ [⟨n, op, b⟩]) a) :
    Logs (A := outbox cfg) (Allowed cfg call) (act op) post l :=
  logs_trans fun n b a b' hperf => ⟨hop _, h n b a b' hperf⟩

theorem Reaches.mono {l' : Log cfg} {publisher : ℕ} {event : OutboxEventRow} (h : Reaches l publisher event) (hsub : l <+ l') :
    Reaches l' publisher event := by
  obtain ⟨c, pre, post, hc, hclaims, hpre⟩ := h
  refine ⟨c, pre, post, hc.trans hsub, hclaims, fun e he => ?_⟩
  obtain ⟨x, hx, hhandled⟩ := hpre e he
  exact ⟨x, hx.trans hsub, hhandled⟩

theorem logs_publishEvent {publisher : ℕ} {event : OutboxEventRow} {p : Progress} (h : Reaches l publisher event) :
    Logs (A := outbox cfg) (Allowed cfg call) (publishEvent publisher event p)
      (fun l' outcome => l <+ l' ∧ (outcome.2 = none → ∃ x, l ++ [x] <+ l' ∧ x.op = .send publisher event)) l := by
  refine logs_bind (logs_attempt (fun n b a b' hperf => ⟨h, ?_, ?_⟩) fun e => ?_)
  · have hreaches : Reaches (l ++ [⟨n, .send publisher event, b⟩]) publisher event := h.mono (sublist_append_left _ _)
    have hsent : [(⟨n, .send publisher event, b⟩ : Act (outbox cfg))] <+ l ++ [⟨n, .send publisher event, b⟩] :=
      sublist_append_right _ _
    refine logs_bind (logs_attempt (fun m b₁ a₁ b₁' _ => ⟨⟨publisher, event, _, hreaches, rfl, hsent, rfl⟩, ?_, ?_⟩) fun e => ?_)
    · exact ⟨(sublist_append_left _ _).trans (sublist_append_left _ _), fun _ => ⟨_, sublist_append_left _ _, rfl⟩⟩
    · exact ⟨(sublist_append_left _ _).trans (sublist_append_left _ _), fun hnone => nomatch hnone⟩
    · exact ⟨sublist_append_left _ _, fun hnone => nomatch hnone⟩
  · exact ⟨sublist_append_left _ _, fun hnone => nomatch hnone⟩
  · exact ⟨.refl _, fun hnone => nomatch hnone⟩

/-- The loop: what stands before the current event has had its turn. -/
theorem logs_publishEvents {publisher : ℕ} {c : Act (outbox cfg)} {all : List OutboxEventRow} (hclaims : Claims cfg c.op c.before all)
    (rest pre : List OutboxEventRow) (p : Progress) {l : Log cfg} (hall : all = pre ++ rest) (hc : [c] <+ l)
    (hpre : ∀ e ∈ pre, ∃ x, [c, x] <+ l ∧ Handled publisher x e) :
    Logs (A := outbox cfg) (Allowed cfg call) (publishEvents publisher rest p) (fun _ _ => True) l := by
  induction rest generalizing pre p l with
  | nil => trivial
  | cons event rest ih =>
    subst hall
    have hreaches : Reaches l publisher event := ⟨c, pre, rest, hc, hclaims, hpre⟩
    have hnext : pre ++ event :: rest = (pre ++ [event]) ++ rest := by rw [append_assoc, singleton_append]
    -- once the event has had its turn, the loop goes on with one more before it
    have next : ∀ (p : Progress) (l' : Log cfg) (x : Act (outbox cfg)), l <+ l' → [c, x] <+ l' → Handled publisher x event →
        Logs (A := outbox cfg) (Allowed cfg call) (publishEvents publisher rest p) (fun _ _ => True) l' := by
      intro p l' x hsub hx hhandled
      refine ih (pre ++ [event]) p hnext (hc.trans hsub) fun e he => ?_
      rcases mem_append.1 he with he | he
      · obtain ⟨y, hy, hy'⟩ := hpre e he
        exact ⟨y, hy.trans hsub, hy'⟩
      · cases mem_singleton.1 he
        exact ⟨x, hx, hhandled⟩
    refine logs_bind ((logs_publishEvent hreaches).mono ?_)
    rintro l' ⟨p', error⟩ ⟨hsub, hsent⟩
    cases error with
    | none =>
      obtain ⟨x, hx, hop⟩ := hsent rfl
      exact next _ _ x hsub (((hc.append_right [x]).trans hx)) (.inl hop)
    | some e =>
      refine logs_bind (logs_act (fun _ => ⟨publisher, event, hreaches.mono hsub, rfl, rfl⟩) fun n b a b' _ => ?_)
      exact next _ _ ⟨n, _, b⟩ (hsub.trans (sublist_append_left _ _)) ((hc.trans hsub).append_right _) (.inr ⟨e, rfl⟩)

theorem logs_publishBatch (publisher limit : ℕ) :
    Logs (A := outbox cfg) (Allowed cfg call) (publishBatch publisher limit) (fun _ _ => True) l := by
  refine logs_bind (logs_answer fun choice => logs_bind (logs_act (fun _ => trivial) fun n b rows b' hperf => ?_))
  have hclaims : Claims cfg (.claim limit choice.locked choice.scan choice.returning) b rows :=
    ⟨limit, choice.locked, choice.scan, choice.returning, b', rfl, hperf⟩
  refine logs_bind ((logs_publishEvents (c := ⟨n, _, b⟩) hclaims rows [] _ rfl (sublist_append_right _ _) fun _ he => nomatch he).mono ?_)
  exact fun _ _ _ => trivial

theorem logs_publishPendingEvents (publisher : ℕ) (limit : Option ℕ) :
    Logs (A := outbox cfg) (Allowed cfg call) (publishPendingEvents cfg publisher limit) (fun _ _ => True) l := by
  have hleave : ∀ (l : Log cfg) (e : Err),
      Logs (A := outbox cfg) (Allowed cfg call) (leaveWith publisher e) (fun _ _ => True) l := fun l e =>
    logs_bind (logs_act (fun _ => trivial) fun _ _ _ _ _ => trivial)
  refine logs_bind (logs_act (fun _ => trivial) fun n b reason _ _ => ?_)
  cases reason with
  | some reason => trivial
  | none =>
    refine logs_bind ((logs_catching (logs_publishBatch publisher _) hleave).mono fun _ _ _ => ?_)
    exact logs_bind (logs_act (fun _ => trivial) fun _ _ _ _ _ => trivial)

theorem logs_just {op : Op} (h : ∀ s, Allowed cfg call l op s) :
    Logs (A := outbox cfg) (Allowed cfg call) (just op) (fun _ _ => True) l :=
  logs_bind (logs_act h fun _ _ _ _ _ => trivial)

theorem proc_logs (call : Call) : Logs (A := outbox cfg) (Allowed cfg call) (call.proc cfg) (fun _ _ => True) [] := by
  cases call with
  | publishPendingEvents publisher limit => exact logs_publishPendingEvents publisher limit
  | insertEvent id eventId event age => exact logs_just fun _ => rfl
  | setProducer publisher connected => exact logs_just fun _ => trivial
  | setBroker down => exact logs_just fun _ => trivial
  | pass ms => exact logs_just fun _ => trivial

end Programs

/-! ## The same of a run -/

section Runs
variable {Init : State → Prop} {r : (outbox cfg).Run Init} {n i : ℕ} {call : Call}

theorem does_perform {op : Op} {b : State} (h : Does r.trace n i call op b) :
    b = r.state n ∧ ∃ a, perform cfg op (r.state n) = .ok (a, r.state (n + 1)) := by
  obtain ⟨hb, a, hperf⟩ := h.at r.lawful
  rw [hb] at hperf
  exact ⟨hb, a, hperf⟩

/-- At `m` the session of `n` claimed rows, of which `event` is the one after `pre`. -/
def ClaimedAt (r : (outbox cfg).Run Init) (m n i : ℕ) (call : Call) (pre : List OutboxEventRow) (event : OutboxEventRow)
    (post : List OutboxEventRow) : Prop :=
  m < n ∧ ∃ op, Does r.trace m i call op (r.state m) ∧ Claims cfg op (r.state m) (pre ++ event :: post)

theorem claimed_of_reaches {l : Log cfg} {publisher : ℕ} {event : OutboxEventRow} (hlog : Logged r.trace i call l)
    (hplaces : ∀ x ∈ l, x.place < n) (h : Reaches l publisher event) :
    ∃ m pre post, ClaimedAt r m n i call pre event post ∧
      ∀ e ∈ pre, ∃ k op, m < k ∧ k < n ∧ Does r.trace k i call op (r.state k) ∧
        (op = .send publisher e ∨ ∃ error, op = .markPublishFailed e.id e.retryCount error) := by
  obtain ⟨c, pre, post, hc, hclaims, hpre⟩ := h
  have hdoes : ∀ x ∈ l, Does r.trace x.place i call x.op (r.state x.place) ∧ x.before = r.state x.place := by
    intro x hx
    have hbefore : x.before = r.state x.place := ((hlog.1 x hx).at r.lawful).1
    exact ⟨hbefore ▸ hlog.1 x hx, hbefore⟩
  have hcl := singleton_sublist.1 hc
  obtain ⟨hdoesc, hbefore⟩ := hdoes c hcl
  rw [hbefore] at hclaims
  refine ⟨c.place, pre, post, ⟨hplaces c hcl, c.op, hdoesc, hclaims⟩, fun e he => ?_⟩
  obtain ⟨x, hx, hhandled⟩ := hpre e he
  have hxl : x ∈ l := hx.subset (mem_cons_of_mem _ (mem_singleton.2 rfl))
  have hlt : c.place < x.place := (pairwise_cons.1 (hlog.2.sublist hx)).1 x (mem_singleton.2 rfl)
  exact ⟨x.place, x.op, hlt, hplaces x hxl, (hdoes x hxl).1, hhandled⟩

/-- **An event is sent** by the session that claimed it, once those before it have had their turn. -/
theorem claimed_of_send {publisher : ℕ} {event : OutboxEventRow} {b : State} (h : Does r.trace n i call (.send publisher event) b) :
    ∃ m pre post, ClaimedAt r m n i call pre event post ∧
      ∀ e ∈ pre, ∃ k op, m < k ∧ k < n ∧ Does r.trace k i call op (r.state k) ∧
        (op = .send publisher e ∨ ∃ error, op = .markPublishFailed e.id e.retryCount error) := by
  obtain ⟨l, hlog, hplaces, hreaches⟩ := (meets r.traced fun call => proc_logs call).1 _ _ _ _ _ h
  exact claimed_of_reaches hlog hplaces hreaches

/-- **A failure is reported** by a session that claimed the event, with the count it had then. -/
theorem claimed_of_failed {id : Uuid} {retryCount : Option ℕ} {error : Err} {b : State}
    (h : Does r.trace n i call (.markPublishFailed id retryCount error) b) :
    ∃ m pre event post, ClaimedAt r m n i call pre event post ∧ event.id = id ∧ event.retryCount = retryCount := by
  obtain ⟨l, hlog, hplaces, publisher, event, hreaches, hid, hcount⟩ := (meets r.traced fun call => proc_logs call).1 _ _ _ _ _ h
  obtain ⟨m, pre, post, hclaimed, _⟩ := claimed_of_reaches hlog hplaces hreaches
  exact ⟨m, pre, event, post, hclaimed, hid, hcount⟩

/-- **An event is marked as published** by a session whose message the broker took. -/
theorem sent_of_published {id : Uuid} {b : State} (h : Does r.trace n i call (.markPublished id) b) :
    ∃ k publisher event, k < n ∧ event.id = id ∧ Does r.trace k i call (.send publisher event) (r.state k) := by
  obtain ⟨l, hlog, hplaces, publisher, event, x, _, hid, hx, hop⟩ := (meets r.traced fun call => proc_logs call).1 _ _ _ _ _ h
  have hxl := singleton_sublist.1 hx
  have hdoes := hlog.1 x hxl
  have hbefore : x.before = r.state x.place := (hdoes.at r.lawful).1
  rw [hop, hbefore] at hdoes
  exact ⟨x.place, publisher, event, hplaces x hxl, hid, hdoes⟩

end Runs

end Balii.Outbox
