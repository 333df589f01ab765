import Balii.Gateway.Requests
import Balii.Config
import Balii.Lib.FixedWindow
/-!
# RateLimit — how often a client gets through the gateway

`GatewayRateLimitMiddleware` over the script of `consumeRateLimit`, which Redis runs as one: any number of gateways, clients and
requests in the order in which Redis has them.  Times are in milliseconds on its clock.
-/
namespace Balii.Gateway

open Http FixedWindow

/-- The script runs and its answer arrives, or the client only learns of an error. -/
inductive RedisOutcome
  | answered
  | lost (ran : Bool)
  deriving DecidableEq

/-- A request as it reaches the middleware; `userId` is the header that the middleware before it has set. -/
structure Arrival where
  time : ℕ
  method : Method
  path : Text
  userId : Option String
  ip : Option String
  redis : RedisOutcome

inductive Verdict
  | next
  | refused (status : ℕ) (message : String) (retryAfterSeconds : Option ℕ)
  deriving DecidableEq

/-- The verdict, and the headers `X-RateLimit-Limit` and `X-RateLimit-Remaining`. -/
structure Outcome where
  headers : Option (ℕ × ℕ)
  verdict : Verdict
  deriving DecidableEq

/-- `String(req.headers['x-user-id'] || req.ip || 'unknown')`. -/
def Arrival.identity (a : Arrival) : String := ((nonEmpty a.userId).or (nonEmpty a.ip)).getD "unknown"

def rateKey (rule : RateRule) (identity : String) : String := "gateway:rate:" ++ rule.name ++ ":" ++ identity

structure RateLimitResult where
  current : ℕ
  ttl : ℕ
  allowed : Bool

/-- `INCR`, `EXPIRE` for the first, and `TTL`, which Redis rounds to the nearest second. -/
def consumeRateLimit (store : Table String Counter) (key : String) (limit windowSeconds now : ℕ) :
    RateLimitResult × Table String Counter :=
  let c := hit (windowSeconds * 1000) now (store.lookup key)
  ({ current := c.count, ttl := max ((c.ends - now + 500) / 1000) 1, allowed := c.count ≤ limit }, store.insert key c)

/-- `GatewayRateLimitMiddleware.use`. -/
def limitRate (failClosed : Bool) (store : Table String Counter) (a : Arrival) : Outcome × Table String Counter :=
  match getRule a.method a.path with
  | none => (⟨none, .next⟩, store)
  | some rule =>
    let (result, store') := consumeRateLimit store (rateKey rule a.identity) rule.limit rule.windowSeconds a.time
    match a.redis with
    | .answered =>
      let headers := some (rule.limit, rule.limit - result.current)
      if result.allowed then (⟨headers, .next⟩, store')
      else (⟨headers, .refused 429 "Bạn thao tác quá nhanh. Vui lòng thử lại sau." (some result.ttl)⟩, store')
    | .lost ran =>
      (⟨none, if failClosed then .refused 503 "Dịch vụ bảo vệ đang tạm thời không khả dụng." none else .next⟩,
        if ran then store' else store)

/-- What Redis has, and the requests so far with what became of them. -/
structure Traffic where
  store : Table String Counter
  log : List (Arrival × Outcome)

def arrive (failClosed : Bool) (t : Traffic) (a : Arrival) : Traffic :=
  let (outcome, store) := limitRate failClosed t.store a
  { store, log := t.log ++ [(a, outcome)] }

/-- All requests, in their order. -/
def traffic (failClosed : Bool) (arrivals : List Arrival) : Traffic := arrivals.foldl (arrive failClosed) ⟨∅, []⟩

/-! ## The requests of one client under one rule -/

/-- The request counts for the client under the rule. -/
def Arrival.isOf (rule : RateRule) (identity : String) (a : Arrival) : Bool :=
  getRule a.method a.path == some rule && a.identity == identity

def Arrival.attempt (a : Arrival) : Attempt where
  time := a.time
  counted := a.redis != .lost false
  heard := a.redis == .answered

/-- The client's attempts under the rule. -/
def attempts (rule : RateRule) (identity : String) (arrivals : List Arrival) : List Attempt :=
  (arrivals.filter (·.isOf rule identity)).map Arrival.attempt

/-- The requests of the client that were let through in a span of time. -/
def Traffic.passedIn (t : Traffic) (rule : RateRule) (identity : String) (start stop : ℕ) : ℕ :=
  (t.log.filter fun e => e.1.isOf rule identity && e.2.verdict == .next && decide (start ≤ e.1.time ∧ e.1.time ≤ stop)).length

/-- The requests of the client in a span of time that Redis did not answer. -/
def unheardIn (arrivals : List Arrival) (rule : RateRule) (identity : String) (start stop : ℕ) : ℕ :=
  (arrivals.filter fun a => a.isOf rule identity && a.redis != .answered && decide (start ≤ a.time ∧ a.time ≤ stop)).length

/-! ## Keys -/

/-- The rules there are. -/
def rateRules : List RateRule :=
  [⟨"login", 5, 15 * 60⟩, ⟨"auth-email", 3, 15 * 60⟩, ⟨"register", 5, 60 * 60⟩, ⟨"reset-password", 5, 15 * 60⟩, ⟨"refresh", 30, 60⟩,
    ⟨"try-on", 10, 60 * 60⟩, ⟨"chatbot", 30, 60⟩, ⟨"payments", 10, 60⟩, ⟨"cart-mutation", 120, 60⟩]

section
variable {failClosed : Bool} {rule rule' : RateRule} {identity identity' : String} {a : Arrival} {arrivals p : List Arrival}

theorem getRule_mem {method : Method} {path : Text} (h : getRule method path = some rule) : rule ∈ rateRules := by
  unfold getRule at h
  dsimp only at h
  repeat' split at h
  all_goals (cases h <;> decide)

theorem names_apart : ∀ r ∈ rateRules, ∀ r' ∈ rateRules, (r.name ++ ":").toList <+: (r'.name ++ ":").toList → r = r' := by decide

/-- **Two clients, or two rules, have two keys.** -/
theorem rateKey_inj (hrule : rule ∈ rateRules) (hrule' : rule' ∈ rateRules) (h : rateKey rule identity = rateKey rule' identity') :
    rule = rule' ∧ identity = identity' := by
  unfold rateKey at h
  have hkey : (rule.name ++ ":").toList ++ identity.toList = (rule'.name ++ ":").toList ++ identity'.toList := by
    have hchars := congrArg String.toList h
    simp only [String.toList_append, List.append_assoc, List.append_cancel_left_eq] at hchars ⊢
    exact hchars
  have hpre : (rule.name ++ ":").toList <+: (rule'.name ++ ":").toList ++ identity'.toList := hkey ▸ List.prefix_append _ _
  have hsame : rule = rule' := by
    rcases List.prefix_or_prefix_of_prefix hpre (List.prefix_append _ _) with h | h
    · exact names_apart rule hrule rule' hrule' h
    · exact (names_apart rule' hrule' rule hrule h).symm
  subst hsame
  exact ⟨rfl, String.toList_inj.1 (List.append_cancel_left hkey)⟩

theorem limit_pos : ∀ r ∈ rateRules, 1 ≤ r.limit := by decide

/-! ## The counter of a client -/

theorem traffic_snoc (p : List Arrival) (a : Arrival) : traffic failClosed (p ++ [a]) = arrive failClosed (traffic failClosed p) a := by
  unfold traffic
  rw [List.foldl_append]
  rfl

theorem attempts_snoc (p : List Arrival) (a : Arrival) :
    attempts rule identity (p ++ [a]) = attempts rule identity p ++ if a.isOf rule identity then [a.attempt] else [] := by
  unfold attempts
  rw [List.filter_append, List.map_append]
  by_cases h : a.isOf rule identity = true
  · simp [h]
  · simp [h]

theorem isOf_iff : a.isOf rule identity = true ↔ getRule a.method a.path = some rule ∧ a.identity = identity := by
  simp [Arrival.isOf]

/-- A request of somebody else leaves the counter. -/
theorem store_of_other (t : Traffic) (hrule : rule ∈ rateRules) (h : a.isOf rule identity = false) :
    (arrive failClosed t a).store.lookup (rateKey rule identity) = t.store.lookup (rateKey rule identity) := by
  have hkey : ∀ r, getRule a.method a.path = some r → rateKey rule identity ≠ rateKey r a.identity := by
    intro r hr hkey
    obtain ⟨rfl, rfl⟩ := rateKey_inj hrule (getRule_mem hr) hkey
    rw [isOf_iff.2 ⟨hr, rfl⟩] at h
    cases h
  unfold arrive limitRate
  cases hr : getRule a.method a.path with
  | none => rfl
  | some r =>
    dsimp only [consumeRateLimit]
    split
    · split <;> exact AList.lookup_insert_ne (hkey r hr)
    · rename_i ran _
      cases ran
      · rfl
      · exact AList.lookup_insert_ne (hkey r hr)

/-- A request of the client moves the counter as its attempt does. -/
theorem store_of_own (t : Traffic) (h : a.isOf rule identity = true) :
    (arrive failClosed t a).store.lookup (rateKey rule identity) =
      if a.attempt.counted then some (hit (rule.windowSeconds * 1000) a.time (t.store.lookup (rateKey rule identity)))
      else t.store.lookup (rateKey rule identity) := by
  obtain ⟨hr, rfl⟩ := isOf_iff.1 h
  unfold arrive limitRate Arrival.attempt
  rw [hr]
  dsimp only [consumeRateLimit]
  cases hredis : a.redis with
  | answered =>
    dsimp only
    split <;> exact AList.lookup_insert _
  | lost ran =>
    cases ran
    · rfl
    · exact AList.lookup_insert _

/-- What is let through of an own request. -/
theorem verdict_of_own (t : Traffic) (h : a.isOf rule identity = true) :
    (limitRate failClosed t.store a).1.verdict = .next ↔
      if a.redis = .answered then
        (hit (rule.windowSeconds * 1000) a.time (t.store.lookup (rateKey rule identity))).count ≤ rule.limit
      else failClosed = false := by
  obtain ⟨hr, rfl⟩ := isOf_iff.1 h
  unfold limitRate
  rw [hr]
  dsimp only [consumeRateLimit]
  cases hredis : a.redis with
  | answered =>
    dsimp only
    split
    · rename_i hallowed
      simpa using hallowed
    · rename_i hallowed
      simpa using hallowed
  | lost ran => cases failClosed <;> simp

/-- **The client's counter counts the client's attempts**, whoever else comes. -/
theorem counter_eq (hrule : rule ∈ rateRules) (p : List Arrival) :
    (traffic failClosed p).store.lookup (rateKey rule identity) =
      (run (rule.windowSeconds * 1000) rule.limit (attempts rule identity p)).counter := by
  induction p using List.reverseRecOn with
  | nil => rfl
  | append_singleton p a ih =>
    rw [traffic_snoc, attempts_snoc]
    cases h : a.isOf rule identity with
    | false => rw [store_of_other _ hrule h, ih, if_neg Bool.false_ne_true, List.append_nil]
    | true =>
      rw [store_of_own _ h, ih, if_pos rfl, run_snoc]
      cases hcounted : a.attempt.counted with
      | false => rw [attempt_of_not_counted _ hcounted, if_neg Bool.false_ne_true]
      | true =>
        rw [attempt_of_counted _ hcounted, if_pos rfl]
        rfl

/-! ## How many get through -/

theorem length_filter_snoc {α : Type} (f : α → Bool) (l : List α) (x : α) :
    ((l ++ [x]).filter f).length = (l.filter f).length + if f x then 1 else 0 := by
  rw [List.filter_append, List.length_append]
  cases h : f x <;> simp [h]

theorem passedIn_arrive (t : Traffic) (a : Arrival) (start stop : ℕ) :
    (arrive failClosed t a).passedIn rule identity start stop = t.passedIn rule identity start stop +
      if a.isOf rule identity && (limitRate failClosed t.store a).1.verdict == .next && decide (start ≤ a.time ∧ a.time ≤ stop) then 1
      else 0 :=
  length_filter_snoc _ t.log (a, (limitRate failClosed t.store a).1)

theorem unheardIn_snoc (p : List Arrival) (a : Arrival) (start stop : ℕ) :
    unheardIn (p ++ [a]) rule identity start stop = unheardIn p rule identity start stop +
      if a.isOf rule identity && a.redis != .answered && decide (start ≤ a.time ∧ a.time ≤ stop) then 1 else 0 :=
  length_filter_snoc _ p a

/-- Of the client's requests those get through that the counter admits, and, where it is not insisted on, those that Redis does not
answer. -/
theorem passedIn_eq (hrule : rule ∈ rateRules) (p : List Arrival) (start stop : ℕ) :
    (traffic failClosed p).passedIn rule identity start stop =
      (run (rule.windowSeconds * 1000) rule.limit (attempts rule identity p)).admittedIn start stop +
        if failClosed then 0 else unheardIn p rule identity start stop := by
  induction p using List.reverseRecOn with
  | nil => cases failClosed <;> rfl
  | append_singleton p a ih =>
    rw [traffic_snoc, passedIn_arrive, ih, attempts_snoc, unheardIn_snoc]
    cases h : a.isOf rule identity with
    | false => simp
    | true =>
      have hverdict : (limitRate failClosed (traffic failClosed p).store a).1.verdict = .next ↔ _ := verdict_of_own (traffic failClosed p) h
      rw [counter_eq hrule] at hverdict
      rw [if_pos rfl, run_snoc]
      cases hredis : a.redis with
      | answered =>
        have hcounted : a.attempt.counted = true := by simp [Arrival.attempt, hredis]
        have hheard : a.attempt.heard = true := by simp [Arrival.attempt, hredis]
        rw [if_pos hredis] at hverdict
        rw [admittedIn_attempt _ hcounted, hheard]
        simp only [Arrival.attempt, hverdict, true_and, Bool.true_and, bne_self_eq_false, Bool.false_and, Bool.and_eq_true, beq_iff_eq,
          decide_eq_true_eq, Bool.false_eq_true, if_false, Nat.add_zero]
        omega
      | lost ran =>
        rw [hredis, if_neg nofun] at hverdict
        have hnot : (run (rule.windowSeconds * 1000) rule.limit (attempts rule identity p)).admittedIn start stop =
            (FixedWindow.attempt (rule.windowSeconds * 1000) rule.limit
              (run (rule.windowSeconds * 1000) rule.limit (attempts rule identity p)) a.attempt).admittedIn start stop := by
          cases ran with
          | false => rw [attempt_of_not_counted _ (by simp [Arrival.attempt, hredis])]
          | true =>
            rw [admittedIn_attempt _ (by simp [Arrival.attempt, hredis]), if_neg (by simp [Arrival.attempt, hredis]), Nat.add_zero]
        rw [← hnot]
        cases failClosed with
        | false => simp [hverdict, Nat.add_assoc]
        | true => simp [hverdict]

/-- **How often a client gets through in any span of time**: the limit for each window that can have opened in it, and what Redis has
not answered where that is let through. -/
theorem passed_le (hrule : rule ∈ rateRules) (failClosed : Bool) (identity : String) (start stop : ℕ)
    (sorted : arrivals.Pairwise fun a b => a.time ≤ b.time) :
    (traffic failClosed arrivals).passedIn rule identity start stop ≤
      rule.limit * ((stop - start + rule.windowSeconds * 1000) / (rule.windowSeconds * 1000 + 1) + 1) +
        if failClosed then 0 else unheardIn arrivals rule identity start stop := by
  have hsorted : (attempts rule identity arrivals).Pairwise fun a b => a.time ≤ b.time := by
    rw [attempts, List.pairwise_map]
    exact (sorted.filter _).imp id
  rw [passedIn_eq hrule]
  have hle : (run (rule.windowSeconds * 1000) rule.limit (attempts rule identity arrivals)).admittedIn start stop ≤ _ :=
    admitted_le rule.limit start stop hsorted
  omega

/-! ## Clients apart, and who waits -/

/-- The outcome is read off the counter of the client. -/
theorem outcome_congr {store store' : Table String Counter} (h : a.isOf rule identity = true)
    (hsame : store.lookup (rateKey rule identity) = store'.lookup (rateKey rule identity)) :
    (limitRate failClosed store a).1 = (limitRate failClosed store' a).1 := by
  obtain ⟨hr, rfl⟩ := isOf_iff.1 h
  unfold limitRate
  rw [hr]
  dsimp only [consumeRateLimit]
  rw [hsame]
  cases a.redis with
  | answered => dsimp only; split <;> rfl
  | lost ran => rfl

/-- The own requests alone lead to the same verdicts. -/
theorem traffic_own (hrule : rule ∈ rateRules) (failClosed : Bool) (identity : String) (p : List Arrival) :
    ((traffic failClosed p).log.filter fun e => e.1.isOf rule identity) =
      (traffic failClosed (p.filter (·.isOf rule identity))).log := by
  induction p using List.reverseRecOn with
  | nil => rfl
  | append_singleton p a ih =>
    have hlog : ∀ t : Traffic, (arrive failClosed t a).log = t.log ++ [(a, (limitRate failClosed t.store a).1)] := fun _ => rfl
    rw [traffic_snoc, hlog, List.filter_append, List.filter_append, ih]
    cases h : a.isOf rule identity with
    | false => simp [h]
    | true =>
      have hown : attempts rule identity (p.filter (·.isOf rule identity)) = attempts rule identity p := by
        unfold attempts
        rw [List.filter_filter]
        simp only [Bool.and_self]
      have hstore : (traffic failClosed p).store.lookup (rateKey rule identity) =
          (traffic failClosed (p.filter (·.isOf rule identity))).store.lookup (rateKey rule identity) := by
        rw [counter_eq hrule, counter_eq hrule, hown]
      have hsingle : [a].filter (·.isOf rule identity) = [a] := by simp [h]
      rw [hsingle, traffic_snoc, hlog, ← outcome_congr h hstore]
      simp [h]

theorem store_of_others (hrule : rule ∈ rateRules) (t : Traffic) {q : List Arrival} (h : ∀ z ∈ q, z.isOf rule identity = false) :
    (q.foldl (arrive failClosed) t).store.lookup (rateKey rule identity) = t.store.lookup (rateKey rule identity) := by
  induction q generalizing t with
  | nil => rfl
  | cons z q ih =>
    rw [List.foldl_cons, ih _ fun x hx => h x (List.mem_cons_of_mem _ hx), store_of_other t hrule (h z List.mem_cons_self)]

/-- The client has not tried for the length of the window, or has been told how long to wait and has waited half a second more. -/
def Waited (failClosed : Bool) (rule : RateRule) (identity : String) (arrivals : List Arrival) (now : ℕ) : Prop :=
  (∀ x ∈ arrivals, x.isOf rule identity = true → x.time + rule.windowSeconds * 1000 < now) ∨
    ∃ p x q message seconds, arrivals = p ++ x :: q ∧ (∀ z ∈ q, z.isOf rule identity = false) ∧ x.isOf rule identity = true ∧
      (limitRate failClosed (traffic failClosed p).store x).1.verdict = .refused 429 message (some seconds) ∧
      x.time + seconds * 1000 + 500 ≤ now

/-- Then its window has ended. -/
theorem Waited.ended {now : ℕ} (hrule : rule ∈ rateRules) (h : Waited failClosed rule identity arrivals now) :
    hit (rule.windowSeconds * 1000) now ((traffic failClosed arrivals).store.lookup (rateKey rule identity)) =
      ⟨1, now + rule.windowSeconds * 1000⟩ := by
  rcases h with h | ⟨p, x, q, message, seconds, rfl, hq, hx, hrefused, hwait⟩
  · rw [counter_eq hrule]
    refine first_of_quiet fun a ha _ => ?_
    obtain ⟨x, hx, rfl⟩ := List.mem_map.1 ha
    obtain ⟨hmem, hof⟩ := List.mem_filter.1 hx
    exact h x hmem hof
  · have hstore : (traffic failClosed (p ++ x :: q)).store.lookup (rateKey rule identity) =
        (arrive failClosed (traffic failClosed p) x).store.lookup (rateKey rule identity) := by
      unfold traffic
      rw [List.foldl_append, List.foldl_cons]
      exact store_of_others hrule _ hq
    rw [hstore, store_of_own _ hx]
    obtain ⟨hr, rfl⟩ := isOf_iff.1 hx
    unfold limitRate at hrefused
    rw [hr] at hrefused
    dsimp only [consumeRateLimit] at hrefused
    cases hredis : x.redis with
    | answered =>
      rw [hredis] at hrefused
      dsimp only at hrefused
      split at hrefused
      · cases hrefused
      · cases hrefused
        have hcounted : x.attempt.counted = true := by simp [Arrival.attempt, hredis]
        rw [if_pos hcounted]
        refine hit_of_ended fun c hc => ?_
        cases hc
        omega
    | lost ran =>
      rw [hredis] at hrefused
      cases failClosed <;> cases hrefused

/-- **What becomes of a client's requests depends on its own requests only, and who has waited gets through.** -/
theorem client_served (hrule : rule ∈ rateRules) (failClosed : Bool) (identity : String) (arrivals : List Arrival) :
    ((traffic failClosed arrivals).log.filter fun e => e.1.isOf rule identity) =
        (traffic failClosed (arrivals.filter (·.isOf rule identity))).log ∧
      ∀ y : Arrival, y.isOf rule identity = true → y.redis = .answered → Waited failClosed rule identity arrivals y.time →
        (limitRate failClosed (traffic failClosed arrivals).store y).1.verdict = .next := by
  refine ⟨traffic_own hrule failClosed identity arrivals, fun y hy hredis hwaited => ?_⟩
  rw [verdict_of_own _ hy, if_pos hredis, hwaited.ended hrule]
  exact limit_pos rule hrule

end

/-! ### A burst around the end of a window -/

def loginAt (time : ℕ) : Arrival := ⟨time, .post, "/auth/login".toList, none, some "203.0.113.7", .answered⟩

/-- One request opens the window, four come at its last moment, and six when it has ended. -/
def loginBurst : List Arrival := loginAt 0 :: (List.replicate 4 (loginAt 900000) ++ List.replicate 6 (loginAt 900001))

/-- `passed_le` of the burst: nine within a millisecond, of ten at most. -/
theorem loginBurst_passed : (traffic true loginBurst).passedIn ⟨"login", 5, 15 * 60⟩ "203.0.113.7" 900000 900001 = 9 ∧
    (traffic true loginBurst).passedIn ⟨"login", 5, 15 * 60⟩ "203.0.113.7" 900000 900001 ≤
      5 * ((900001 - 900000 + 15 * 60 * 1000) / (15 * 60 * 1000 + 1) + 1) + 0 :=
  ⟨by decide, passed_le (by decide) true "203.0.113.7" 900000 900001 (by decide)⟩

set_option maxRecDepth 4000 in
/-- `client_served` of the sixth request of a window, which is told to wait for as long as the window lasts. -/
theorem sixthLogin_served : (limitRate true (traffic true (List.replicate 6 (loginAt 0))).store (loginAt 900500)).1.verdict = .next := by
  have hlogin : (⟨"login", 5, 15 * 60⟩ : RateRule) ∈ rateRules := by decide
  refine (client_served hlogin true "203.0.113.7" (List.replicate 6 (loginAt 0))).2 (loginAt 900500) (by decide) rfl (.inr ?_)
  exact ⟨List.replicate 5 (loginAt 0), loginAt 0, [], _, 900, rfl, fun z hz => (by cases hz), by decide, rfl, le_refl _⟩

end Balii.Gateway
