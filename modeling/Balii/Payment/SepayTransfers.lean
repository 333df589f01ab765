import Balii.Lib.Trace
import Balii.Payment.Settlement
import Balii.Programs
/-!
# Payment.SepayTransfers — when a bank transfer settles a payment

SePay's webhook reads a body nobody has checked.  What it has seen by the time it settles a payment follows from its program
alone; that the amount it was told is a number at all does not, as `NaN < expected` is false.
-/
namespace Balii

open Rowdb Tx Sql System

variable {cfg : Config}

/-! ## What the webhook has seen -/

/-- The payment that a read of its reference came back with. -/
def foundBy (code : String) : Commit cfg → Option (Uuid × Payment)
  | ⟨_, .read (.paymentByRef providerRef), _, o⟩ => if providerRef = code then o.val else none
  | _ => none

/-- A delivery with the right key that names a pending payment and is not seen to fall short of it. -/
structure Accepted (cfg : Config) (payload : Json) (authorization : Option String) (found : String → Uuid × Payment → Prop)
    (payment : Uuid × Payment) : Prop where
  key : ∃ key, nonEmpty (cfg.sepayWebhookApiKey.map trim) = some key ∧ authorizationKey authorization = key
  listed : ignoredTransfer payload = false
  code : ∃ code, extractSepayPaymentCode payload = .ok (some code) ∧ found code payment
  pending : payment.2.status = .pending
  amount : ∃ transferAmount, sepayAmount payload = .ok transferAmount ∧ transferAmount.lt (expectedTransfer payment.2) = false

/-- A payment of this amount is there. -/
def HasAmount (k : Uuid) (amount : ℤ) (s : Db) : Prop := ∃ p, s.find Tab.payments k = some p ∧ p.amount = amount

/-- No commit changes what a payment is of. -/
def AmountsLast (_ : List (LockKey schema)) (a b : Db) : Prop := ∀ k amount, HasAmount k amount a → HasAmount k amount b

section
variable {c : Commit cfg} {Inv : Db → Prop} {G : List (LockKey schema) → Db → Db → Prop}

theorem amountsLast (hf : c.Faithful Inv G) : AmountsLast c.out.locks c.before c.after := by
  rintro k amount ⟨p, hp, rfl⟩
  obtain ⟨q, hq, hchange⟩ := payment_after hf hp
  exact ⟨q, hq, hchange.amount⟩

/-- A payment that a read found is there, with this amount, and has the reference. -/
theorem found_stays (hf : c.Faithful (fun _ => True) AmountsLast) {code : String} {payment : Uuid × Payment}
    (h : foundBy code c = some payment) :
    payment.2.providerRef = some code ∧ HasAmount payment.1 payment.2.amount c.after := by
  obtain ⟨call, op, s, o⟩ := c
  unfold foundBy at h
  split at h
  · rename_i heq
    cases heq
    split at h
    · rename_i hcode
      subst hcode
      obtain ⟨s₀, ⟨_, hothers⟩, hout⟩ := exec_select.1 hf
      have hfind := (congrArg Outcome.val hout).symm.trans h
      obtain ⟨hlookup, href⟩ := AList.find_some (k := payment.1) (r := payment.2) hfind
      have hread : HasAmount payment.1 payment.2.amount s₀ := ⟨payment.2, hlookup, rfl⟩
      refine ⟨beq_iff_eq.1 href, ?_⟩
      change HasAmount payment.1 payment.2.amount (Tx.applyAll (LockKey.Content (D := schema)) _ s)
      rw [congrArg Outcome.writes hout]
      exact inv_of_others (S := platform cfg) (fun _ _ _ _ hg => hg payment.1 payment.2.amount) hothers hread
    · cases h
  · cases h

end

/-! ## The program -/

/-- What the webhook's program says of the payment it settles. -/
def SettlesAccepted (cfg : Config) (s : Db) (i : ℕ) (call : Call) (τ : System.Trace (platform cfg)) (c : Commit cfg) : Prop :=
  ∀ payload authorization outboxEventId now, call = .handleSepayWebhook payload authorization outboxEventId now →
    ∀ input, c.op = .persistPaymentResult input → ∃ payment, input.paymentId = payment.1 ∧
      Accepted cfg payload authorization
        (fun code payment => ∃ d : Commit cfg, (i, .commit d) ∈ τ ∧ d.call = call ∧ foundBy code d = some payment) payment ∧
      HasAmount payment.1 payment.2.amount (τ.state s)

section
variable {Ok : Commit cfg → Prop} {s : Db} {i : ℕ} {payload : Json} {authorization : Option String} {outboxEventId : Uuid}
  {now : Time} {τ : System.Trace (platform cfg)}

theorem settlesAccepted_of {call : Call} {c : Commit cfg} (h : ∀ input, c.op ≠ .persistPaymentResult input) :
    SettlesAccepted cfg s i call τ c := fun _ _ _ _ _ input hop => absurd hop (h input)

theorem confirm_follows (hok : ∀ c, Ok c → c.Faithful (fun _ => True) AmountsLast) {payment : Uuid × Payment} {code : String}
    (hτ : Lawful (S := platform cfg) s Ok τ)
    (hkey : ∃ key, nonEmpty (cfg.sepayWebhookApiKey.map trim) = some key ∧ authorizationKey authorization = key)
    (hlisted : ignoredTransfer payload = false) (hcode : extractSepayPaymentCode payload = .ok (some code))
    (hfound : ∃ d : Commit cfg, (i, .commit d) ∈ τ ∧ d.call = .handleSepayWebhook payload authorization outboxEventId now ∧
      foundBy code d = some payment) (hthere : HasAmount payment.1 payment.2.amount (τ.state s)) :
    System.Follows (S := platform cfg) (Lawful s Ok) i (.handleSepayWebhook payload authorization outboxEventId now)
      (SettlesAccepted cfg s i (.handleSepayWebhook payload authorization outboxEventId now))
      (confirmSepayPayment cfg payload payment code outboxEventId now) (fun _ _ => True) τ := by
  unfold confirmSepayPayment
  split
  · exact fun _ _ => trivial
  · rename_i hpending
    refine follows_bind hτ (follows_ofExcept fun τ₁ hl₁ => ?_)
    cases hamount : sepayAmount payload with
    | error e => trivial
    | ok transferAmount =>
      dsimp only
      split
      · exact follows_bind hl₁.law (follows_trans (fun _ _ _ _ _ => ⟨settlesAccepted_of fun _ h => (nomatch h), fun _ _ _ _ => trivial⟩)
          fun _ _ _ => trivial)
      · rename_i hlt
        refine follows_bind hl₁.law (follows_ofExcept fun τ₂ hl₂ => ?_)
        cases sepayTransaction cfg payload code with
        | error e => trivial
        | ok providerTxnId =>
          refine follows_of_uses (A := fun op : Op => ∀ input, op = .persistPaymentResult input → input.paymentId = payment.1)
            (B := fun _ => True) ?_ ?_
          · refine Proc.uses_then (runs_persistPaymentResult ?_) fun _ => trivial
            rintro _ ⟨⟩
            rfl
          · intro τ₃ c hpre hA hlaw payload' authorization' outboxEventId' now' hcall input hop
            cases hcall
            have hpre' : τ <+: τ₃ := (hl₁.pre.trans hl₂.pre).trans hpre
            obtain ⟨d, hd, hdcall, hdfound⟩ := hfound
            refine ⟨payment, hA input hop, ⟨hkey, hlisted, ⟨code, hcode, d, hpre'.subset hd, hdcall, hdfound⟩,
              not_not.1 hpending, transferAmount, hamount, eq_false_of_ne_true hlt⟩, ?_⟩
            exact (hlaw.pre (List.prefix_append _ _)).keeps (fun c hc => amountsLast (hok c hc) _ _) hpre' hthere

/-- **The program of the webhook** settles only what it has accepted. -/
theorem sepay_follows (hok : ∀ c, Ok c → c.Faithful (fun _ => True) AmountsLast) (hτ : Lawful (S := platform cfg) s Ok τ) :
    System.Follows (S := platform cfg) (Lawful s Ok) i (.handleSepayWebhook payload authorization outboxEventId now)
      (SettlesAccepted cfg s i (.handleSepayWebhook payload authorization outboxEventId now))
      (handleSepayWebhook cfg payload authorization outboxEventId now) (fun _ _ => True) τ := by
  unfold handleSepayWebhook
  refine follows_bind hτ (follows_need (fun apiKey τ₁ hapi hl₁ => ?_) fun _ _ => trivial)
  refine follows_bind hl₁.law (follows_ensure (fun τ₂ hprovided hl₂ => ?_) fun _ _ => trivial)
  dsimp only
  split
  · exact fun _ _ => trivial
  · rename_i hlisted
    refine follows_bind hl₂.law (follows_ofExcept fun τ₃ hl₃ => ?_)
    cases hcode : extractSepayPaymentCode payload with
    | error e => trivial
    | ok paymentCode =>
      cases paymentCode with
      | none => exact fun _ _ => trivial
      | some code =>
        -- the read: only when it comes back with a payment is there more to do
        intro τ₄ hl₄
        refine ⟨fun s' o hlaw => ⟨settlesAccepted_of fun _ h => (nomatch h), ?_, fun _ _ => trivial⟩, fun _ _ _ _ _ => trivial,
          fun _ _ => trivial⟩
        obtain ⟨hbefore, hread⟩ := hlaw.commit
        obtain ⟨val, locks, writes⟩ := o
        cases val with
        | none => exact fun _ _ => trivial
        | some payment =>
          have hfoundBy : foundBy code (⟨.handleSepayWebhook payload authorization outboxEventId now, .read (.paymentByRef code), s',
              ⟨some payment, locks, writes⟩⟩ : Commit cfg) = some payment := if_pos rfl
          obtain ⟨_, hthere⟩ := found_stays (hok _ hread) hfoundBy
          refine confirm_follows hok hlaw ⟨apiKey, hapi, hprovided⟩ (eq_false_of_ne_true hlisted) hcode
            ⟨_, List.mem_append_right _ List.mem_cons_self, rfl, hfoundBy⟩ ?_
          rw [hlaw.state_commit]
          exact hthere

end

/-! ## Every run -/

section
variable (e : Execution (platform cfg) (fun _ => True) fun _ => True)

theorem amounts_kept : ∀ c : Commit cfg, .commit c ∈ e.events → c.Faithful (fun _ => True) AmountsLast := by
  have hk : Keeps (S := platform cfg) (fun _ => True) AmountsLast (fun _ => True) (fun _ => True) := fun _ _ _ hf _ =>
    ⟨trivial, amountsLast hf⟩
  exact fun c hc => (e.commits hk (fun _ _ => trivial) (fun _ _ => trivial) c hc).2.1

/-- A payment that the webhook of this commit found before, under the code. -/
def FoundBefore (c : Commit cfg) (code : String) (payment : Uuid × Payment) : Prop :=
  ∃ d : Commit cfg, .commit d ∈ e.events ∧ d.call = c.call ∧ foundBy code d = some payment ∧ payment.2.providerRef = some code

/-- What a webhook has seen when it makes a payment paid. -/
structure SeenBySepay (c : Commit cfg) (payload : Json) (authorization : Option String) (k : Uuid) (p : Payment) : Prop where
  key : ∃ key, nonEmpty (cfg.sepayWebhookApiKey.map trim) = some key ∧ authorizationKey authorization = key
  incoming : payload.get "transferType" = some (.str "in")
  pending : p.status = .pending ∧ ∃ code found, extractSepayPaymentCode payload = .ok (some code) ∧
    FoundBefore e c code (k, found) ∧ found.status = .pending
  amount : ∃ x : ℚ, sepayAmount payload = .ok (.num x) ∧ expectedTransfer p ≤ x

/-- Every commit of the webhook that settles a payment has accepted it. -/
theorem sepay_accepted {c : Commit cfg} (hc : .commit c ∈ e.events) {payload : Json} {authorization : Option String}
    {outboxEventId : Uuid} {now : Time} (hcall : c.call = .handleSepayWebhook payload authorization outboxEventId now)
    {input : PaymentResultInput} (hop : c.op = .persistPaymentResult input) :
    ∃ payment, input.paymentId = payment.1 ∧ Accepted cfg payload authorization (FoundBefore e c) payment ∧
      HasAmount payment.1 payment.2.amount c.before := by
  obtain ⟨τ, _, hevents, hlaw, hmeets⟩ : ∃ τ, Traced (quiet e.init) τ e.final ∧ τ.events = e.events ∧
      Lawful e.init (fun c : Commit cfg => c.Faithful (fun _ => True) AmountsLast) τ ∧
        Traced.Meets (fun i call => SettlesAccepted cfg e.init i call) (fun _ _ _ _ => True) τ := by
    refine e.follows (amounts_kept e) fun i call τ hτ _ => ?_
    by_cases hsepay : ∃ payload authorization outboxEventId now, call = .handleSepayWebhook payload authorization outboxEventId now
    · obtain ⟨payload, authorization, outboxEventId, now, rfl⟩ := hsepay
      exact sepay_follows (fun _ h => h) hτ
    · refine follows_of_uses (proc_runs cfg call) fun _ _ _ _ _ payload authorization outboxEventId now hcall => ?_
      exact absurd ⟨payload, authorization, outboxEventId, now, hcall⟩ hsepay
  rw [← hevents] at hc
  obtain ⟨⟨i, ev⟩, hmem, rfl⟩ := List.mem_map.1 hc
  obtain ⟨τ₁, τ₂, hτ⟩ := List.append_of_mem hmem
  obtain ⟨payment, hid, haccepted, hthere⟩ := hmeets.commits τ₁ i c τ₂ hτ payload authorization outboxEventId now hcall input hop
  obtain ⟨code, hcode, d, hd, hdcall, hfound⟩ := haccepted.code
  have hdmem : .commit d ∈ e.events := by
    rw [← hevents, hτ]
    exact List.mem_map_of_mem (f := fun e => e.2) (List.mem_append_left _ hd)
  refine ⟨payment, hid, { haccepted with code := ⟨code, hcode, d, hdmem, hdcall, hfound, ?_⟩ }, ?_⟩
  · exact (found_stays (amounts_kept e d hdmem) hfound).1
  · rw [(hlaw τ₁ i c τ₂ hτ).1]
    exact hthere

end

/-- **When a transfer that settles a payment has shown what it must**: exactly when its type is `in` and its amount a number. -/
theorem sepay_seen_iff (cfg : Config) (e : Execution (platform cfg) (fun _ => True) fun _ => True) :
    ∀ c : Commit cfg, .commit c ∈ e.events → ∀ payload authorization outboxEventId now,
      c.call = .handleSepayWebhook payload authorization outboxEventId now →
      ∀ k p q, c.before.find Tab.payments k = some p → c.after.find Tab.payments k = some q → p.status ≠ .paid → q.status = .paid →
        (SeenBySepay e c payload authorization k p ↔
          payload.get "transferType" = some (.str "in") ∧ ∃ x : ℚ, sepayAmount payload = .ok (.num x)) := by
  intro c hc payload authorization outboxEventId now hcall k p q hp hq hunpaid hpaid
  refine ⟨fun h => ⟨h.incoming, h.amount.imp fun _ hx => hx.1⟩, ?_⟩
  rintro ⟨hin, x, hx⟩
  obtain ⟨q', hq', hedit⟩ := payment_edited (e.faithful c hc) hp
  cases Option.some.inj (hq.symm.trans hq')
  cases hedit with
  | @settled input hop hk horder hpending =>
    obtain ⟨⟨k', found⟩, hid, haccepted, p', hp', hamount⟩ := sepay_accepted e hc hcall hop
    obtain rfl : k = k' := hk.symm.trans hid
    cases Option.some.inj (hp.symm.trans hp')
    obtain ⟨code, hcode, hfound⟩ := haccepted.code
    refine ⟨haccepted.key, hin, ⟨hpending, code, found, hcode, hfound, haccepted.pending⟩, x, hx, ?_⟩
    obtain ⟨transferAmount, htransfer, hlt⟩ := haccepted.amount
    cases Except.ok.inj (hx.symm.trans htransfer)
    have hexpected : expectedTransfer p = expectedTransfer found := by
      unfold expectedTransfer
      rw [hamount]
    rw [hexpected]
    exact not_lt.1 (of_decide_eq_false hlt)
  | cancelled _ _ => cases hpaid
  | expired _ _ => cases hpaid
  | refunded _ _ _ =>
    unfold Payment.refund at hpaid
    dsimp only at hpaid
    split at hpaid <;> cases hpaid
  | _ => exact absurd hpaid hunpaid

/-! ### Deliveries -/

/-- A transfer of this amount for the sample payment. -/
def transferOf (transferAmount : Json) : Json :=
  .obj [("code", .str "SIM_PAY10"), ("transferType", .str "in"), ("transferAmount", transferAmount)]

/-- The customer asks for a payment by bank transfer, and SePay's webhook is called. -/
def transferred (transferAmount : Json) : Execution (platform sampleConfig) (fun _ => True) fun _ => True :=
  .ofSchedule (shopWith sampleOrder)
    (paymentAsked 0 10 .bankTransfer 1 ++
      .arrive (Call.handleSepayWebhook (transferOf transferAmount) (some "Apikey key") 100 2) :: steps 3 3)
    trivial fun _ _ => trivial

/-- Whether the commit is of the webhook called with this amount, and makes the payment paid. -/
def paysBySepay (transferAmount : Json) (k : Uuid) (c : Commit cfg) : Bool :=
  match c.call with
  | .handleSepayWebhook payload authorization _ _ =>
    payload == transferOf transferAmount && authorization == some "Apikey key" &&
      ((c.before.find Tab.payments k).any fun p => p.status != .paid) && (c.after.find Tab.payments k).any fun p => p.status == .paid
  | _ => false

theorem pays_of {transferAmount : Json} {k : Uuid} {c : Commit cfg} (h : paysBySepay transferAmount k c = true) :
    ∃ outboxEventId now p q, c.call = .handleSepayWebhook (transferOf transferAmount) (some "Apikey key") outboxEventId now ∧
      c.before.find Tab.payments k = some p ∧ c.after.find Tab.payments k = some q ∧ p.status ≠ .paid ∧ q.status = .paid := by
  unfold paysBySepay at h
  split at h
  · rename_i payload authorization outboxEventId now hcall
    simp only [Bool.and_eq_true, beq_iff_eq] at h
    obtain ⟨⟨⟨rfl, rfl⟩, hbefore⟩, hafter⟩ := h
    obtain ⟨p, hp, hunpaid⟩ := (Option.any_eq_true _ _).1 hbefore
    obtain ⟨q, hq, hpaid⟩ := (Option.any_eq_true _ _).1 hafter
    exact ⟨outboxEventId, now, p, q, hcall, hp, hq, by simpa using hunpaid, beq_iff_eq.1 hpaid⟩
  · cases h

/-- The customer transfers what the order costs. -/
theorem transferred_seen : ∃ c p, .commit c ∈ (transferred (.str "100000")).events ∧
    SeenBySepay (transferred (.str "100000")) c (transferOf (.str "100000")) (some "Apikey key") 10 p := by
  obtain ⟨c, hc, hpays⟩ := exists_commit (S := platform sampleConfig)
    (show (transferred (.str "100000")).events.any (Event.commits (paysBySepay (.str "100000") 10)) = true by decide +kernel)
  obtain ⟨outboxEventId, now, p, q, hcall, hp, hq, hunpaid, hpaid⟩ := pays_of hpays
  refine ⟨c, p, hc, (sepay_seen_iff sampleConfig _ c hc _ _ outboxEventId now hcall 10 p q hp hq hunpaid hpaid).2 ⟨?_, 100000, ?_⟩⟩
  · decide +kernel
  · decide +kernel

/-- Every payment the webhook makes paid, it makes paid for a transfer that was seen to cover it. -/
def SepaySound (e : Execution (platform cfg) (fun _ => True) fun _ => True) : Prop :=
  ∀ c : Commit cfg, .commit c ∈ e.events → ∀ payload authorization outboxEventId now,
    c.call = .handleSepayWebhook payload authorization outboxEventId now →
    ∀ k p q, c.before.find Tab.payments k = some p → c.after.find Tab.payments k = some q → p.status ≠ .paid → q.status = .paid →
      SeenBySepay e c payload authorization k p

/-- An amount that is no number is not less than the order's. -/
theorem abc_pays : ¬ SepaySound (transferred (.str "abc")) := by
  intro h
  obtain ⟨c, hc, hpays⟩ := exists_commit (S := platform sampleConfig)
    (show (transferred (.str "abc")).events.any (Event.commits (paysBySepay (.str "abc") 10)) = true by decide +kernel)
  obtain ⟨outboxEventId, now, p, q, hcall, hp, hq, hunpaid, hpaid⟩ := pays_of hpays
  obtain ⟨x, hx, _⟩ := (h c hc _ _ outboxEventId now hcall 10 p q hp hq hunpaid hpaid).amount
  have hnan : sepayAmount (transferOf (.str "abc")) = .ok .nan := by decide
  cases hnan.symm.trans hx

end Balii
