import Balii.Payment.Settlement
/-!
# Payment.Audits — the audit row of a settled payment

Every result is to leave a row in `payment_webhooks`, found by the hash of its payload.  The hash does not know whose payload it is:
where one is stored already, whether of another payment or of an invalid callback, the payment is settled without a row of its own.
-/
namespace Balii

open Rowdb Tx Sql System

/-- The payment has its audit row. -/
def Audited (s : Db) (id : Uuid) : Prop :=
  ∃ hash w, s.find Tab.webhooks hash = some w ∧ w.paymentId = some id ∧ w.signatureValid = true ∧ w.processingStatus = "PROCESSED"

/-! ## Webhooks are only added -/

/-- The write changes the webhooks by an insertion, if at all. -/
def OnlyAdds (w : Write schema) : Prop := w.tab? = some Tab.webhooks → ∃ hash r, w = .insert Tab.webhooks hash r

theorem onlyAdds_of_into {α : Type} {ts : List Tab} {t : Trans α} (ht : Writes (Into ts) t) (h : Tab.webhooks ∉ ts) :
    Writes OnlyAdds t := by
  induction t with
  | done a => trivial
  | fail e => trivial
  | lock k next ih => exact fun r => ih r (ht r)
  | write w rest ih => exact ⟨fun hw => absurd (ht.1.table _ hw) h, ih ht.2⟩
  | peek next ih => exact fun s => ih s (ht s)

theorem onlyAdds_saveWebhook (hash : String) (w : Webhook) : Writes OnlyAdds (saveWebhook hash w) :=
  writes_bind (Sql.writes_insertIgnore fun _ => ⟨hash, w, rfl⟩) fun _ => writes_bind Sql.writes_select fun _ => writes_ensure _ _

theorem writes_settlePayment (i : PaymentResultInput) (order : Order) (payment : Payment) :
    Writes (Into [.payments, .outbox]) (settlePayment i order payment) := by
  refine writes_bind (writes_ensure _ _) fun _ => writes_bind (Sql.writes_update (into_update (by decide))) fun _ => ?_
  exact writes_bind (writes_into (writes_publishEvent _ _) (by decide)) fun _ => writes_pure _

theorem onlyAdds_persistPaymentResult (cfg : Config) (i : PaymentResultInput) : Writes OnlyAdds (persistPaymentResult cfg i) := by
  refine writes_bind Sql.writes_fetchJoin fun order => writes_bind Sql.writes_fetchJoin fun payment => ?_
  refine writes_bind (writes_ensure _ _) fun _ => writes_bind (onlyAdds_saveWebhook _ _) fun _ => ?_
  exact writes_if (onlyAdds_of_into (writes_settlePayment i order payment) (by decide)) (writes_pure _)

theorem onlyAdds_persistRefundResult (cfg : Config) (i : RefundResultInput) : Writes OnlyAdds (persistRefundResult cfg i) := by
  refine writes_bind (writes_fetchRefund _) fun found => writes_bind (onlyAdds_saveWebhook _ _) fun _ => ?_
  have hupdate : ∀ f, Writes OnlyAdds (updateRow .refunds i.refundId f) := fun f => Sql.writes_update fun hw => nomatch hw
  refine writes_if ?_ ?_
  · refine writes_bind (hupdate _) fun _ => ?_
    refine writes_bind (writes_uniqueOption fun _ => Sql.writes_unique) fun _ => writes_bind Sql.writes_select fun _ => ?_
    refine writes_bind (onlyAdds_of_into (writes_recordRefundedAmount _ _ _) (by decide)) fun _ => ?_
    exact writes_bind (onlyAdds_of_into (writes_publishEvent _ _) (by decide)) fun _ => writes_pure _
  · refine writes_bind (hupdate _) fun _ => ?_
    refine writes_bind (writes_uniqueOption fun _ => Sql.writes_unique) fun _ => ?_
    exact writes_bind (onlyAdds_of_into (writes_publishEvent _ _) (by decide)) fun _ => writes_pure _

theorem onlyAdds_tx (cfg : Config) (op : Op) : Writes OnlyAdds (op.tx cfg) := by
  cases op with
  | persistPaymentResult i => exact onlyAdds_persistPaymentResult cfg i
  | saveInvalidWebhook raw => exact onlyAdds_saveWebhook _ _
  | persistRefundResult i => exact onlyAdds_persistRefundResult cfg i
  | _ => exact onlyAdds_of_into (writes_tx cfg _) (by simp [Op.tables, cancellationTables])

section Commits
variable {cfg : Config} {c : Commit cfg} {Inv : Db → Prop} {G : List (LockKey schema) → Db → Db → Prop} {id : Uuid}

/-- **A webhook stays as it came.** -/
theorem webhook_stays (hf : c.Faithful Inv G) {hash : String} {w : Webhook} (h : c.before.find Tab.webhooks hash = some w) :
    c.after.find Tab.webhooks hash = some w := by
  have hadds : ∀ v ∈ c.out.writes, OnlyAdds v := Exec.writes _ hf (onlyAdds_tx cfg c.op) fun _ h => nomatch h
  have hwritten : ∀ (ws : List (Write schema)) (s : Db), (∀ v ∈ ws, OnlyAdds v) → s.find Tab.webhooks hash = some w →
      (written ws s).find Tab.webhooks hash = some w := by
    intro ws
    induction ws with
    | nil => exact fun _ _ h => h
    | cons v ws ih =>
      intro s hv hs
      rw [written_cons]
      refine ih _ (fun v' hv' => hv v' (List.mem_cons_of_mem _ hv')) ?_
      by_cases ht : v.tab? = some Tab.webhooks
      · obtain ⟨hash', r, rfl⟩ := hv v List.mem_cons_self ht
        rw [find_insert, hs]
        split <;> rfl
      · rw [find_apply _ _ ht, hs]
  exact hwritten c.out.writes c.before hadds h

theorem audited_after (hf : c.Faithful Inv G) (h : Audited c.before id) : Audited c.after id := by
  obtain ⟨hash, w, hw, hrest⟩ := h
  exact ⟨hash, w, webhook_stays hf hw, hrest⟩

/-- What a result leaves in the webhooks. -/
theorem exec_persistPaymentResult_webhooks {R : List (LockKey schema) → Db → Db → Prop} {s : Db} {i : PaymentResultInput}
    {o : Outcome (LockKey schema) (Write schema) PersistedPayment} (h : Exec R (persistPaymentResult cfg i) s [] [] o) (hash : String) :
    (written o.writes s).find Tab.webhooks hash =
      if hash = cfg.hashPayload i.rawPayload then some ((s.find Tab.webhooks hash).getD i.webhook) else s.find Tab.webhooks hash := by
  unfold persistPaymentResult at h
  rw [exec_bind] at h
  obtain ⟨_, h1, h⟩ := h
  obtain ⟨order, _, rfl⟩ := exec_fetchJoin h1
  rw [exec_bind] at h
  obtain ⟨_, h2, h⟩ := h
  obtain ⟨payment, _, rfl⟩ := exec_fetchJoin h2
  simp only [exec_bind, exec_ensure] at h
  obtain ⟨_, ⟨_, rfl⟩, m, hm, h⟩ := h
  obtain ⟨vs, hvs, hinto⟩ := Exec.extends (P := Into [.payments, .outbox]) _ h
  have hvs' : ∀ v ∈ vs, v.tab? ≠ some Tab.webhooks := fun v hv ht =>
    absurd ((hinto (writes_if (writes_settlePayment i order payment) (writes_pure _)) v hv).table _ ht) (by decide)
  rw [hvs, written_append, find_written _ _ hvs']
  rcases exec_saveWebhook hm with ⟨_, hw⟩ | ⟨⟨x, hx⟩, hw⟩
  · rw [hw, List.nil_append, written_cons, written_nil, find_insert]
  · rw [hw, written_nil]
    split
    · rename_i heq
      subst heq
      rw [written_nil] at hx
      rw [hx]
      rfl
    · rfl

/-! ## The audit of a settled payment -/

/-- The commit sets the status of the payment. -/
def Settles (c : Commit cfg) (id : Uuid) : Prop :=
  ∃ i p, c.op = .persistPaymentResult i ∧ i.paymentId = id ∧ c.before.find Tab.payments id = some p ∧ p.status = .pending

/-- **A result that settles its payment brings a payload nobody has stored**, or finds the audit row of an earlier one. -/
def FreshPayload (c : Commit cfg) : Prop :=
  ∀ i p, c.op = .persistPaymentResult i → c.before.find Tab.payments i.paymentId = some p → p.status = .pending →
    c.before.find Tab.webhooks (cfg.hashPayload i.rawPayload) = none ∨ Audited c.before i.paymentId

theorem audited_iff_fresh (hf : c.Faithful Inv G) : (∀ id, Settles c id → Audited c.after id) ↔ FreshPayload c := by
  obtain ⟨call, op, s, out⟩ := c
  constructor
  · intro h i p hop hp hpend
    dsimp only at hop
    subst hop
    obtain ⟨hash, w, hw, hid, hrest⟩ := h i.paymentId ⟨i, p, rfl, rfl, hp, hpend⟩
    have hfind := exec_persistPaymentResult_webhooks hf hash
    change (written out.writes s).find Tab.webhooks hash = some w at hw
    rw [hw] at hfind
    by_cases hhash : hash = cfg.hashPayload i.rawPayload
    · rw [if_pos hhash] at hfind
      cases hs : s.find Tab.webhooks hash with
      | none => exact .inl (hhash ▸ hs)
      | some x =>
        rw [hs] at hfind
        obtain rfl := Option.some.inj hfind
        exact .inr ⟨hash, w, hs, hid, hrest⟩
    · rw [if_neg hhash] at hfind
      exact .inr ⟨hash, w, hfind.symm, hid, hrest⟩
  · rintro h id ⟨i, p, hop, rfl, hp, hpend⟩
    dsimp only at hop
    subst hop
    rcases h i p rfl hp hpend with hnone | haudited
    · have hfind := exec_persistPaymentResult_webhooks hf (cfg.hashPayload i.rawPayload)
      have hfree : s.find Tab.webhooks (cfg.hashPayload i.rawPayload) = none := hnone
      rw [if_pos rfl, hfree] at hfind
      exact ⟨_, i.webhook, hfind, rfl, rfl, rfl⟩
    · exact audited_after hf haudited

end Commits

/-- From the commit that settles it on, a payment has its audit row. -/
def SettledAudited {cfg : Config} (e : Execution (platform cfg) (fun _ => True) fun _ => True) : Prop :=
  ∀ pre post (c : Commit cfg) id, e.events = pre ++ .commit c :: post → Settles c id →
    ∀ s ∈ c.after :: post.filterMap Event.after?, Audited s id

/-- **Every settled payment has its audit row exactly when each commit that settles one brings a fresh payload.** -/
theorem settled_audited_iff (cfg : Config) (e : Execution (platform cfg) (fun _ => True) fun _ => True) :
    SettledAudited e ↔ ∀ c : Commit cfg, .commit c ∈ e.events → FreshPayload c := by
  have hfaithful : ∀ c : Commit cfg, .commit c ∈ e.events → c.Faithful (fun _ => True) fun _ _ _ => True := fun c hc => e.faithful c hc
  constructor
  · intro h c hc
    obtain ⟨pre, post, hsplit⟩ := List.append_of_mem hc
    exact (audited_iff_fresh (hfaithful c hc)).1 fun id hsettles => h pre post c id hsplit hsettles _ List.mem_cons_self
  · intro h pre post c id hsplit hsettles
    have hc : .commit c ∈ e.events := by rw [hsplit]; exact List.mem_append_right _ List.mem_cons_self
    have hnow := (audited_iff_fresh (hfaithful c hc)).2 (h c hc) id hsettles
    have hlater : e.history.Pairwise fun s s' => Audited s id → Audited s' id :=
      (e.pairwise_history fun _ _ _ h h' ha => h' (h ha)).2 fun c hc ha => audited_after (hfaithful c hc) ha
    unfold Execution.history at hlater
    rw [hsplit, List.filterMap_append, List.filterMap_cons] at hlater
    have hpost := (List.pairwise_append.1 (List.pairwise_cons.1 hlater).2).2.1
    intro s hs
    rcases List.mem_cons.1 hs with rfl | hs
    · exact hnow
    · exact (List.pairwise_cons.1 hpost).1 s hs hnow

/-! ## Two payments with one payload -/

/-- The shop with two orders of the customer. -/
def shopWithTwo : Db where
  rows t :=
    match t with
    | .orders => ((∅ : Table Uuid Order).insert 1 sampleOrder).insert 2
        { sampleOrder with orderCode := "BL2", checkoutIdempotencyKey := 2, items := [{ sampleItem with id := 2 }] }
    | .variants => (∅ : Table Uuid Variant).insert 1 { stockQuantity := 5, reservedQuantity := 2, isActive := true }
    | _ => ∅
  log := []

/-- `createPayment` for the order as session `i`, with its two calls to the order service. -/
def vnpayAsked (i : ℕ) (paymentId orderId : Uuid) (now : Time) : List (Cmd (platform sampleConfig)) :=
  .arrive (.createPayment {
    paymentId, paymentCode := "PAY" ++ toString paymentId, userId := 1, orderId, method := .vnpay, returnUrl := none
    clientIp := none, createDate := "20260101000000", now }) ::
      (steps i 1 ++ steps (i + 1) 2 ++ steps i 4 ++ steps (i + 2) 3 ++ steps i 3)

/-- The reconciliation learns of a payment that it failed, with no transaction number. -/
def reconciledFailed (i : ℕ) (paymentId orderId outboxEventId : Uuid) (now : Time) : List (Cmd (platform sampleConfig)) :=
  .arrive (.persistReconciledFailed paymentId orderId "FAILED" none outboxEventId now) :: (steps i 2 ++ steps (i + 1) 3 ++ steps i 2)

/-- Payments of two orders fail in the same way. -/
def failedAlike : Execution (platform sampleConfig) (fun _ => True) fun _ => True :=
  .ofSchedule shopWithTwo
    (List.flatten [vnpayAsked 0 10 1 1, vnpayAsked 3 11 2 2, reconciledFailed 6 10 1 100 3, reconciledFailed 8 11 2 101 4])
    trivial fun _ _ => trivial

/-- Whether the commit settles the payment and nothing in the webhooks is the payment's own. -/
def settlesUnaudited (id : Uuid) (c : Commit cfg) : Bool :=
  match c.op with
  | .persistPaymentResult i =>
    i.paymentId == id && (c.before.find Tab.payments id).any (fun p => p.status == .pending) &&
      (c.after.rows Tab.webhooks).entries.all fun e => e.2.paymentId != some id
  | _ => false

/-- The second payment of the two is settled without an audit row. -/
theorem failedAlike_unaudited : ¬ ∀ cfg, ∀ e : Execution (platform cfg) (fun _ => True) fun _ => True, SettledAudited e := by
  intro hall
  obtain ⟨c, hc, hp⟩ := exists_commit (show failedAlike.events.any (Event.commits (settlesUnaudited 11)) = true by decide +kernel)
  obtain ⟨pre, post, hsplit⟩ := List.append_of_mem hc
  have haudited := fun id hsettles => hall sampleConfig failedAlike pre post c id hsplit hsettles c.after List.mem_cons_self
  obtain ⟨call, op, s, out⟩ := c
  cases op with
  | persistPaymentResult i =>
    simp only [settlesUnaudited, Bool.and_eq_true, beq_iff_eq, Option.any_eq_true, List.all_eq_true, bne_iff_ne] at hp
    obtain ⟨⟨hid, p, hpay, hpend⟩, hnone⟩ := hp
    obtain ⟨hash, w, hw, hwid, _⟩ := haudited 11 ⟨i, p, rfl, hid, hpay, hpend⟩
    exact hnone ⟨hash, w⟩ (AList.mem_lookup_iff.1 hw) hwid
  | _ => cases hp

end Balii
