import Balii.Order.ReturnQuantities
/-!
# Order.ReturnRefunds — what is paid back for the goods of an order

Each receipt grants its request the rounded share of the order's goods, up to what is left of their total.  What is left is
computed from the requests that are finished; at a receipt, under the order's lock, those are all that were granted anything,
so what all the requests of an order were granted is always the smaller of their shares' sum and the total.
-/
namespace Balii

open Rowdb Tx Sql System

/-! ## What a request is granted -/

/-- The price of the goods a request brought, less what was sent back. -/
def ReturnRequest.acceptedGross (r : ReturnRequest) : ℤ :=
  ((r.items.filter fun i => i.disposition != some .rejected).map fun i => i.grossAmount).sum

/-- The share of the order's goods that a request stands for, once it is received. -/
def ReturnRequest.share (order : Order) (r : ReturnRequest) : ℤ :=
  if r.status.received then calculateReturnRefund r.acceptedGross order.subtotal order.discountAmount else 0

/-- What the requests of an order were granted. -/
def approvedRefunds (orderId : Uuid) (s : Db) : ℤ :=
  (s.rows Tab.returnRequests).total fun _ r => if r.orderId = orderId then r.approvedRefundAmount.getD 0 else 0

/-- What the shares of an order's requests add up to. -/
def shares (orderId : Uuid) (order : Order) (s : Db) : ℤ :=
  (s.rows Tab.returnRequests).total fun _ r => if r.orderId = orderId then r.share order else 0

/-- **What a request says about its refund**: no amount before it is received and one from then on; a manual payment of that
amount, once it is completed. -/
structure ReturnRequest.Granted (r : ReturnRequest) : Prop where
  waiting : r.status.received = false → r.approvedRefundAmount = none
  amount : r.status.received = true → ∃ a, r.approvedRefundAmount = some a ∧ 0 ≤ a
  completed : r.status = .completed →
    r.refundStatus = some .completed ∨ r.refundStatus = some .manualCompleted ∨ r.approvedRefundAmount = some 0
  manual : ∀ m ∈ r.manualRefundAmount, r.status = .completed ∧ r.approvedRefundAmount = some m
  confirmed : r.refundStatus = some .manualCompleted → r.status = .completed ∧ r.manualRefundAmount = r.approvedRefundAmount

section Row
variable {cfg : Config} {op : Op} {k : Uuid} {r r' : ReturnRequest} {order : Order}

theorem received_of_awaits (h : r.awaitsRefund = true) : r.status.received = true := (active_of_awaits h).2

theorem ReturnRequest.Granted.not_manual (h : r.Granted) (hst : r.status ≠ .completed) :
    r.manualRefundAmount = none ∧ r.refundStatus ≠ some .manualCompleted := by
  constructor
  · rw [Option.eq_none_iff_forall_ne_some]
    exact fun m hm => hst (h.manual m hm).1
  · exact fun hc => hst (h.confirmed hc).1

theorem ReturnRequest.Granted.nonneg (h : r.Granted) : 0 ≤ r.approvedRefundAmount.getD 0 := by
  cases hr : r.status.received with
  | false => rw [h.waiting hr]; exact le_rfl
  | true =>
    obtain ⟨a, ha, hpos⟩ := h.amount hr
    rw [ha]
    exact hpos

theorem Receipt.Closes.granted {cfg : Config} {rc : Receipt} {change : ReturnRequest → ReturnRequest} (hc : rc.Closes cfg change)
    (h : r.manualRefundAmount = none) : (change r).Granted := by
  cases hc with
  | notEligible restocked =>
    refine ⟨fun h => (nomatch h), fun _ => ⟨0, rfl, le_rfl⟩, fun _ => .inr (.inr rfl), fun m hm => ?_, fun h => (nomatch h)⟩
    rw [show (ReturnRequest.notEligible rc restocked r).manualRefundAmount = none from h] at hm
    cases hm
  | @received restocked provider amount hpos =>
    refine ⟨fun h => ?_, fun _ => ⟨amount, rfl, hpos.le⟩, fun h => ?_, fun m hm => ?_, fun h => ?_⟩
    · cases provider <;> cases h
    · cases provider <;> cases h
    · rw [show (ReturnRequest.received rc restocked provider amount r).manualRefundAmount = none from h] at hm
      cases hm
    · cases provider <;> cases h

/-- **A request keeps to it** with every change, when what the dispatcher records is recorded of a received one. -/
theorem ReturnChange.granted (h : ReturnChange cfg op k r r') (hr : r.Granted)
    (hdispatch : op.dispatched? = some k → r.status.received = true) : r'.Granted := by
  have hopen : ∀ (status : ReturnStatus) (refund : Option ReturnRefundStatus), r.status ≠ .completed → r.status.received = true →
      status.received = true → status ≠ .completed → refund ≠ some .manualCompleted →
      ({ r with status := status, refundStatus := refund } : ReturnRequest).Granted := by
    intro status refund hst hreceived hreceived' hst' hrefund
    obtain ⟨hnone, _⟩ := hr.not_manual hst
    refine ⟨fun h => ?_, fun _ => hr.amount hreceived, fun h => absurd h hst', fun m hm => ?_, fun h => absurd h hrefund⟩
    · rw [hreceived'] at h; cases h
    · rw [show ({ r with status := status, refundStatus := refund } : ReturnRequest).manualRefundAmount = none from hnone] at hm
      cases hm
  have hdone : ∀ {done : Option Time}, r.status ≠ .completed → r.status.received = true →
      ({ r with status := .completed, refundStatus := some .completed, completedAt := done } : ReturnRequest).Granted := by
    intro done hst hreceived
    obtain ⟨hnone, _⟩ := hr.not_manual hst
    refine ⟨fun h => (nomatch h), fun _ => hr.amount hreceived, fun _ => .inl rfl, fun m hm => ?_, fun h => (nomatch h)⟩
    rw [show ({ r with status := .completed, refundStatus := some .completed, completedAt := done } :
      ReturnRequest).manualRefundAmount = none from hnone] at hm
    cases hm
  cases h with
  | kept => exact hr
  | closed _ _ ha => exact hdone (not_completed_of_awaits ha) (received_of_awaits ha)
  | completed _ ha => exact hdone (not_completed_of_awaits ha) (received_of_awaits ha)
  | failed _ ha => exact hopen _ _ (not_completed_of_awaits ha) (received_of_awaits ha) rfl (by decide) (by decide)
  | toManual _ _ hst =>
    have hfailed := hopen .manualRefundPending (some .awaitingManualConfirmation) (by rw [hst]; decide)
      (by rw [hst]; rfl) rfl (by decide) (by decide)
    exact ⟨hfailed.waiting, hfailed.amount, hfailed.completed, hfailed.manual, hfailed.confirmed⟩
  | @dispatched _ reused _ hop hst =>
    have hsent := hopen .refundPending (some (if reused then .processingReused else .processing)) hst
      (hdispatch (by rw [hop]; rfl)) rfl (by decide) (by cases reused <;> decide)
    exact ⟨hsent.waiting, hsent.amount, hsent.completed, hsent.manual, hsent.confirmed⟩
  | dispatchFailed hop hst => exact hopen _ _ hst (hdispatch (by rw [hop]; rfl)) rfl (by decide) (by decide)
  | @reviewed _ decision _ _ hst =>
    obtain ⟨hnone, hrefund⟩ := hr.not_manual (by rw [hst]; decide)
    have hamount := hr.waiting (by rw [hst]; rfl)
    refine ⟨fun _ => hamount, fun h => ?_, fun h => ?_, fun m hm => ?_, fun h => absurd h hrefund⟩
    · cases decision <;> cases h
    · cases decision <;> cases h
    · change r.manualRefundAmount = some m at hm
      rw [hnone] at hm
      cases hm
  | received _ _ hst _ hc => exact hc.granted (hr.not_manual (by rw [hst]; decide)).1
  | @confirmed m _ _ hst ha =>
    obtain ⟨a, hamount, hpos⟩ := hr.amount (by rw [hst]; rfl)
    have hpaid : some (roundMoney m.amount) = r.approvedRefundAmount := by
      rw [ha, hamount]
      rfl
    refine ⟨fun h => (nomatch h), fun _ => ⟨a, hamount, hpos⟩, fun _ => .inr (.inl rfl), fun x hx => ⟨rfl, ?_⟩, fun _ => ⟨rfl, hpaid⟩⟩
    exact hpaid.symm.trans hx

/-- The change is the receipt of the request. -/
def Op.Receives (op : Op) (k : Uuid) (r : ReturnRequest) : Prop :=
  ∃ rc, op = .receiveReturnRequest rc ∧ rc.returnRequestId = k ∧ r.status = .approved

/-- **Only a receipt grants anything**: any other change leaves what a request was granted, and what it stands for. -/
theorem ReturnChange.steady (h : ReturnChange cfg op k r r') (hn : ¬ op.Receives k r)
    (hdispatch : op.dispatched? = some k → r.status.received = true) :
    r'.approvedRefundAmount = r.approvedRefundAmount ∧ ∀ order, r'.share order = r.share order := by
  have hshare : r'.items = r.items → r'.status.received = r.status.received → ∀ order, r'.share order = r.share order := by
    intro hitems hstatus order
    unfold ReturnRequest.share ReturnRequest.acceptedGross
    rw [hitems, hstatus]
  cases h with
  | kept => exact ⟨rfl, fun _ => rfl⟩
  | closed _ _ ha => exact ⟨rfl, hshare rfl (received_of_awaits ha).symm⟩
  | completed _ ha => exact ⟨rfl, hshare rfl (received_of_awaits ha).symm⟩
  | failed _ ha => exact ⟨rfl, hshare rfl (received_of_awaits ha).symm⟩
  | toManual _ _ hst => exact ⟨rfl, hshare rfl (by rw [hst]; rfl)⟩
  | dispatched hop _ => exact ⟨rfl, hshare rfl (hdispatch (by rw [hop]; rfl)).symm⟩
  | dispatchFailed hop _ => exact ⟨rfl, hshare rfl (hdispatch (by rw [hop]; rfl)).symm⟩
  | confirmed _ _ hst _ => exact ⟨rfl, hshare rfl (by rw [hst]; rfl)⟩
  | received hop hk hst => exact absurd ⟨_, hop, hk, hst⟩ hn
  | @reviewed _ decision _ _ hst =>
    refine ⟨rfl, hshare rfl ?_⟩
    rw [hst]
    cases decision <;> rfl

theorem calculateReturnRefund_nonneg (gross subtotal discount : ℤ) : 0 ≤ calculateReturnRefund gross subtotal discount := by
  unfold calculateReturnRefund
  split
  · exact le_rfl
  · unfold roundMoney
    rw [Int.floor_nonneg]
    have hmax : (0 : ℚ) ≤ max ((gross : ℚ) - gross * discountRatio subtotal discount) 0 := le_max_right _ _
    linarith

theorem share_nonneg (order : Order) (r : ReturnRequest) : 0 ≤ r.share order := by
  unfold ReturnRequest.share
  split
  · exact calculateReturnRefund_nonneg _ _ _
  · exact le_rfl

theorem classify_disposition {rc : Receipt} {refunds : List (Uuid × ℤ)} {i : ReturnItem} (h : (rc.disposition i.id).isSome = true) :
    (rc.classify refunds i).disposition = rc.disposition i.id ∧ (rc.classify refunds i).grossAmount = i.grossAmount := by
  unfold Receipt.classify
  cases hd : rc.disposition i.id with
  | none => rw [hd] at h; cases h
  | some d => cases d <;> exact ⟨rfl, rfl⟩

/-- What a receipt accepts is what its request stands for afterwards. -/
theorem acceptedGross_classified {rc : Receipt} {refunds : List (Uuid × ℤ)} {items : List ReturnItem}
    (h : rc.classifies items = true) (hr : r.items = items.map (rc.classify refunds)) :
    r.acceptedGross = ((rc.accepted items).map fun i => i.grossAmount).sum := by
  unfold ReturnRequest.acceptedGross Receipt.accepted
  rw [hr, List.filter_map, List.map_map]
  have hfilter : items.filter ((fun i => i.disposition != some .rejected) ∘ rc.classify refunds) =
      items.filter fun i => rc.disposition i.id != some .rejected := by
    refine List.filter_congr fun i hi => ?_
    rw [Function.comp_apply, (classify_disposition (isSome_disposition h hi)).1]
  rw [hfilter]
  congr 1
  refine List.map_congr_left fun i hi => ?_
  exact (classify_disposition (isSome_disposition h (List.mem_of_mem_filter hi))).2

end Row

/-! ## One receipt -/

/-- **What a receipt grants**, under the locks of the request and of its order: the share of what it accepts, up to what the
finished requests left when it looked. -/
theorem exec_receiveReturn_amount {cfg : Config} {R : List (LockKey schema) → Db → Db → Prop} {s : Db} {rc : Receipt}
    {request : ReturnRequest} {order : Order} {o : Outcome (LockKey schema) (Write schema) (Option ReturnRefundDispatch)}
    (h : Exec R (receiveReturnRequestTransaction cfg rc) s [] [] o) (hr : s.find Tab.returnRequests rc.returnRequestId = some request)
    (ho : s.find Tab.orders request.orderId = some order) (hst : request.status = .approved) :
    LockKey.row (D := schema) Tab.orders request.orderId ∈ o.locks ∧ rc.classifies request.items = true ∧
      (∀ k, k ≠ rc.returnRequestId → (written o.writes s).find Tab.returnRequests k = s.find Tab.returnRequests k) ∧
      ∃ K s₀, LockKey.row (D := schema) Tab.orders request.orderId ∈ K ∧
        LockKey.row (D := schema) Tab.returnRequests rc.returnRequestId ∈ K ∧ R K s₀ s ∧
        ∃ refunds r', (written o.writes s).find Tab.returnRequests rc.returnRequestId = some r' ∧
          r'.orderId = request.orderId ∧ r'.status.received = true ∧ r'.items = request.items.map (rc.classify refunds) ∧
          r'.approvedRefundAmount = some (max (rc.approvedRefundAmount order request.items
            (approvedTotal request.orderId (some rc.returnRequestId) s₀)) 0) := by
  unfold receiveReturnRequestTransaction at h
  simp only [exec_bind, exec_select] at h
  obtain ⟨_, ⟨_, _, rfl⟩, _, h1, _, h2, h⟩ := h
  obtain ⟨request', hr', rfl⟩ := exec_fetch h1
  cases Option.some.inj (hr.symm.trans hr')
  obtain ⟨order', ho', rfl⟩ := exec_fetch h2
  cases Option.some.inj (ho.symm.trans ho')
  simp only [hst] at h
  have hlock := (Exec.locks _ h fun _ h => by cases h).1 _ List.mem_cons_self
  simp only [receiveApproved, exec_bind, exec_ensure, exec_select] at h
  obtain ⟨_, ⟨_, rfl⟩, _, ⟨hclassifies, rfl⟩, _, ⟨s₀, hs₀, rfl⟩, m, hm, h⟩ := h
  obtain ⟨refunds, hitems, hother⟩ : ∃ refunds, Classified s (written m.writes s) rc refunds request request.items :=
    ⟨_, (exec_receiveItems hr hm).1⟩
  have hrow : ∀ {change : ReturnRequest → ReturnRequest}, o.writes = m.writes ++ [.update Tab.returnRequests rc.returnRequestId change] →
      (∀ k, k ≠ rc.returnRequestId → (written o.writes s).find Tab.returnRequests k = s.find Tab.returnRequests k) ∧
        (written o.writes s).find Tab.returnRequests rc.returnRequestId =
          some (change { request with items := request.items.map (rc.classify refunds) }) := by
    intro change hw
    refine ⟨fun k hk => ?_, ?_⟩
    · rw [hw, written_append, written_cons, written_nil, find_update, if_neg hk]
      exact hother k hk
    · rw [hw, written_append, written_cons, written_nil, find_update, if_pos rfl, hitems, Option.map_some]
      congr 3
      exact List.map_congr_left fun i hi => if_pos ⟨i, hi, rfl⟩
  split at h
  · rename_i hamount
    simp only [exec_bind, exec_update, exec_pure] at h
    obtain ⟨_, rfl, rfl⟩ := h
    obtain ⟨hrest, hfind⟩ := hrow rfl
    refine ⟨hlock, hclassifies, hrest, _, s₀, List.mem_cons_self, List.mem_cons_of_mem _ List.mem_cons_self, hs₀, _, _, hfind, rfl,
      rfl, rfl, ?_⟩
    exact congrArg some (max_eq_right hamount).symm
  · rename_i hamount
    simp only [exec_bind, exec_writesStatus, exec_update] at h
    obtain ⟨_, ⟨_, rfl⟩, _, rfl, h⟩ := h
    obtain ⟨provider, hw⟩ : ∃ provider, o.writes = m.writes ++ [.update Tab.returnRequests rc.returnRequestId
        (ReturnRequest.received rc (rc.restocks request.items) provider
          (rc.approvedRefundAmount order request.items (approvedTotal request.orderId (some rc.returnRequestId) s₀)))] := by
      split at h
      · cases h; exact ⟨_, rfl⟩
      · cases h; exact ⟨_, rfl⟩
    obtain ⟨hrest, hfind⟩ := hrow hw
    refine ⟨hlock, hclassifies, hrest, _, s₀, List.mem_cons_self, List.mem_cons_of_mem _ List.mem_cons_self, hs₀, _, _, hfind, rfl,
      ?_, rfl, ?_⟩
    · cases provider <;> rfl
    · exact congrArg some (max_eq_left (not_le.1 hamount).le).symm

/-! ## The invariant -/

/-- **What was granted for an order** is the smaller of its shares' sum and the total of its goods. -/
structure RefundsCapped (s : Db) : Prop where
  within : ReturnsWithin s
  granted : ∀ k r, s.find Tab.returnRequests k = some r → r.Granted
  capped : ∀ id order, s.find Tab.orders id = some order →
    approvedRefunds id s = min (shares id order s) (merchandiseTotal order)

/-- What others promise: the requests go on, and who grants something for an order holds its row. -/
def RefundsUnderLock (L : List (LockKey schema)) (a b : Db) : Prop :=
  ReturnsUnderLock L a b ∧
    ∀ id, LockKey.row (D := schema) Tab.orders id ∈ L ∨ approvedRefunds id b = approvedRefunds id a

/-- The requests stay within their orders, and the dispatcher comes after the receipt. -/
structure Orderly {cfg : Config} (c : Commit cfg) : Prop where
  dispatch : DispatchReceived c
  within : ReturnsWithin c.after
  locked : ReturnsUnderLock c.out.locks c.before c.after

/-- While a request waits for its receipt, what the order's finished requests were granted is all that was granted. -/
theorem prior_eq {s : Db} (h : RefundsCapped s) {k : Uuid} {r : ReturnRequest} (hr : s.find Tab.returnRequests k = some r)
    (hst : r.status = .approved) : approvedTotal r.orderId (some k) s = approvedRefunds r.orderId s := by
  unfold approvedTotal approvedRefunds
  refine AList.total_congr fun k' r' hr' => ?_
  have hg := h.granted k' r' hr'
  by_cases hid : r'.orderId = r.orderId
  · rw [if_pos hid]
    by_cases hk : k' = k
    · subst hk
      cases Option.some.inj (hr.symm.trans hr')
      rw [if_neg fun hc => hc.2.1 rfl, hg.waiting (by rw [hst]; rfl)]
      rfl
    · have hinactive : ¬ r'.status.active = true := fun ha => hk (h.within.single k' k r' r hr' hr hid ha (by rw [hst]; rfl))
      have hover : r'.status = .rejected ∨ r'.status = .completed := by
        cases hs : r'.status <;> rw [hs] at hinactive <;> first | exact .inl rfl | exact .inr rfl | exact absurd rfl hinactive
      rcases hover with hs | hs
      · rw [hg.waiting (by rw [hs]; rfl)]
        exact ite_self _
      · have hne : (some k : Option Uuid) ≠ some k' := fun he => hk (Option.some.inj he).symm
        rcases hg.completed hs with hc | hc | hc
        · rw [if_pos ⟨hid, hne, hs, .inl hc⟩]
        · rw [if_pos ⟨hid, hne, hs, .inr hc⟩]
        · rw [hc]
          exact ite_self _
  · rw [if_neg hid, if_neg fun hc => hid hc.1]

section Step
variable {cfg : Config} {c : Commit cfg} {Inv : Db → Prop} {G : List (LockKey schema) → Db → Db → Prop}

/-- **A sum over an order's requests** stays when every request of it counts as before, and a new one for nothing. -/
theorem sum_steady (hf : c.Faithful Inv G) {id : Uuid} (f : ReturnRequest → ℤ)
    (hnew : ∀ n order, f (NewReturn.row n order) = 0)
    (hold : ∀ k r r', c.before.find Tab.returnRequests k = some r → c.after.find Tab.returnRequests k = some r' →
      r.orderId = id → ReturnChange cfg c.op k r r' → f r' = f r) :
    ((c.after.rows Tab.returnRequests).total fun _ r => if r.orderId = id then f r else 0) =
      (c.before.rows Tab.returnRequests).total fun _ r => if r.orderId = id then f r else 0 := by
  refine AList.total_eq_of_elim fun k => ?_
  cases ha : (c.after.rows Tab.returnRequests).lookup k with
  | none =>
    cases hb : (c.before.rows Tab.returnRequests).lookup k with
    | none => rfl
    | some r =>
      obtain ⟨r', hr'⟩ := return_stays hf hb
      cases ha.symm.trans hr'
  | some r' =>
    rcases return_change hf ha with ⟨r, hr, hchange⟩ | ⟨n, order, _, _, hnone, _, _, rfl, _⟩
    · rw [show (c.before.rows Tab.returnRequests).lookup k = some r from hr, Option.elim_some, Option.elim_some, hchange.orderId]
      by_cases hid : r.orderId = id
      · rw [if_pos hid, if_pos hid, hold k r r' hr ha hid hchange]
      · rw [if_neg hid, if_neg hid]
    · rw [show (c.before.rows Tab.returnRequests).lookup k = none from hnone, Option.elim_some, Option.elim_none, hnew]
      exact ite_self _

/-- **Nothing is granted for an order** by a commit that receives no request of it. -/
theorem refunds_steady (hd : DispatchReceived c) (hf : c.Faithful Inv G) {id : Uuid}
    (hn : ∀ k r, c.before.find Tab.returnRequests k = some r → r.orderId = id → ¬ c.op.Receives k r) :
    approvedRefunds id c.after = approvedRefunds id c.before ∧
      ∀ order, shares id order c.after = shares id order c.before := by
  have hold : ∀ k r r', c.before.find Tab.returnRequests k = some r → r.orderId = id → ReturnChange cfg c.op k r r' →
      r'.approvedRefundAmount = r.approvedRefundAmount ∧ ∀ order, r'.share order = r.share order := by
    intro k r r' hr hid hchange
    refine hchange.steady (hn k r hr hid) fun hk => ?_
    obtain ⟨r₀, h0, hreceived⟩ := hd k hk
    cases Option.some.inj (hr.symm.trans h0)
    exact hreceived
  constructor
  · refine sum_steady hf (fun r => r.approvedRefundAmount.getD 0) (fun _ _ => rfl) fun k r r' hr _ hid hchange => ?_
    exact congrArg (fun a => a.getD 0) (hold k r r' hr hid hchange).1
  · exact fun order => sum_steady hf (fun r => r.share order) (fun _ _ => rfl) fun k r r' hr _ hid hchange =>
      (hold k r r' hr hid hchange).2 order

/-- **A receipt keeps to the total**: with the share it adds to the sum of shares, it grants what the total leaves. -/
theorem receive_capped (h : RefundsCapped c.before) (hf : c.Faithful RefundsCapped RefundsUnderLock) {rc : Receipt}
    {request : ReturnRequest} {order : Order} (hop : c.op = .receiveReturnRequest rc)
    (hr : c.before.find Tab.returnRequests rc.returnRequestId = some request)
    (ho : c.before.find Tab.orders request.orderId = some order) (hst : request.status = .approved) :
    approvedRefunds request.orderId c.after = min (shares request.orderId order c.after) (merchandiseTotal order) ∧
      LockKey.row (D := schema) Tab.orders request.orderId ∈ c.out.locks := by
  obtain ⟨call, op, s, o⟩ := c
  dsimp only at hop
  subst hop
  obtain ⟨hlock, hclassifies, hother, K, s₀, hK, hK', hs₀, refunds, r', hr', hid, hreceived, hitems, hamount⟩ :=
    exec_receiveReturn_amount hf hr ho hst
  refine ⟨?_, hlock⟩
  -- what was granted when the receipt looked is what is granted now
  have hrow : Database.find s₀ Tab.returnRequests rc.returnRequestId = some request := Eq.trans (get_eq_of_others hs₀.2 _ hK') hr
  have hprior : approvedTotal request.orderId (some rc.returnRequestId) s₀ = approvedRefunds request.orderId s := by
    rw [prior_eq hs₀.1 hrow hst]
    exact (eq_of_others (fun L a b hL hG => (hG.2 request.orderId).resolve_left fun hl => hL _ hl hK) hs₀.2).symm
  have hstep := fun f : Uuid → ReturnRequest → ℤ => AList.total_step f hother
  have hgranted := hstep fun _ r => if r.orderId = request.orderId then r.approvedRefundAmount.getD 0 else 0
  have hshares := hstep fun _ r => if r.orderId = request.orderId then r.share order else 0
  have hwaiting : request.approvedRefundAmount = none := (h.granted _ _ hr).waiting (by rw [hst]; rfl)
  have hnoshare : request.share order = 0 := by
    unfold ReturnRequest.share
    rw [hst]
    rfl
  rw [show (s.rows Tab.returnRequests).lookup rc.returnRequestId = some request from hr,
    show ((written o.writes s).rows Tab.returnRequests).lookup rc.returnRequestId = some r' from hr', Option.elim_some,
    Option.elim_some, if_pos rfl, if_pos hid] at hgranted hshares
  rw [hwaiting, hamount, hprior, Option.getD_none, Option.getD_some, add_zero] at hgranted
  rw [hnoshare, add_zero] at hshares
  have hshare : r'.share order =
      calculateReturnRefund ((rc.accepted request.items).map fun i => i.grossAmount).sum order.subtotal order.discountAmount := by
    unfold ReturnRequest.share
    rw [if_pos hreceived, acceptedGross_classified hclassifies hitems]
  have hpos := share_nonneg order r'
  have hcapped := h.capped _ order ho
  have htotal : 0 ≤ merchandiseTotal order := le_max_right _ _
  show approvedRefunds request.orderId (written o.writes s) = min (shares request.orderId order (written o.writes s)) _
  change approvedRefunds request.orderId (written o.writes s) = approvedRefunds request.orderId s + _ at hgranted
  change shares request.orderId order (written o.writes s) = shares request.orderId order s + _ at hshares
  change approvedRefunds request.orderId s = min (shares request.orderId order s) _ at hcapped
  rw [hgranted, hshares]
  unfold Receipt.approvedRefundAmount
  dsimp only
  rw [← hshare, hcapped]
  omega

theorem OrderChange.money {R : List (LockKey schema) → Db → Db → Prop} {s b : Db} {id : Uuid} {o o' : Order}
    (h : OrderChange R s b id o o') : o'.subtotal = o.subtotal ∧ o'.discountAmount = o.discountAmount := by
  cases h <;> exact ⟨rfl, rfl⟩

theorem shares_congr {o o' : Order} (h : o'.subtotal = o.subtotal ∧ o'.discountAmount = o.discountAmount) (id : Uuid) (s : Db) :
    shares id o' s = shares id o s ∧ merchandiseTotal o' = merchandiseTotal o := by
  unfold shares ReturnRequest.share merchandiseTotal
  rw [h.1, h.2]
  exact ⟨rfl, rfl⟩

theorem no_requests {s : Db} (h : ReturnsWithin s) {id : Uuid} (hnone : s.find Tab.orders id = none) {k : Uuid} {r : ReturnRequest}
    (hr : s.find Tab.returnRequests k = some r) : r.orderId ≠ id := by
  rintro rfl
  obtain ⟨order, ho⟩ := h.ordered k r hr
  rw [hnone] at ho
  cases ho

theorem refunds_absent {s : Db} (h : ReturnsWithin s) {id : Uuid} (hnone : s.find Tab.orders id = none) (order : Order) :
    approvedRefunds id s = 0 ∧ shares id order s = 0 := by
  constructor
  · unfold approvedRefunds
    rw [AList.total_congr (g := fun _ _ => (0 : ℤ)) fun k r hr => if_neg (no_requests h hnone hr)]
    simp [AList.total]
  · unfold shares
    rw [AList.total_congr (g := fun _ _ => (0 : ℤ)) fun k r hr => if_neg (no_requests h hnone hr)]
    simp [AList.total]

/-- The commit receives a request of the order. -/
def ReceivesFor (c : Commit cfg) (id : Uuid) : Prop :=
  ∃ k r, c.before.find Tab.returnRequests k = some r ∧ r.orderId = id ∧ c.op.Receives k r

theorem not_receives {id : Uuid} (h : ¬ ReceivesFor c id) : ∀ k r, c.before.find Tab.returnRequests k = some r → r.orderId = id →
    ¬ c.op.Receives k r := fun k r hr hid hop => h ⟨k, r, hr, hid, hop⟩

/-- **Every order stays capped.** -/
theorem capped_commit (h : RefundsCapped c.before) (hd : DispatchReceived c) (hf : c.Faithful RefundsCapped RefundsUnderLock)
    {id : Uuid} {o' : Order} (ho' : c.after.find Tab.orders id = some o') :
    approvedRefunds id c.after = min (shares id o' c.after) (merchandiseTotal o') := by
  by_cases hrec : ReceivesFor c id
  · obtain ⟨k, r, hr, rfl, rc, hop, rfl, hst⟩ := hrec
    obtain ⟨o, ho⟩ := h.within.ordered _ r hr
    obtain ⟨o₁, ho₁, hchange⟩ := order_after hf ho
    cases Option.some.inj (ho'.symm.trans ho₁)
    obtain ⟨hshares, htotal⟩ := shares_congr hchange.money r.orderId c.after
    rw [hshares, htotal]
    exact (receive_capped h hf hop hr ho hst).1
  · obtain ⟨happroved, hshares⟩ := refunds_steady hd hf (not_receives hrec)
    rw [happroved, hshares o']
    rcases order_change hf ho' with ⟨o, ho, hchange⟩ | ⟨co, voucher, _, _, hnone, _⟩
    · obtain ⟨hshares', htotal⟩ := shares_congr hchange.money id c.before
      rw [hshares', htotal]
      exact h.capped id o ho
    · obtain ⟨hzero, hzero'⟩ := refunds_absent h.within hnone o'
      rw [hzero, hzero']
      exact (min_eq_left (le_max_right _ _)).symm

/-- **The rule for the refunds**, with what others promise. -/
theorem refunds_keep : Keeps (S := platform cfg) RefundsCapped RefundsUnderLock (fun _ => True) Orderly := by
  intro c _ h hf hc
  refine ⟨⟨hc.within, fun k r' hr' => ?_, fun id o' ho' => capped_commit h hc.dispatch hf ho'⟩, hc.locked, fun id => ?_⟩
  · rcases return_change hf hr' with ⟨r, hr, hchange⟩ | ⟨n, order, _, _, _, _, _, rfl, _⟩
    · refine hchange.granted (h.granted k r hr) fun hk => ?_
      obtain ⟨r₁, h1, hreceived⟩ := hc.dispatch k hk
      cases Option.some.inj (hr.symm.trans h1)
      exact hreceived
    · exact ⟨fun _ => rfl, fun h => (nomatch h), fun h => (nomatch h), fun m hm => (nomatch hm), fun h => (nomatch h)⟩
  · by_cases hrec : ReceivesFor c id
    · obtain ⟨k, r, hr, rfl, rc, hop, rfl, hst⟩ := hrec
      obtain ⟨o, ho⟩ := h.within.ordered _ r hr
      exact .inl (receive_capped h hf hop hr ho hst).2
    · exact .inr (refunds_steady hc.dispatch hf (not_receives hrec)).1

end Step

/-! ## Every run -/

theorem orderly {cfg : Config} {Init : Db → Prop} (hinit : ∀ s, Init s → ReturnsWithin s)
    (e : Execution (platform cfg) Init fun _ => True) : ∀ c : Commit cfg, .commit c ∈ e.events → Orderly c := by
  intro c hc
  have hcommit := e.commits returns_keeps hinit (dispatch_received e) c hc
  exact ⟨dispatch_received e c hc, hcommit.2.2.1, hcommit.2.2.2⟩

theorem Shelved.refundsCapped {s : Db} (h : Shelved s) : RefundsCapped s := by
  refine ⟨h.returnsWithin, fun k r hr => ?_, fun id order ho => ?_⟩
  · unfold Database.find at hr
    rw [h.returnRequests] at hr
    cases hr
  · unfold Database.find at ho
    rw [h.orders] at ho
    cases ho

theorem approvedTotal_le {s : Db} (h : RefundsCapped s) (id : Uuid) : approvedTotal id none s ≤ approvedRefunds id s := by
  refine List.sum_le_sum fun e he => ?_
  have hpos := (h.granted e.1 e.2 (AList.mem_lookup_iff.2 he)).nonneg
  dsimp only
  split
  · rename_i hc
    rw [if_pos hc.1]
  · split
    · exact hpos
    · exact le_rfl

/-- **Returns are refunded up to the goods' total.**  In every state of every run from an opened shop, the finished and paid
back requests of an order were granted no more than its subtotal less its discount together, and what was paid by hand for a
request is what it was granted. -/
theorem returns_capped (cfg : Config) (e : Execution (platform cfg) Shelved fun _ => True) :
    (∀ s ∈ e.history, ∀ id order, s.find Tab.orders id = some order →
      ((s.rows Tab.returnRequests).total fun _ r =>
        if r.orderId = id ∧ r.status = .completed ∧ (r.refundStatus = some .completed ∨ r.refundStatus = some .manualCompleted)
        then r.approvedRefundAmount.getD 0 else 0) ≤ roundMoney (max ((order.subtotal : ℚ) - order.discountAmount) 0)) ∧
    ∀ s ∈ e.history, ∀ k r, s.find Tab.returnRequests k = some r → ∀ m ∈ r.manualRefundAmount, r.approvedRefundAmount = some m := by
  have hinv : ∀ s ∈ e.history, RefundsCapped s := fun s hs =>
    e.invariant refunds_keep (fun _ => Shelved.refundsCapped) (orderly (fun _ => Shelved.returnsWithin) e) hs
  refine ⟨fun s hs id order ho => ?_, fun s hs k r hr m hm => (((hinv s hs).granted k r hr).manual m hm).2⟩
  have htotal : roundMoney (max ((order.subtotal : ℚ) - order.discountAmount) 0) = merchandiseTotal order := by
    have hcast : max ((order.subtotal : ℚ) - order.discountAmount) 0 = ((merchandiseTotal order : ℤ) : ℚ) := by
      unfold merchandiseTotal
      push_cast
      rfl
    rw [hcast, roundMoney_intCast]
  have hpaid : ((s.rows Tab.returnRequests).total fun _ r =>
      if r.orderId = id ∧ r.status = .completed ∧ (r.refundStatus = some .completed ∨ r.refundStatus = some .manualCompleted)
      then r.approvedRefundAmount.getD 0 else 0) = approvedTotal id none s := by
    unfold approvedTotal
    simp
  rw [htotal, hpaid]
  calc approvedTotal id none s ≤ approvedRefunds id s := approvedTotal_le (hinv s hs) id
    _ = min (shares id order s) (merchandiseTotal order) := (hinv s hs).capped id order ho
    _ ≤ merchandiseTotal order := min_le_right _ _

/-- `returns_capped` of the sale that comes back: the whole price is paid back, and no more. -/
theorem saleReturned_capped : ∃ r order, saleReturned.final.db.find Tab.returnRequests 30 = some r ∧
    r.manualRefundAmount = some 10000000 ∧ r.approvedRefundAmount = some 10000000 ∧
      saleReturned.final.db.find Tab.orders 1 = some order ∧
        ((saleReturned.final.db.rows Tab.returnRequests).total fun _ r =>
          if r.orderId = 1 ∧ r.status = .completed ∧ (r.refundStatus = some .completed ∨ r.refundStatus = some .manualCompleted)
          then r.approvedRefundAmount.getD 0 else 0) ≤ roundMoney (max ((order.subtotal : ℚ) - order.discountAmount) 0) := by
  have hrequest : (saleReturned.final.db.find Tab.returnRequests 30).any (fun r => r.manualRefundAmount == some 10000000) = true := by
    decide +kernel
  have horder : (saleReturned.final.db.find Tab.orders 1).isSome = true := by decide +kernel
  obtain ⟨r, hr, hpaid⟩ := (Option.any_eq_true _ _).1 hrequest
  obtain ⟨order, ho⟩ := Option.isSome_iff_exists.1 horder
  obtain ⟨hcapped, hmanual⟩ := returns_capped alteredConfig saleReturned
  have hgranted := hmanual _ saleReturned.final_mem_history 30 r hr 10000000 (beq_iff_eq.1 hpaid)
  exact ⟨r, order, hr, beq_iff_eq.1 hpaid, hgranted, ho, hcapped _ saleReturned.final_mem_history 1 order ho⟩

end Balii
