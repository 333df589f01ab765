import Balii.Order.Stock
import Balii.Payment.Settlement
import Balii.Programs
/-!
# Order.ReturnQuantities — no more of an order comes back than was bought

A request takes less and less of its order's items as it goes on, and a new one is measured under the order's lock against
all before it.  The status the dispatcher writes is one a received request may have: what it overwrites takes the same.
-/
namespace Balii

open Rowdb Tx Sql System

/-- The goods have come back: the request waits for them no longer, and it was not rejected. -/
def ReturnStatus.received : ReturnStatus → Bool
  | .pending => false
  | .approved => false
  | .rejected => false
  | _ => true

/-- What the requests of an order take of one of its items. -/
def returnedQuantity (orderId orderItemId : Uuid) (s : Db) : ℤ :=
  (s.rows Tab.returnRequests).total fun _ r => if r.orderId = orderId then r.takes orderItemId else 0

/-- How many of an order item a receipt puts back on the shelf. -/
def Receipt.restocked (rc : Receipt) (r : ReturnRequest) (orderItemId : Uuid) : ℤ :=
  ((r.items.filter fun i => i.orderItemId == orderItemId && rc.disposition i.id == some .restock).map
    fun i => i.requestedQuantity).sum

/-- How many of an order's item a commit puts back on the shelf. -/
def restockedBy {cfg : Config} (orderId orderItemId : Uuid) (c : Commit cfg) : ℤ :=
  match c.op with
  | .receiveReturnRequest rc =>
    match c.before.find Tab.returnRequests rc.returnRequestId with
    | some r => if r.status = .approved ∧ r.orderId = orderId then rc.restocked r orderItemId else 0
    | none => 0
  | _ => 0

/-- The commit changes stock for the request. -/
def Restocks {cfg : Config} (k : Uuid) (c : Commit cfg) : Prop :=
  ∃ rc, c.op = .receiveReturnRequest rc ∧ rc.returnRequestId = k ∧
    ∃ v, c.after.find Tab.variants v ≠ c.before.find Tab.variants v

/-! ## What a request takes -/

section Takes
variable {r r' : ReturnRequest} {x : Uuid}

/-- No item is asked for in no quantity, and none was accepted in a negative one. -/
def ReturnRequest.Counted (r : ReturnRequest) : Prop :=
  ∀ i ∈ r.items, 0 < i.requestedQuantity ∧ ∀ a ∈ i.acceptedQuantity, 0 ≤ a

theorem takes_rejected (h : r.status = .rejected) : r.takes x = 0 := by
  unfold ReturnRequest.takes
  rw [h]
  simp

theorem takes_waiting (h : r.status = .pending ∨ r.status = .approved) :
    r.takes x = ((r.items.filter fun i => i.orderItemId == x).map fun i => i.requestedQuantity).sum := by
  unfold ReturnRequest.takes
  rcases h with h | h <;> rw [h]

theorem takes_received (h : r.status.received = true) : r.takes x =
    ((r.items.filter fun i => i.orderItemId == x).map fun i => i.acceptedQuantity.getD i.requestedQuantity).sum := by
  unfold ReturnRequest.takes
  cases hs : r.status <;> rw [hs] at h <;> first | rfl | cases h

theorem ReturnRequest.Counted.takes_nonneg (h : r.Counted) : 0 ≤ r.takes x := by
  unfold ReturnRequest.takes
  refine List.sum_nonneg fun y hy => ?_
  obtain ⟨i, hi, rfl⟩ := List.mem_map.1 hy
  obtain ⟨hreq, hacc⟩ := h i (List.mem_of_mem_filter hi)
  have haccepted : 0 ≤ i.acceptedQuantity.getD i.requestedQuantity := by
    cases ha : i.acceptedQuantity with
    | none => exact hreq.le
    | some a => exact hacc a ha
  split
  · exact le_rfl
  · exact hreq.le
  · exact hreq.le
  · exact haccepted

theorem classify_accepted {rc : Receipt} {refunds : List (Uuid × ℤ)} {i : ReturnItem} (h : (rc.disposition i.id).isSome = true) :
    (rc.classify refunds i).acceptedQuantity = some (if rc.disposition i.id = some .rejected then 0 else i.requestedQuantity) := by
  unfold Receipt.classify
  cases hd : rc.disposition i.id with
  | none => rw [hd] at h; cases h
  | some d => cases d <;> rfl

theorem isSome_disposition {rc : Receipt} {items : List ReturnItem} (h : rc.classifies items = true) {i : ReturnItem}
    (hi : i ∈ items) : (rc.disposition i.id).isSome = true := by
  unfold Receipt.classifies at h
  rw [Bool.and_eq_true] at h
  exact List.all_eq_true.1 h.2 i hi

theorem Receipt.Closes.status {cfg : Config} {rc : Receipt} {change : ReturnRequest → ReturnRequest} (h : rc.Closes cfg change)
    (r : ReturnRequest) :
    (change r).status.received = true ∧ (change r).items = r.items ∧ (change r).orderId = r.orderId := by
  cases h with
  | notEligible => exact ⟨rfl, rfl, rfl⟩
  | received restocked provider hamount => cases provider <;> exact ⟨rfl, rfl, rfl⟩

/-- **A received request takes what was accepted**: nothing of what was sent back to the customer. -/
theorem takes_classified {rc : Receipt} {refunds : List (Uuid × ℤ)} {change : ReturnRequest → ReturnRequest}
    (hi : rc.classifies r.items = true) (hc : rc.Closes cfg change) :
    (change { r with items := r.items.map (rc.classify refunds) }).takes x =
      ((r.items.filter fun i => i.orderItemId == x).map fun i =>
        if rc.disposition i.id = some .rejected then 0 else i.requestedQuantity).sum := by
  obtain ⟨hreceived, hitems, _⟩ := hc.status { r with items := r.items.map (rc.classify refunds) }
  rw [takes_received hreceived, hitems, List.filter_map, List.map_map]
  have hfilter : (r.items.filter ((fun i => i.orderItemId == x) ∘ rc.classify refunds)) =
      r.items.filter fun i => i.orderItemId == x :=
    List.filter_congr fun i _ => by rw [Function.comp_apply, classify_orderItemId]
  rw [hfilter]
  congr 1
  refine List.map_congr_left fun i hmem => ?_
  rw [Function.comp_apply, classify_accepted (isSome_disposition hi (List.mem_of_mem_filter hmem)), Option.getD_some]

/-- What goes back on the shelf was accepted. -/
theorem restocked_le {rc : Receipt} {refunds : List (Uuid × ℤ)} {change : ReturnRequest → ReturnRequest} (h : r.Counted)
    (hi : rc.classifies r.items = true) (hc : rc.Closes cfg change) :
    rc.restocked r x ≤ (change { r with items := r.items.map (rc.classify refunds) }).takes x := by
  rw [takes_classified hi hc]
  unfold Receipt.restocked
  have hpos : ∀ i ∈ r.items, 0 < i.requestedQuantity := fun i hi => (h i hi).1
  generalize r.items = items at hpos
  induction items with
  | nil => exact le_rfl
  | cons i items ih =>
    have hrest := ih fun j hj => hpos j (List.mem_cons_of_mem _ hj)
    have hnow := hpos i List.mem_cons_self
    rw [List.filter_cons, List.filter_cons]
    by_cases hx : i.orderItemId = x
    · cases hd : rc.disposition i.id with
      | none => simp [hx, hd]; omega
      | some d => cases d <;> simp [hx, hd] <;> omega
    · simpa [hx] using hrest

end Takes

/-! ## The dispatcher comes after the receipt -/

/-- The request whose dispatch the transaction records. -/
def Op.dispatched? : Op → Option Uuid
  | .recordDispatch id .. => some id
  | .recordDispatchFailure id => some id
  | _ => none

def Received (k : Uuid) (s : Db) : Prop := ∃ r, s.find Tab.returnRequests k = some r ∧ r.status.received = true

/-- What the dispatcher records, it records of a received request. -/
def DispatchReceived {cfg : Config} (c : Commit cfg) : Prop := ∀ k, c.op.dispatched? = some k → Received k c.before

theorem ReturnChange.staysReceived {cfg : Config} {op : Op} {k : Uuid} {r r' : ReturnRequest} (h : ReturnChange cfg op k r r')
    (hr : r.status.received = true) : r'.status.received = true := by
  cases h with
  | kept => exact hr
  | reviewed _ hp => rw [hp] at hr; cases hr
  | received _ _ _ _ hc => exact (hc.status _).1
  | _ => rfl

section Dispatch
variable {cfg : Config} {c : Commit cfg} {Inv : Db → Prop} {G : List (LockKey schema) → Db → Db → Prop}

theorem received_after (hf : c.Faithful Inv G) {k : Uuid} (h : Received k c.before) : Received k c.after := by
  obtain ⟨r, hr, hreceived⟩ := h
  obtain ⟨r', hr'⟩ := return_stays hf hr
  refine ⟨r', hr', ?_⟩
  rcases return_change hf hr' with ⟨r₀, h0, hchange⟩ | ⟨_, _, _, _, hnone, _⟩
  · cases Option.some.inj (hr.symm.trans h0)
    exact hchange.staysReceived hreceived
  · rw [hr] at hnone
    cases hnone

/-- **A refund is dispatched for the request that was received**, which waits for it. -/
theorem exec_receiveReturn_dispatch {R : List (LockKey schema) → Db → Db → Prop} {s : Db} {rc : Receipt} {d : ReturnRefundDispatch}
    {o : Outcome (LockKey schema) (Write schema) (Option ReturnRefundDispatch)}
    (h : Exec R (receiveReturnRequestTransaction cfg rc) s [] [] o) (hd : o.val = some d) :
    d.returnRequestId = rc.returnRequestId ∧
      ∃ request r', s.find Tab.returnRequests rc.returnRequestId = some request ∧ request.status = .approved ∧
        (written o.writes s).find Tab.returnRequests rc.returnRequestId = some r' ∧ r'.status = .refundPending := by
  unfold receiveReturnRequestTransaction at h
  simp only [exec_bind, exec_select] at h
  obtain ⟨_, ⟨s₀, _, rfl⟩, _, h1, _, h2, h⟩ := h
  obtain ⟨request, hr, rfl⟩ := exec_fetch h1
  obtain ⟨order, ho, rfl⟩ := exec_fetch h2
  have hr' : s.find Tab.returnRequests rc.returnRequestId = some request := hr
  split at h
  · cases h; cases hd
  · cases h; cases hd
  · cases h; cases hd
  · simp only [exec_bind, exec_writesStatus, exec_update, exec_pure] at h
    obtain ⟨_, ⟨_, rfl⟩, _, rfl, rfl⟩ := h
    cases hd
  · rename_i hstatus
    simp only [receiveApproved, exec_bind, exec_ensure, exec_select] at h
    obtain ⟨_, ⟨_, rfl⟩, _, ⟨_, rfl⟩, _, ⟨_, _, rfl⟩, m, hm, h⟩ := h
    obtain ⟨⟨hitems, _⟩, _⟩ := exec_receiveItems hr' hm
    split at h
    · simp only [exec_bind, exec_update, exec_pure] at h
      obtain ⟨_, rfl, rfl⟩ := h
      cases hd
    · simp only [exec_bind, exec_writesStatus, exec_update] at h
      obtain ⟨_, ⟨_, rfl⟩, _, rfl, h⟩ := h
      split at h
      · rename_i hprovider
        cases h
        cases hd
        refine ⟨rfl, request, ?_⟩
        rw [written_append, written_cons, written_nil, find_update, if_pos rfl, hitems, Option.map_some]
        exact ⟨_, hr', hstatus, rfl, if_pos hprovider.1⟩
      · cases h; cases hd
  · exact h.elim

theorem runs_dispatched {call : Call} {op : Op} {k : Uuid} (h : call.runs op = true) (hk : op.dispatched? = some k) :
    ∃ rc, call = .receiveReturnRequest rc := by
  cases op with
  | recordDispatch id paymentId reused now => cases call <;> first | exact ⟨_, rfl⟩ | cases h
  | recordDispatchFailure id => cases call <;> first | exact ⟨_, rfl⟩ | cases h
  | _ => cases hk

/-- **The dispatcher of a receipt** works on the request it received. -/
theorem receive_follows {Ok : Commit cfg → Prop} (hok : ∀ c : Commit cfg, Ok c → c.Faithful (fun _ => True) fun _ _ _ => True)
    {s : Db} {i : ℕ} {call : Call} {rc : Receipt} {τ : System.Trace (platform cfg)} (hτ : Lawful (S := platform cfg) s Ok τ) :
    System.Follows (S := platform cfg) (Lawful s Ok) i call (fun _ c => DispatchReceived c) (receiveReturnRequest rc)
      (fun _ _ => True) τ := by
  refine follows_bind hτ (follows_trans (fun τ' a o hl hlaw => ⟨fun k hk => (nomatch hk), fun τ'' hl'' => ?_⟩) fun _ _ _ => trivial)
  obtain ⟨hbefore, hfaithful⟩ := hlaw.commit
  dsimp only
  cases hval : o.val with
  | none => exact fun _ _ => trivial
  | some d =>
    obtain ⟨hid, request, r', _, _, hr', hst⟩ := exec_receiveReturn_dispatch (hok _ hfaithful) hval
    have hthen : Received d.returnRequestId (τ''.state s) := by
      refine hl''.keeps (fun c hc => received_after (hok c hc)) ?_
      rw [hlaw.state_commit]
      exact ⟨r', hid ▸ hr', by rw [hst]; rfl⟩
    refine follows_of_uses (S := platform cfg) (A := fun op : Op => ∀ k, op.dispatched? = some k → k = d.returnRequestId)
      (B := fun _ => True) ?_ ?_
    · refine Proc.uses_then (runs_dispatch (fun _ _ k hk => ?_) fun k hk => ?_) fun _ => trivial
      · exact (Option.some.inj hk).symm
      · exact (Option.some.inj hk).symm
    · intro τ₃ c hpre hA hlaw₃ k hk
      obtain ⟨hb, _⟩ := hlaw₃.commit
      rw [hb, hA k hk]
      exact (hlaw₃.pre (List.prefix_append _ _)).keeps (fun c hc => received_after (hok c hc)) hpre hthen

/-- **In every run the dispatcher comes after the receipt.** -/
theorem dispatch_received {Init : Db → Prop} {Permitted : Op → Prop} (e : Execution (platform cfg) Init Permitted) :
    ∀ c : Commit cfg, .commit c ∈ e.events → DispatchReceived c := by
  refine e.commits_of_follows e.faithful fun i call τ hτ => ?_
  by_cases hcall : ∃ rc, call = .receiveReturnRequest rc
  · obtain ⟨rc, rfl⟩ := hcall
    exact receive_follows (fun _ h => h) hτ
  · refine follows_of_uses (proc_runs cfg call) fun τ' c _ hruns _ k hk => ?_
    exact absurd (runs_dispatched hruns hk) hcall

end Dispatch

/-! ## The invariant -/

/-- The request goes on: it takes no more than before, and does not come back to life. -/
structure ReturnRequest.Shrinks (r r' : ReturnRequest) : Prop where
  orderId : r'.orderId = r.orderId
  takes : ∀ x, r'.takes x ≤ r.takes x
  active : r'.status.active = true → r.status.active = true

structure ReturnsWithin (s : Db) : Prop where
  counted : ∀ k r, s.find Tab.returnRequests k = some r → r.Counted
  ordered : ∀ k r, s.find Tab.returnRequests k = some r → ∃ order, s.find Tab.orders r.orderId = some order
  distinct : ∀ id order, s.find Tab.orders id = some order → (order.items.map fun i => i.id).Nodup
  bought : ∀ id order, s.find Tab.orders id = some order → ∀ i ∈ order.items, 0 < i.quantity
  within : ∀ id order, s.find Tab.orders id = some order → ∀ i ∈ order.items, returnedQuantity id i.id s ≤ i.quantity
  single : ∀ k k' r r', s.find Tab.returnRequests k = some r → s.find Tab.returnRequests k' = some r' → r.orderId = r'.orderId →
    r.status.active = true → r'.status.active = true → k = k'

/-- What others promise: a request goes on, or is a new one of an order whose row was locked. -/
def ReturnsUnderLock (L : List (LockKey schema)) (a b : Db) : Prop :=
  ∀ k r', b.find Tab.returnRequests k = some r' → (∃ r, a.find Tab.returnRequests k = some r ∧ r.Shrinks r') ∨
    LockKey.row (D := schema) Tab.orders r'.orderId ∈ L

/-- The requests of the order go on, and there are no others. -/
def Shrunk (id : Uuid) (a b : Db) : Prop :=
  ∀ k r', b.find Tab.returnRequests k = some r' → r'.orderId = id → ∃ r, a.find Tab.returnRequests k = some r ∧ r.Shrinks r'

theorem ReturnRequest.Shrinks.refl (r : ReturnRequest) : r.Shrinks r := ⟨rfl, fun _ => le_rfl, id⟩

theorem ReturnRequest.Shrinks.trans {a b c : ReturnRequest} (h : a.Shrinks b) (h' : b.Shrinks c) : a.Shrinks c :=
  ⟨h'.orderId.trans h.orderId, fun x => (h'.takes x).trans (h.takes x), h.active ∘ h'.active⟩

theorem shrunk_of_others {cfg : Config} {Inv : Db → Prop} {K : List (LockKey schema)} {a b : Db} {id : Uuid}
    (h : Rely (S := platform cfg) Inv ReturnsUnderLock K a b) (hK : LockKey.row (D := schema) Tab.orders id ∈ K) : Shrunk id a b := by
  refine inv_of_others (P := Shrunk id a) (fun L s t hL hG hs k r' hr' hid => ?_) h.2 fun k r' hr' _ => ⟨r', hr', .refl r'⟩
  rcases hG k r' hr' with ⟨r, hr, hshrinks⟩ | hlock
  · obtain ⟨r₀, h0, hbefore⟩ := hs k r hr (hshrinks.orderId ▸ hid)
    exact ⟨r₀, h0, hbefore.trans hshrinks⟩
  · exact absurd hK (hL _ (hid ▸ hlock))

/-- Requests that only go on take no more. -/
theorem Shrunk.returned_le {id : Uuid} {a b : Db} (h : Shrunk id a b)
    (ha : ∀ k r, a.find Tab.returnRequests k = some r → r.Counted) (x : Uuid) :
    returnedQuantity id x b ≤ returnedQuantity id x a := by
  refine AList.total_le_of_elim fun k => ?_
  have hnonneg : 0 ≤ ((a.rows Tab.returnRequests).lookup k).elim 0 fun r => if r.orderId = id then r.takes x else 0 := by
    cases hk : (a.rows Tab.returnRequests).lookup k with
    | none => exact le_rfl
    | some r =>
      rw [Option.elim_some]
      split
      · exact (ha k r hk).takes_nonneg
      · exact le_rfl
  cases hb : (b.rows Tab.returnRequests).lookup k with
  | none => exact hnonneg
  | some r' =>
    rw [Option.elim_some]
    by_cases hid : r'.orderId = id
    · obtain ⟨r, hr, hshrinks⟩ := h k r' hb hid
      rw [if_pos hid, show (a.rows Tab.returnRequests).lookup k = some r from hr, Option.elim_some,
        if_pos (hshrinks.orderId ▸ hid)]
      exact hshrinks.takes x
    · rw [if_neg hid]
      exact hnonneg

theorem returned_le_previous {s : Db} (h : ∀ k r, s.find Tab.returnRequests k = some r → r.Counted) (id x : Uuid) :
    returnedQuantity id x s ≤ previousQuantity x s := by
  refine List.sum_le_sum fun e he => ?_
  dsimp only
  split
  · exact le_rfl
  · exact (h e.1 e.2 (AList.mem_lookup_iff.2 he)).takes_nonneg

/-! ## One commit -/

section Change
variable {cfg : Config} {op : Op} {k : Uuid} {r r' : ReturnRequest}

theorem active_of_awaits (h : r.awaitsRefund = true) : r.status.active = true ∧ r.status.received = true := by
  unfold ReturnRequest.awaitsRefund at h
  rw [Bool.or_eq_true, beq_iff_eq, beq_iff_eq] at h
  rcases h with h | h <;> rw [h] <;> exact ⟨rfl, rfl⟩

theorem not_completed_of_awaits (h : r.awaitsRefund = true) : r.status ≠ .completed := by
  intro hst
  have hactive := (active_of_awaits h).1
  rw [hst] at hactive
  cases hactive

theorem active_of_received {status : ReturnStatus} (h : status.received = true) (hne : status ≠ .completed) : status.active = true := by
  cases status <;> first | rfl | exact absurd rfl hne | cases h

theorem shrinks_of_received (hr : r.status.received = true) (ha : r.status.active = true) (hr' : r'.status.received = true)
    (hi : r'.items = r.items) (ho : r'.orderId = r.orderId) : r.Shrinks r' := by
  refine ⟨ho, fun x => ?_, fun _ => ha⟩
  rw [takes_received hr, takes_received hr', hi]

/-- **A request goes on** with every change, when what the dispatcher records is recorded of a received one. -/
theorem ReturnChange.shrinks (h : ReturnChange cfg op k r r') (hr : r.Counted)
    (hdispatch : op.dispatched? = some k → r.status.received = true) : r.Shrinks r' := by
  cases h with
  | kept => exact .refl r
  | closed _ _ ha => exact shrinks_of_received (active_of_awaits ha).2 (active_of_awaits ha).1 rfl rfl rfl
  | failed _ ha => exact shrinks_of_received (active_of_awaits ha).2 (active_of_awaits ha).1 rfl rfl rfl
  | completed _ ha => exact shrinks_of_received (active_of_awaits ha).2 (active_of_awaits ha).1 rfl rfl rfl
  | toManual _ _ hs => exact shrinks_of_received (by rw [hs]; rfl) (by rw [hs]; rfl) rfl rfl rfl
  | confirmed _ _ hs _ => exact shrinks_of_received (by rw [hs]; rfl) (by rw [hs]; rfl) rfl rfl rfl
  | dispatched hop hs =>
    have hreceived := hdispatch (by rw [hop]; rfl)
    exact shrinks_of_received hreceived (active_of_received hreceived hs) rfl rfl rfl
  | dispatchFailed hop hs =>
    have hreceived := hdispatch (by rw [hop]; rfl)
    exact shrinks_of_received hreceived (active_of_received hreceived hs) rfl rfl rfl
  | @reviewed _ decision _ _ hp =>
    refine ⟨rfl, fun x => ?_, fun _ => by rw [hp]; rfl⟩
    cases decision with
    | approved => rw [takes_waiting (r := r) (.inl hp), takes_waiting (.inr rfl)]
    | rejected =>
      rw [takes_rejected rfl]
      exact hr.takes_nonneg
  | received _ _ hs hi hc =>
    refine ⟨(hc.status _).2.2, fun x => ?_, fun _ => by rw [hs]; rfl⟩
    rw [takes_classified hi hc, takes_waiting (.inr hs)]
    refine List.sum_le_sum fun i hmem => ?_
    split
    · exact (hr i (List.mem_of_mem_filter hmem)).1.le
    · exact le_rfl

theorem ReturnChange.counted (h : ReturnChange cfg op k r r') (hr : r.Counted) : r'.Counted := by
  cases h with
  | @received rc refunds change _ _ _ hi hc =>
    intro i hmem
    rw [(hc.status _).2.1] at hmem
    obtain ⟨j, hj, rfl⟩ := List.mem_map.1 hmem
    refine ⟨by rw [classify_quantity]; exact (hr j hj).1, fun a ha => ?_⟩
    rw [classify_accepted (isSome_disposition hi hj)] at ha
    cases ha
    split
    · exact le_rfl
    · exact (hr j hj).1.le
  | _ => exact hr

end Change

section Create
variable {cfg : Config} {n : NewReturn} {order : Order}

/-- **What a new request is measured against**: under the lock of its order, what the requests before it took, and that none of
them is active. -/
theorem exec_createReturn_checks {R : List (LockKey schema) → Db → Db → Prop} {s : Db}
    {o : Outcome (LockKey schema) (Write schema) Uuid} (h : Exec R (createReturnRequestTransaction cfg n) s [] [] o)
    (ho : s.find Tab.orders n.orderId = some order) :
    LockKey.row (D := schema) Tab.orders n.orderId ∈ o.locks ∧
      (∃ K s₀, LockKey.row (D := schema) Tab.orders n.orderId ∈ K ∧ R K s₀ s ∧
        ∀ i ∈ order.items, selectedQuantity n.selected i.id ≤ i.quantity - previousQuantity i.id s₀) ∧
      ∃ K s₀, LockKey.row (D := schema) Tab.orders n.orderId ∈ K ∧ R K s₀ s ∧
        ∀ k r, s₀.find Tab.returnRequests k = some r → r.orderId = n.orderId → r.status.active = false := by
  unfold createReturnRequestTransaction at h
  simp only [exec_bind, exec_ensure, exec_select, exec_pure] at h
  obtain ⟨_, ⟨_, _, rfl⟩, _, h1, _, ⟨_, rfl⟩, _, ⟨_, _, rfl⟩, _, ⟨_, rfl⟩, _, ⟨_, rfl⟩, _, ⟨s₁, hs₁, rfl⟩, h⟩ := h
  obtain ⟨order', ho', rfl⟩ := exec_fetchJoin h1
  cases Option.some.inj (ho.symm.trans ho')
  obtain ⟨_, ⟨_, rfl⟩, _, ⟨hroom, rfl⟩, _, ⟨_, rfl⟩, _, ⟨_, rfl⟩, _, h2, _, h3, rfl⟩ := h
  obtain ⟨⟨s₂, hs₂, hfree⟩, rfl⟩ := exec_unique h2
  obtain ⟨_, rfl⟩ := exec_insert h3
  refine ⟨by simp, ⟨_, s₁, List.mem_cons_self, hs₁, hroom⟩, _, s₂, List.mem_cons_of_mem _ List.mem_cons_self, hs₂, ?_⟩
  intro k r hr hid
  have hclash := AList.find_eq_none.1 hfree k r hr
  simpa [hid] using hclash

theorem filter_id_of_nodup {items : List OrderItem} (h : (items.map fun i => i.id).Nodup) {i : OrderItem} (hi : i ∈ items) :
    items.filter (fun j => j.id == i.id) = [i] := by
  induction items with
  | nil => cases hi
  | cons a items ih =>
    rw [List.map_cons, List.nodup_cons] at h
    rw [List.filter_cons]
    rcases List.mem_cons.1 hi with rfl | hi
    · have hrest : items.filter (fun j => j.id == i.id) = [] := by
        refine List.filter_eq_nil_iff.2 fun j hj heq => h.1 ?_
        exact List.mem_map.2 ⟨j, hj, beq_iff_eq.1 heq⟩
      rw [hrest, if_pos (beq_self_eq_true _)]
    · have hne : ¬ (a.id == i.id) = true := fun heq =>
        h.1 (List.mem_map.2 ⟨i, hi, (beq_iff_eq.1 heq).symm⟩)
      rw [if_neg hne]
      exact ih h.2 hi

theorem takes_row (hd : (order.items.map fun i => i.id).Nodup) {i : OrderItem} (hi : i ∈ order.items) :
    (n.row order).takes i.id = selectedQuantity n.selected i.id ∨ (n.row order).takes i.id = 0 := by
  have hsum : (n.row order).takes i.id = (((order.items.filter fun i => n.selected.any fun e => e.1 == i.id).filter
      fun j => j.id == i.id).map fun j => selectedQuantity n.selected j.id).sum := by
    rw [takes_waiting (.inl rfl)]
    unfold NewReturn.row
    dsimp only
    generalize (order.items.filter fun i => n.selected.any fun e => e.1 == i.id) = chosen
    rw [List.filter_map, List.map_map]
    conv_rhs => rw [← List.zipIdx_map_fst 0 chosen, List.filter_map, List.map_map]
    rfl
  rw [hsum, List.filter_comm, filter_id_of_nodup hd hi]
  by_cases hchosen : (n.selected.any fun e => e.1 == i.id) = true
  · left
    simp [hchosen]
  · right
    simp [hchosen]

end Create

section Step
variable {cfg : Config} {c : Commit cfg} {Inv : Db → Prop} {G : List (LockKey schema) → Db → Db → Prop}

/-- Every request after a commit goes on from before, or is the new one. -/
theorem return_shrinks (h : ∀ k r, c.before.find Tab.returnRequests k = some r → r.Counted) (hd : DispatchReceived c)
    (hf : c.Faithful Inv G) {k : Uuid} {r' : ReturnRequest} (hr' : c.after.find Tab.returnRequests k = some r') :
    (∃ r, c.before.find Tab.returnRequests k = some r ∧ r.Shrinks r' ∧ r'.Counted) ∨
      ∃ n order, c.op = .createReturnRequest n ∧ n.id = k ∧ c.before.find Tab.returnRequests k = none ∧
        c.before.find Tab.orders n.orderId = some order ∧ r' = n.row order ∧ r'.Counted := by
  rcases return_change hf hr' with ⟨r, hr, hchange⟩ | ⟨n, order, hop, hid, hnone, ho, _, rfl, hq⟩
  · have hcounted := h k r hr
    refine .inl ⟨r, hr, hchange.shrinks hcounted fun hk => ?_, hchange.counted hcounted⟩
    obtain ⟨r₀, h0, hreceived⟩ := hd k hk
    cases Option.some.inj (hr.symm.trans h0)
    exact hreceived
  · refine .inr ⟨n, order, hop, hid, hnone, ho, rfl, fun i hi => ⟨hq i hi, fun a ha => ?_⟩⟩
    obtain ⟨e, _, rfl⟩ := List.mem_map.1 hi
    cases ha

/-- The items of an order are what they were when it was placed. -/
theorem OrderChange.items {R : List (LockKey schema) → Db → Db → Prop} {s b : Db} {id : Uuid} {o o' : Order}
    (h : OrderChange R s b id o o') : o'.items = o.items := by
  cases h <;> rfl

theorem nodup_order_items (co : Checkout) (voucher : Option (Uuid × ℤ)) : ((co.order voucher).items.map fun i => i.id).Nodup := by
  have hids : ((co.order voucher).items.map fun i => i.id) = (co.items.zipIdx.map fun e => e.2).map co.itemId := by
    unfold Checkout.order
    rw [List.map_map, List.map_map]
    rfl
  rw [hids, List.zipIdx_map_snd]
  exact (List.nodup_map_iff co.itemId.injective).2 List.nodup_range'

theorem order_items_positive {co : Checkout} (voucher : Option (Uuid × ℤ)) (h : ∀ i ∈ co.items, 0 < i.quantity) :
    ∀ i ∈ (co.order voucher).items, 0 < i.quantity := by
  intro i hi
  obtain ⟨e, he, rfl⟩ := List.mem_map.1 hi
  exact h e.1 (List.fst_mem_of_mem_zipIdx he)

/-- Under its lock, a new request takes what is left at most. -/
theorem create_returned (h : ReturnsWithin c.before) (hf : c.Faithful ReturnsWithin ReturnsUnderLock) {n : NewReturn} {order : Order}
    (hop : c.op = .createReturnRequest n) (ho : c.before.find Tab.orders n.orderId = some order) {i : OrderItem}
    (hi : i ∈ order.items) : returnedQuantity n.orderId i.id c.after ≤ i.quantity := by
  obtain ⟨call, op, s, o⟩ := c
  dsimp only at hop
  subst hop
  have ho : Database.find s Tab.orders n.orderId = some order := ho
  obtain ⟨order', ho', _, _, hnone, hw⟩ := exec_createReturn hf
  cases Option.some.inj (ho.symm.trans ho')
  obtain ⟨_, ⟨K, s₀, hK, hs₀, hroom⟩, _⟩ := exec_createReturn_checks hf ho
  have hbefore : returnedQuantity n.orderId i.id s ≤ previousQuantity i.id s₀ :=
    ((shrunk_of_others hs₀ hK).returned_le hs₀.1.counted i.id).trans (returned_le_previous hs₀.1.counted n.orderId i.id)
  have hafter : returnedQuantity n.orderId i.id (written o.writes s) =
      (n.row order).takes i.id + returnedQuantity n.orderId i.id s := by
    unfold returnedQuantity
    rw [hw, written_cons, written_nil, rows_insert, AList.insertNew_of_none _ hnone, AList.total_insert _ _ hnone]
    exact congrArg (· + _) (if_pos rfl)
  show returnedQuantity n.orderId i.id (written o.writes s) ≤ i.quantity
  rw [hafter]
  have hselected := hroom i hi
  have hheld : returnedQuantity n.orderId i.id s ≤ i.quantity := h.within _ order ho i hi
  rcases takes_row (h.distinct _ order ho) hi with htakes | htakes <;> rw [htakes] <;> omega

/-- A new request's order has no active one. -/
theorem create_free (hf : c.Faithful ReturnsWithin ReturnsUnderLock) {n : NewReturn} {order : Order}
    (hop : c.op = .createReturnRequest n) (ho : c.before.find Tab.orders n.orderId = some order) {k : Uuid} {r : ReturnRequest}
    (hr : c.before.find Tab.returnRequests k = some r) (hid : r.orderId = n.orderId) : ¬ r.status.active = true := by
  obtain ⟨call, op, s, o⟩ := c
  dsimp only at hop
  subst hop
  obtain ⟨_, _, K, s₀, hK, hs₀, hnone⟩ := exec_createReturn_checks hf ho
  obtain ⟨r₀, h0, hshrinks⟩ := shrunk_of_others hs₀ hK k r hr hid
  intro hactive
  have := hnone k r₀ h0 (hshrinks.orderId.symm.trans hid)
  rw [hshrinks.active hactive] at this
  cases this

/-- **Every commit keeps the requests within their orders.** -/
theorem returnsWithin_commit (h : ReturnsWithin c.before) (hd : DispatchReceived c)
    (hf : c.Faithful ReturnsWithin ReturnsUnderLock) : ReturnsWithin c.after := by
  have hfrom := fun (k : Uuid) (r' : ReturnRequest) (hr' : c.after.find Tab.returnRequests k = some r') =>
    return_shrinks h.counted hd hf hr'
  have hplaced : ∀ {id : Uuid} {order : Order}, c.after.find Tab.orders id = some order →
      (∃ o, c.before.find Tab.orders id = some o ∧ order.items = o.items) ∨ (c.before.find Tab.orders id = none ∧
        (order.items.map fun i => i.id).Nodup ∧ ∀ i ∈ order.items, 0 < i.quantity) := by
    intro id order ho
    rcases order_change hf ho with ⟨o, hbefore, hchange⟩ | ⟨co, voucher, hop, rfl, hnone, rfl⟩
    · exact .inl ⟨o, hbefore, hchange.items⟩
    · refine .inr ⟨hnone, nodup_order_items co voucher, ?_⟩
      obtain ⟨call, op, s, o⟩ := c
      dsimp only at hop
      subst hop
      rcases exec_createOrder hf with hw | ⟨voucher', hp, _⟩
      · have hsame : Database.find s Tab.orders co.orderId = some (co.order voucher) := by
          have := ho
          unfold Commit.after at this
          rwa [hw] at this
        rw [show Database.find s Tab.orders co.orderId = none from hnone] at hsame
        cases hsame
      · exact order_items_positive voucher hp.quantities
  refine ⟨fun k r' hr' => ?_, fun k r' hr' => ?_, fun id order ho => ?_, fun id order ho => ?_, fun id order ho i hi => ?_,
    fun k k' r r' hr hr' hid ha ha' => ?_⟩
  · rcases hfrom k r' hr' with ⟨_, _, _, hcounted⟩ | ⟨_, _, _, _, _, _, _, hcounted⟩ <;> exact hcounted
  · rcases hfrom k r' hr' with ⟨r, hr, hshrinks, _⟩ | ⟨n, order, _, _, _, ho, rfl, _⟩
    · obtain ⟨order, ho⟩ := h.ordered k r hr
      rw [hshrinks.orderId]
      exact order_stays hf ho
    · exact order_stays hf ho
  · rcases hplaced ho with ⟨o, hbefore, hitems⟩ | ⟨_, hnodup, _⟩
    · rw [hitems]
      exact h.distinct id o hbefore
    · exact hnodup
  · rcases hplaced ho with ⟨o, hbefore, hitems⟩ | ⟨_, _, hpos⟩
    · rw [hitems]
      exact h.bought id o hbefore
    · exact hpos
  · rcases hplaced ho with ⟨o, hbefore, hitems⟩ | ⟨hnone, _, hpos⟩
    · rw [hitems] at hi
      by_cases hnew : ∃ n, c.op = .createReturnRequest n ∧ n.orderId = id
      · obtain ⟨n, hop, rfl⟩ := hnew
        exact create_returned h hf hop hbefore hi
      · have hshrunk : Shrunk id c.before c.after := by
          intro k r' hr' hid
          rcases hfrom k r' hr' with ⟨r, hr, hshrinks, _⟩ | ⟨n, _, hop, _, _, _, rfl, _⟩
          · exact ⟨r, hr, hshrinks⟩
          · exact absurd ⟨n, hop, hid⟩ hnew
        exact (hshrunk.returned_le h.counted i.id).trans (h.within id o hbefore i hi)
    · -- no request is of an order that was not there
      have hzero : returnedQuantity id i.id c.after = 0 := by
        unfold returnedQuantity
        rw [AList.total_congr (g := fun _ _ => (0 : ℤ)) fun k r' hr' => if_neg fun hid => ?_]
        · simp [AList.total]
        · rcases hfrom k r' hr' with ⟨r, hr, hshrinks, _⟩ | ⟨n, o, _, _, _, ho', rfl, _⟩
          · obtain ⟨o, ho'⟩ := h.ordered k r hr
            rw [← hshrinks.orderId, hid, hnone] at ho'
            cases ho'
          · rw [show n.orderId = id from hid, hnone] at ho'
            cases ho'
      rw [hzero]
      exact (hpos i hi).le
  · rcases hfrom k r hr with ⟨r₀, h0, hshrinks, _⟩ | ⟨n, o, hop, hn, _, ho, rfl, _⟩
    · rcases hfrom k' r' hr' with ⟨r₀', h0', hshrinks', _⟩ | ⟨n, o, hop, _, _, ho, rfl, _⟩
      · exact h.single k k' r₀ r₀' h0 h0' (hshrinks.orderId.symm.trans (hid.trans hshrinks'.orderId)) (hshrinks.active ha)
          (hshrinks'.active ha')
      · exact absurd (hshrinks.active ha) (create_free hf hop ho h0 (hshrinks.orderId.symm.trans hid))
    · rcases hfrom k' r' hr' with ⟨r₀', h0', hshrinks', _⟩ | ⟨n', _, hop', hn', _⟩
      · exact absurd (hshrinks'.active ha') (create_free hf hop ho h0' (hshrinks'.orderId.symm.trans hid.symm))
      · cases hop.symm.trans hop'
        exact hn.symm.trans hn'

/-- **The rule for the requests**, with what others promise. -/
theorem returns_keeps : Keeps (S := platform cfg) ReturnsWithin ReturnsUnderLock (fun _ => True) DispatchReceived := by
  intro c _ h hf hd
  refine ⟨returnsWithin_commit h hd hf, fun k r' hr' => ?_⟩
  rcases return_shrinks h.counted hd hf hr' with ⟨r, hr, hshrinks, _⟩ | ⟨n, order, hop, _, _, ho, rfl, _⟩
  · exact .inl ⟨r, hr, hshrinks⟩
  · obtain ⟨call, op, s, o⟩ := c
    dsimp only at hop
    subst hop
    exact .inr (exec_createReturn_checks hf ho).1

end Step

/-! ## What goes back on the shelf -/

/-- What the received requests of an order took of an item. -/
def receivedQuantity (orderId orderItemId : Uuid) (s : Db) : ℤ :=
  (s.rows Tab.returnRequests).total fun _ r => if r.orderId = orderId ∧ r.status.received = true then r.takes orderItemId else 0

section Shelf
variable {cfg : Config} {c : Commit cfg} {Inv : Db → Prop} {G : List (LockKey schema) → Db → Db → Prop}

theorem ReturnChange.items_of_received {cfg : Config} {op : Op} {k : Uuid} {r r' : ReturnRequest} (h : ReturnChange cfg op k r r')
    (hr : r.status.received = true) : r'.items = r.items := by
  cases h with
  | received _ _ hs _ _ => rw [hs] at hr; cases hr
  | _ => rfl

theorem received_le (hcounted : ∀ k r, c.after.find Tab.returnRequests k = some r → r.Counted) (hf : c.Faithful Inv G) (id x : Uuid) :
    receivedQuantity id x c.before ≤ receivedQuantity id x c.after := by
  refine AList.total_le_of_elim fun k => ?_
  have hnonneg : 0 ≤ ((c.after.rows Tab.returnRequests).lookup k).elim 0 fun r =>
      if r.orderId = id ∧ r.status.received = true then r.takes x else 0 := by
    cases hk : (c.after.rows Tab.returnRequests).lookup k with
    | none => exact le_rfl
    | some r =>
      rw [Option.elim_some]
      split
      · exact (hcounted k r hk).takes_nonneg
      · exact le_rfl
  cases hb : (c.before.rows Tab.returnRequests).lookup k with
  | none => exact hnonneg
  | some r =>
    rw [Option.elim_some]
    by_cases hr : r.orderId = id ∧ r.status.received = true
    · obtain ⟨r', hr'⟩ := return_stays hf hb
      rcases return_change hf hr' with ⟨r₀, h0, hchange⟩ | ⟨_, _, _, _, hnone, _⟩
      · cases Option.some.inj (hb.symm.trans h0)
        have hreceived := hchange.staysReceived hr.2
        rw [show (c.after.rows Tab.returnRequests).lookup k = some r' from hr', Option.elim_some, if_pos hr,
          if_pos ⟨hchange.orderId.trans hr.1, hreceived⟩, takes_received hr.2, takes_received hreceived,
          hchange.items_of_received hr.2]
      · rw [show c.before.find Tab.returnRequests k = some r from hb] at hnone
        cases hnone
    · rw [if_neg hr]
      exact hnonneg

/-- **What a commit puts back on the shelf** is among what the received requests took. -/
theorem restockedBy_le (h : ReturnsWithin c.before) (h' : ReturnsWithin c.after) (hf : c.Faithful Inv G) (id x : Uuid) :
    receivedQuantity id x c.before + restockedBy id x c ≤ receivedQuantity id x c.after := by
  have hmono := received_le h'.counted hf id x
  by_cases hrc : ∃ rc, c.op = .receiveReturnRequest rc
  · obtain ⟨rc, hop⟩ := hrc
    obtain ⟨call, op, s, o⟩ := c
    dsimp only at hop
    subst hop
    obtain ⟨request, order, hreq, _, hcases⟩ := exec_receiveReturn hf
    have hrow : Database.find s Tab.returnRequests rc.returnRequestId = some request := hreq
    have hquantity : restockedBy id x (⟨call, .receiveReturnRequest rc, s, o⟩ : Commit cfg) =
        if request.status = .approved ∧ request.orderId = id then rc.restocked request x else 0 := by
      unfold restockedBy
      simp only [hrow]
    rw [hquantity]
    rcases hcases with ⟨hst, _⟩ | ⟨hst, _⟩ | ⟨hst, hclassifies, _, hother, refunds, change, hchange, hafter⟩
    · rw [if_neg fun hc => hst hc.1, add_zero]
      exact hmono
    · have hno : ¬ (request.status = .approved ∧ request.orderId = id) := fun hc => by
        rw [hst] at hc
        cases hc.1
      rw [if_neg hno, add_zero]
      exact hmono
    · have hstep := AList.total_step
        (fun (_ : Uuid) (r : ReturnRequest) => if r.orderId = id ∧ r.status.received = true then r.takes x else 0)
        hother
      obtain ⟨hreceived, _, horder⟩ := hchange.status { request with items := request.items.map (rc.classify refunds) }
      have hno : ¬ (request.orderId = id ∧ request.status.received = true) := fun hc => by
        rw [hst] at hc
        cases hc.2
      rw [show (s.rows Tab.returnRequests).lookup rc.returnRequestId = some request from hreq,
        show ((written o.writes s).rows Tab.returnRequests).lookup rc.returnRequestId = _ from hafter, Option.elim_some,
        Option.elim_some, if_neg hno, add_zero] at hstep
      show receivedQuantity id x s + _ ≤ receivedQuantity id x (written o.writes s)
      unfold receivedQuantity
      rw [hstep]
      refine Int.add_le_add_left ?_ _
      by_cases hid : request.orderId = id
      · rw [if_pos ⟨hst, hid⟩, if_pos ⟨horder.trans hid, hreceived⟩]
        exact restocked_le (h.counted _ _ hreq) hclassifies hchange
      · rw [if_neg fun hc => hid hc.2, if_neg fun hc => hid (horder.symm.trans hc.1)]
  · have hzero : restockedBy id x c = 0 := by
      unfold restockedBy
      cases hop : c.op with
      | receiveReturnRequest rc => exact absurd ⟨rc, hop⟩ hrc
      | _ => rfl
    rw [hzero, add_zero]
    exact hmono

theorem restocks_received (hf : c.Faithful Inv G) {k : Uuid} (h : Restocks k c) : ¬ Received k c.before ∧ Received k c.after := by
  obtain ⟨call, op, s, o⟩ := c
  obtain ⟨rc, hop, rfl, v, hv⟩ := h
  dsimp only at hop
  subst hop
  obtain ⟨request, order, hreq, _, hcases⟩ := exec_receiveReturn hf
  have hkept : ∀ {ws : List (Write schema)}, o.writes = ws → (∀ w ∈ ws, w.tab? ≠ some Tab.variants) → False := by
    intro ws hw hno
    refine hv ?_
    show (written o.writes s).find Tab.variants v = s.find Tab.variants v
    rw [hw]
    exact find_written s v hno
  rcases hcases with ⟨_, _, hw⟩ | ⟨_, _, hw⟩ | ⟨hst, _, _, _, refunds, change, hchange, hafter⟩
  · exact (hkept hw fun w hw => nomatch hw).elim
  · refine (hkept hw fun w hw => ?_).elim
    cases List.mem_singleton.1 hw
    simp [Write.tab?]
  · refine ⟨?_, _, hafter, (hchange.status _).1⟩
    rintro ⟨r, hr, hreceived⟩
    cases Option.some.inj (hreq.symm.trans hr)
    rw [hst] at hreceived
    cases hreceived

end Shelf

/-! ## By item or by variant -/

section Lines
variable {rc : Receipt} {order : Order}

/-- Only one item has the id. -/
theorem sum_filter_of_nodup {items : List OrderItem} (h : (items.map fun i => i.id).Nodup) (k x : Uuid) (q : ℤ) :
    ((items.filter fun i => i.variantId == k).map fun i => if x = i.id then q else 0).sum =
      match items.find? fun i => i.id == x with
      | none => 0
      | some i => if i.variantId = k then q else 0 := by
  induction items with
  | nil => rfl
  | cons a items ih =>
    rw [List.map_cons, List.nodup_cons] at h
    have hrest := ih h.2
    rw [List.filter_cons, List.find?_cons]
    by_cases hx : a.id = x
    · subst hx
      have hnone : items.find? (fun i => i.id == a.id) = none :=
        List.find?_eq_none.2 fun j hj heq => h.1 (List.mem_map.2 ⟨j, hj, beq_iff_eq.1 heq⟩)
      rw [hnone] at hrest
      by_cases hk : a.variantId = k
      · simp [hk, hrest]
      · simp [hk, hrest]
    · have hxa : x ≠ a.id := Ne.symm hx
      rw [show (a.id == x) = false from beq_eq_false_iff_ne.2 hx]
      by_cases hk : a.variantId = k
      · simpa [hk, hxa] using hrest
      · simpa [hk] using hrest

/-- **The stock a receipt brings back**, by variant and by item of the order. -/
theorem lineSum_restock (h : (order.items.map fun i => i.id).Nodup) (request : ReturnRequest) (k : Uuid) :
    lineSum Prod.fst Prod.snd (request.items.filterMap (rc.restockLine order)) k =
      ((order.items.filter fun i => i.variantId == k).map fun i => rc.restocked request i.id).sum := by
  unfold Receipt.restocked
  induction request.items with
  | nil => simp [lineSum]
  | cons a items ih =>
    have hone := sum_filter_of_nodup h k a.orderItemId a.requestedQuantity
    have hsplit : ((order.items.filter fun i => i.variantId == k).map fun i =>
        (((a :: items).filter fun j => j.orderItemId == i.id && rc.disposition j.id == some .restock).map
          fun j => j.requestedQuantity).sum).sum =
        ((order.items.filter fun i => i.variantId == k).map fun i =>
          if a.orderItemId = i.id ∧ rc.disposition a.id = some .restock then a.requestedQuantity else 0).sum +
        ((order.items.filter fun i => i.variantId == k).map fun i =>
          ((items.filter fun j => j.orderItemId == i.id && rc.disposition j.id == some .restock).map
            fun j => j.requestedQuantity).sum).sum := by
      rw [← List.sum_map_add]
      congr 1
      refine List.map_congr_left fun i _ => ?_
      rw [List.filter_cons]
      by_cases hi : a.orderItemId = i.id ∧ rc.disposition a.id = some .restock
      · rw [if_pos hi, if_pos (by simp [hi]), List.map_cons, List.sum_cons]
      · rw [if_neg hi, if_neg (by simpa using hi), zero_add]
    rw [hsplit, ← ih]
    by_cases hd : rc.disposition a.id = some .restock
    · simp only [hd, and_true]
      rw [hone]
      have hline : rc.restockLine order a =
          (order.items.find? fun i => i.id == a.orderItemId).map fun i => (i.variantId, a.requestedQuantity) := if_pos hd
      cases hfind : order.items.find? fun i => i.id == a.orderItemId with
      | none => rw [List.filterMap_cons_none (by rw [hline, hfind]; rfl), zero_add]
      | some i =>
        rw [List.filterMap_cons_some (by rw [hline, hfind]; rfl)]
        unfold lineSum
        rw [List.filter_cons]
        by_cases hk : i.variantId = k
        · simp [hk]
        · simp [hk]
    · have hline : rc.restockLine order a = none := if_neg hd
      rw [List.filterMap_cons_none hline]
      simp [hd]

end Lines

/-- **Whatever the receipt of a request adds to a stock** it puts back of the order's items. -/
theorem stock_restocked {cfg : Config} {c : Commit cfg} (hf : c.Faithful StockKept fun _ => VariantsFixed) (h : ReturnsWithin c.before)
    {rc : Receipt} (hop : c.op = .receiveReturnRequest rc) {request : ReturnRequest} {order : Order}
    (hr : c.before.find Tab.returnRequests rc.returnRequestId = some request)
    (ho : c.before.find Tab.orders request.orderId = some order) {k : Uuid} {v w : Variant}
    (hv : c.before.find Tab.variants k = some v) (hw : c.after.find Tab.variants k = some w) :
    w.stockQuantity = v.stockQuantity +
      ((order.items.filter fun i => i.variantId == k).map fun i => restockedBy request.orderId i.id c).sum := by
  obtain ⟨call, op, s, o⟩ := c
  dsimp only at hop
  subst hop
  have hrow : Database.find s Tab.returnRequests rc.returnRequestId = some request := hr
  have hquantity : ∀ x, restockedBy request.orderId x (⟨call, .receiveReturnRequest rc, s, o⟩ : Commit cfg) =
      if request.status = .approved then rc.restocked request x else 0 := by
    intro x
    unfold restockedBy
    simp only [hrow, and_true]
  obtain ⟨request', order', hreq, ho', hcases⟩ := exec_receiveReturn hf
  cases Option.some.inj (hr.symm.trans hreq)
  cases Option.some.inj (ho.symm.trans ho')
  have hkept : ∀ {ws : List (Write schema)}, o.writes = ws → (∀ u ∈ ws, u.tab? ≠ some Tab.variants) → w = v := by
    intro ws hws hno
    have hsame : (written o.writes s).find Tab.variants k = s.find Tab.variants k := by
      rw [hws]
      exact find_written s k hno
    exact (Option.some.inj (hv.symm.trans (hsame.symm.trans hw))).symm
  rcases hcases with ⟨hst, _, hws⟩ | ⟨hst, _, hws⟩ | ⟨hst, _, hback, _⟩
  · rw [hkept hws fun u hu => nomatch hu]
    simp [hquantity, hst]
  · rw [hkept hws fun u hu => by cases List.mem_singleton.1 hu; simp [Write.tab?]]
    simp [hquantity, hst]
  · have hafter := hback (variantsStay s) k
    have hv' : Database.find s Tab.variants k = some v := hv
    rw [hv', Option.map_some, foldLines_restock, lineSum_restock (h.distinct _ order ho)] at hafter
    cases Option.some.inj (hw.symm.trans hafter)
    simp [Variant.restock, hquantity, hst]

/-! ## Every run -/

theorem Shelved.returnsWithin {s : Db} (h : Shelved s) : ReturnsWithin s := by
  have ho : ∀ id, s.find Tab.orders id = none := fun id => by unfold Database.find; rw [h.orders]; rfl
  have hr : ∀ k, s.find Tab.returnRequests k = none := fun k => by unfold Database.find; rw [h.returnRequests]; rfl
  refine ⟨fun k r h => ?_, fun k r h => ?_, fun id o h => ?_, fun id o h => ?_, fun id o h => ?_, fun k k' r r' h => ?_⟩
  · rw [hr] at h; cases h
  · rw [hr] at h; cases h
  · rw [ho] at h; cases h
  · rw [ho] at h; cases h
  · rw [ho] at h; cases h
  · rw [hr] at h; cases h

/-- **No more comes back than was bought.**  In every state of every run from an opened shop, whatever interleaves, the requests
of an order take no more of an item than was bought of it, and at most one of them is active; a request adds to stock at most
once, it adds what it puts back of the order's items, and all that was put back of an item in the run was bought. -/
theorem returns_within_purchase (cfg : Config) (e : Execution (platform cfg) Shelved fun _ => True) :
    (∀ s ∈ e.history, ∀ id order, s.find Tab.orders id = some order → ∀ i ∈ order.items,
      ((s.rows Tab.returnRequests).total fun _ r => if r.orderId = id then r.takes i.id else 0) ≤ i.quantity) ∧
    (∀ s ∈ e.history, ∀ k k' r r', s.find Tab.returnRequests k = some r → s.find Tab.returnRequests k' = some r' →
      r.orderId = r'.orderId → r.status ≠ .rejected → r.status ≠ .completed → r'.status ≠ .rejected → r'.status ≠ .completed →
      k = k') ∧
    (∀ k, e.events.Pairwise fun a b => ∀ c d : Commit cfg, a = .commit c → b = .commit d → Restocks k c → ¬ Restocks k d) ∧
    (∀ c : Commit cfg, .commit c ∈ e.events → ∀ rc request order, c.op = .receiveReturnRequest rc →
      c.before.find Tab.returnRequests rc.returnRequestId = some request → c.before.find Tab.orders request.orderId = some order →
      ∀ k v w, c.before.find Tab.variants k = some v → c.after.find Tab.variants k = some w → w.stockQuantity = v.stockQuantity +
        ((order.items.filter fun i => i.variantId == k).map fun i => restockedBy request.orderId i.id c).sum) ∧
    ∀ id order, e.final.db.find Tab.orders id = some order → ∀ i ∈ order.items, tally (restockedBy id i.id) e.events ≤ i.quantity := by
  have hstart : ∀ s, Shelved s → ReturnsWithin s := fun _ => Shelved.returnsWithin
  have hcommit := e.commits returns_keeps hstart (dispatch_received e)
  have hinv : ∀ s ∈ e.history, ReturnsWithin s := fun s hs => e.invariant returns_keeps hstart (dispatch_received e) hs
  have hactive : ∀ {status : ReturnStatus}, status ≠ .rejected → status ≠ .completed → status.active = true := by
    intro status h h'
    unfold ReturnStatus.active
    simp [h, h']
  refine ⟨fun s hs => (hinv s hs).within, fun s hs k k' r r' hr hr' hid h1 h2 h3 h4 => ?_, fun k => ?_,
    fun c hc rc request order hop hr ho k v w hv hw => ?_, fun id order ho i hi => ?_⟩
  · exact (hinv s hs).single k k' r r' hr hr' hid (hactive h1 h2) (hactive h3 h4)
  · refine (e.run.once (P := Received k) (fun c hc h => received_after (hcommit c hc).2.1 h) fun c hc h => ?_).2
    exact restocks_received (hcommit c hc).2.1 h
  · have hstock := e.commits stock_keeps (fun _ h => h.stockKept) (fun _ _ => trivial) c hc
    exact stock_restocked hstock.2.1 (hcommit c hc).1 hop hr ho hv hw
  · have hsum := e.run.tally_le (f := restockedBy id i.id) (m := receivedQuantity id i.id) fun c hc =>
      restockedBy_le (hcommit c hc).1 (hcommit c hc).2.2.1 (hcommit c hc).2.1 id i.id
    have hnone : receivedQuantity id i.id e.init = 0 := by
      unfold receivedQuantity
      rw [e.starts.returnRequests]
      rfl
    have hend := hinv _ e.final_mem_history
    have hreceived : receivedQuantity id i.id e.final.db ≤ returnedQuantity id i.id e.final.db := by
      refine List.sum_le_sum fun x hx => ?_
      have hnonneg := (hend.counted x.1 x.2 (AList.mem_lookup_iff.2 hx)).takes_nonneg (x := i.id)
      dsimp only
      split
      · rename_i hc
        rw [if_pos hc.1]
      · split
        · exact hnonneg
        · exact le_rfl
    have hbought := hend.within id order ho i hi
    omega

/-! ### A sale that comes back -/

/-- A shop whose tables have been altered: returns can be asked for, and paid back by hand. -/
def alteredConfig : Config := { sampleConfig with columns := ⟨true, 21, Nat.le_succ 20⟩ }

/-- A call as session `i`, in so many steps. -/
def called {cfg : Config} (i n : ℕ) (c : Call) : List (Cmd (platform cfg)) := .arrive c :: steps i n

/-- Sold for cash and delivered, as sessions 0 to 7. -/
def soldAndDelivered : List (Cmd (platform alteredConfig)) :=
  sold 0 1 7 ++ called 1 1 (askForPayment 10 .cod 2) ++ steps 2 2 ++ steps 1 4 ++ steps 3 3 ++ steps 1 3 ++
    moved 4 1 .confirmed ++ moved 5 1 .processing ++ moved 6 1 .shipping ++ moved 7 1 .delivered

/-- Sent back, put back on the shelf and paid back by hand, as sessions 8 to 11. -/
def sentBack : List (Cmd (platform alteredConfig)) :=
  called 8 3 (.createReturnRequest
      { id := 30, itemId := .refl _, orderId := 1, userId := 1, reason := "Chật", selected := [(0, 1)], now := 3 }) ++
    called 9 3 (.reviewReturnRequest 30 9 .approved "") ++
    called 10 3 (.receiveReturnRequest { returnRequestId := 30, receivedBy := 9, items := [(0, .restock)], now := 4 }) ++
    called 11 3 (.completeManualReturnRefund
      { returnRequestId := 30, completedBy := 9, amount := 10000000, transactionReference := "FT1", note := none
        evidenceUrls := ["https://balii.vn/ft1.png"], now := 5 })

def saleReturned : Execution (platform alteredConfig) Shelved fun _ => True :=
  .ofSchedule openedShop (soldAndDelivered ++ sentBack) openedShop_shelved fun _ _ => trivial

/-- The one piece is back, and it was bought. -/
theorem saleReturned_within : ∃ order, saleReturned.final.db.find Tab.orders 1 = some order ∧ ∃ i ∈ order.items,
    ((saleReturned.final.db.rows Tab.returnRequests).total fun _ r => if r.orderId = 1 then r.takes i.id else 0) = 1 ∧
      ((saleReturned.final.db.rows Tab.returnRequests).total fun _ r => if r.orderId = 1 then r.takes i.id else 0) ≤ i.quantity := by
  have horder : (saleReturned.final.db.find Tab.orders 1).any (fun o => o.items.any fun i =>
      ((saleReturned.final.db.rows Tab.returnRequests).total fun _ r => if r.orderId = 1 then r.takes i.id else 0) == 1) = true := by
    decide +kernel
  obtain ⟨order, ho, hany⟩ := (Option.any_eq_true _ _).1 horder
  obtain ⟨i, hi, hone⟩ := List.any_eq_true.1 hany
  exact ⟨order, ho, i, hi, beq_iff_eq.1 hone,
    (returns_within_purchase alteredConfig saleReturned).1 _ saleReturned.final_mem_history 1 order ho i hi⟩

end Balii
