import Balii.Order.ReturnCommits
/-!
# Order.Changes — what one commit makes of one order, and of one return request

Said once for all transactions: every order and every request after a commit is one from before with one of a few changes,
or a new one.  Each change names the transaction that makes it and what that found.
-/
namespace Balii

open Rowdb Tx Sql System

/-! ## Return requests -/

/-- **What one transaction can make of one request**, with what it found in it. -/
inductive ReturnChange (cfg : Config) (op : Op) (k : Uuid) (r : ReturnRequest) : ReturnRequest → Prop
  | kept : ReturnChange cfg op k r r
  | closed {id payment status now} (h : op = .updatePaymentStatus id payment status now) (hid : r.orderId = id)
      (hr : r.awaitsRefund = true) : ReturnChange cfg op k r (r.complete now)
  | reviewed {reviewedBy decision note} (h : op = .reviewReturnRequest k reviewedBy decision note) (hr : r.status = .pending) :
      ReturnChange cfg op k r { r with
        status := decision.status, adminNote := some (customerMessage decision note), reviewedBy := some reviewedBy }
  | toManual {rc} (h : op = .receiveReturnRequest rc) (hk : rc.returnRequestId = k) (hr : r.status = .refundFailed)
      (hfits : cfg.holdsStatus .manualRefundPending = true) :
      ReturnChange cfg op k r r.toManual
  | received {rc refunds change} (h : op = .receiveReturnRequest rc) (hk : rc.returnRequestId = k) (hr : r.status = .approved)
      (hi : rc.classifies r.items = true) (hc : Receipt.Closes cfg rc change) :
      ReturnChange cfg op k r (change { r with items := r.items.map (rc.classify refunds) })
  | dispatched {paymentId reused now} (h : op = .recordDispatch k paymentId reused now) (hr : r.status ≠ .completed) :
      ReturnChange cfg op k r { r with
        status := .refundPending, refundStatus := some (if reused then .processingReused else .processing)
        refundPaymentId := some paymentId, refundWorkflowStartedAt := some (r.refundWorkflowStartedAt.getD now) }
  | dispatchFailed (h : op = .recordDispatchFailure k) (hr : r.status ≠ .completed) :
      ReturnChange cfg op k r { r with status := .refundFailed, refundStatus := some .dispatchFailed }
  | failed {now} (h : op = .updateReturnRefundResult k .failed now) (hr : r.awaitsRefund = true) :
      ReturnChange cfg op k r { r with status := .refundFailed, refundStatus := some .providerFailed }
  | completed {now} (h : op = .updateReturnRefundResult k .completed now) (hr : r.awaitsRefund = true) :
      ReturnChange cfg op k r { r with status := .completed, refundStatus := some .completed, completedAt := some now }
  | confirmed {m} (h : op = .completeManualReturnRefund m) (hk : m.returnRequestId = k) (hr : r.status = .manualRefundPending)
      (ha : roundMoney m.amount = r.approvedRefundAmount.getD 0) : ReturnChange cfg op k r (r.manuallyRefunded m)

theorem ReturnChange.orderId {cfg : Config} {op : Op} {k : Uuid} {r r' : ReturnRequest} (h : ReturnChange cfg op k r r') :
    r'.orderId = r.orderId := by
  cases h with
  | received h hk hr hi hc => cases hc <;> rfl
  | _ => rfl

theorem ReturnChange.items {cfg : Config} {op : Op} {k : Uuid} {r r' : ReturnRequest} (h : ReturnChange cfg op k r r') :
    ∀ i ∈ r'.items, ∃ j ∈ r.items, i.requestedQuantity = j.requestedQuantity := by
  cases h with
  | @received rc refunds change h hk hr hi hc =>
    intro i hi
    have hmem : i ∈ r.items.map (rc.classify refunds) := by cases hc <;> exact hi
    obtain ⟨j, hj, rfl⟩ := List.mem_map.1 hmem
    exact ⟨j, hj, classify_quantity rc refunds j⟩
  | _ => exact fun i hi => ⟨i, hi, rfl⟩

section Rows
variable {s : Db}

theorem find_updateReturn {id k : Uuid} {f : ReturnRequest → ReturnRequest} {r' : ReturnRequest}
    (h : (written [.update (D := schema) Tab.returnRequests id f] s).find Tab.returnRequests k = some r') :
    ∃ r, s.find Tab.returnRequests k = some r ∧ ((k = id ∧ r' = f r) ∨ r' = r) := by
  rw [written_cons, written_nil, find_update] at h
  split at h
  · rename_i hk
    obtain ⟨r, hr, rfl⟩ := Option.map_eq_some_iff.1 h
    exact ⟨r, hr, .inl ⟨hk, rfl⟩⟩
  · exact ⟨r', h, .inr rfl⟩

/-- The request `ReturnPaid` changes, and the others. -/
theorem ReturnPaid.find {b : Db} {id : Uuid} {request : ReturnRequest} {change : ReturnRequest → ReturnRequest} {now : Time}
    (h : ReturnPaid s b id request change now) (hr : s.find Tab.returnRequests id = some request) {k : Uuid} {r' : ReturnRequest}
    (hb : b.find Tab.returnRequests k = some r') :
    ∃ r, s.find Tab.returnRequests k = some r ∧ ((k = id ∧ r = request ∧ r' = change r) ∨ r' = r) := by
  rw [Database.find_of_modify (D := schema) h.returns] at hb
  by_cases hk : k = id
  · subst hk
    rw [if_pos rfl, hr] at hb
    cases hb
    exact ⟨request, hr, .inl ⟨rfl, rfl, rfl⟩⟩
  · rw [if_neg hk] at hb
    exact ⟨r', hb, .inr rfl⟩

end Rows

variable {cfg : Config} {c : Commit cfg} {Inv : Db → Prop} {G : List (LockKey schema) → Db → Db → Prop}

/-- **Every request after a commit is a request from before, changed as its transaction may**, or a new one for a delivered
order. -/
theorem return_change (hf : c.Faithful Inv G) {k : Uuid} {r' : ReturnRequest} (hr' : c.after.find Tab.returnRequests k = some r') :
    (∃ r, c.before.find Tab.returnRequests k = some r ∧ ReturnChange cfg c.op k r r') ∨
      ∃ n order, c.op = .createReturnRequest n ∧ n.id = k ∧ c.before.find Tab.returnRequests k = none ∧
        c.before.find Tab.orders n.orderId = some order ∧ order.status = .delivered ∧ r' = n.row order ∧
        ∀ i ∈ r'.items, 0 < i.requestedQuantity := by
  have hsame : Tab.returnRequests ∉ c.op.tables → ∃ r, c.before.find Tab.returnRequests k = some r ∧ ReturnChange cfg c.op k r r' :=
    fun ht => ⟨r', (find_of_notMem hf ht k).symm.trans hr', .kept⟩
  obtain ⟨call, op, s, o⟩ := c
  change (written o.writes s).find Tab.returnRequests k = some r' at hr'
  cases op with
  | updatePaymentStatus id payment status now =>
    obtain ⟨_, _, _, _, hret⟩ := exec_updatePaymentStatus hf
    rcases hret k with heq | ⟨r, hr, ⟨hid, hawaits⟩, hb⟩
    · exact .inl ⟨r', heq ▸ hr', .kept⟩
    · cases Option.some.inj (hr'.symm.trans hb)
      exact .inl ⟨r, hr, .closed rfl hid hawaits⟩
  | createReturnRequest n =>
    obtain ⟨order, ho, hst, hq, hnone, hw⟩ := exec_createReturn hf
    rw [hw, written_cons, written_nil, find_insert] at hr'
    split at hr'
    · rename_i hk
      subst hk
      rw [hnone] at hr'
      cases hr'
      exact .inr ⟨n, order, rfl, rfl, hnone, ho, hst, rfl, hq⟩
    · exact .inl ⟨r', hr', .kept⟩
  | reviewReturnRequest id reviewedBy decision note =>
    obtain ⟨r₀, hr₀, hpend, hw⟩ := exec_reviewReturn hf
    rw [hw] at hr'
    obtain ⟨r, hr, ⟨rfl, rfl⟩ | rfl⟩ := find_updateReturn hr'
    · cases Option.some.inj (hr₀.symm.trans hr)
      exact .inl ⟨r₀, hr₀, .reviewed rfl hpend⟩
    · exact .inl ⟨r', hr, .kept⟩
  | receiveReturnRequest rc =>
    obtain ⟨request, _, hreq, _, hcases⟩ := exec_receiveReturn hf
    rcases hcases with ⟨_, _, hw⟩ | ⟨hst, hfits, hw⟩ | ⟨hst, hclassifies, _, hother, refunds, change, hchange, hafter⟩
    · rw [hw] at hr'
      exact .inl ⟨r', hr', .kept⟩
    · rw [hw] at hr'
      obtain ⟨r, hr, ⟨rfl, rfl⟩ | rfl⟩ := find_updateReturn hr'
      · cases Option.some.inj (hreq.symm.trans hr)
        exact .inl ⟨request, hreq, .toManual rfl rfl hst hfits⟩
      · exact .inl ⟨r', hr, .kept⟩
    · by_cases hk : k = rc.returnRequestId
      · subst hk
        cases Option.some.inj (hr'.symm.trans hafter)
        exact .inl ⟨request, hreq, .received rfl rfl hst hclassifies hchange⟩
      · rw [hother k hk] at hr'
        exact .inl ⟨r', hr', .kept⟩
  | recordDispatch id paymentId reused now =>
    rcases exec_unit_updateWhere hf with hw | ⟨r₀, hr₀, hst, hw⟩
    · rw [hw] at hr'
      exact .inl ⟨r', hr', .kept⟩
    · rw [hw] at hr'
      obtain ⟨r, hr, ⟨rfl, rfl⟩ | rfl⟩ := find_updateReturn hr'
      · cases Option.some.inj (hr₀.symm.trans hr)
        exact .inl ⟨r₀, hr₀, .dispatched rfl (by simpa using hst)⟩
      · exact .inl ⟨r', hr, .kept⟩
  | recordDispatchFailure id =>
    rcases exec_unit_updateWhere hf with hw | ⟨r₀, hr₀, hst, hw⟩
    · rw [hw] at hr'
      exact .inl ⟨r', hr', .kept⟩
    · rw [hw] at hr'
      obtain ⟨r, hr, ⟨rfl, rfl⟩ | rfl⟩ := find_updateReturn hr'
      · cases Option.some.inj (hr₀.symm.trans hr)
        exact .inl ⟨r₀, hr₀, .dispatchFailed rfl (by simpa using hst)⟩
      · exact .inl ⟨r', hr, .kept⟩
  | updateReturnRefundResult id result now =>
    obtain ⟨request, _, hreq, _, ⟨_, hw⟩ | ⟨hawaits, hp⟩⟩ := exec_updateReturnRefundResult hf
    · rw [hw] at hr'
      exact .inl ⟨r', hr', .kept⟩
    · obtain ⟨r, hr, ⟨rfl, rfl, rfl⟩ | rfl⟩ := hp.find hreq hr'
      · cases result with
        | completed => exact .inl ⟨r, hr, .completed rfl hawaits⟩
        | failed => exact .inl ⟨r, hr, .failed rfl hawaits⟩
      · exact .inl ⟨r', hr, .kept⟩
  | completeManualReturnRefund m =>
    obtain ⟨request, _, hreq, _, ⟨_, hw⟩ | ⟨hst, hamount, hp⟩⟩ := exec_completeManual hf
    · rw [hw] at hr'
      exact .inl ⟨r', hr', .kept⟩
    · obtain ⟨r, hr, ⟨rfl, rfl, rfl⟩ | rfl⟩ := hp.find hreq hr'
      · exact .inl ⟨r, hr, .confirmed rfl rfl hst hamount⟩
      · exact .inl ⟨r', hr, .kept⟩
  | _ => exact .inl (hsame (by simp [Op.tables, cancellationTables]))

theorem return_stays (hf : c.Faithful Inv G) {k : Uuid} {r : ReturnRequest} (hr : c.before.find Tab.returnRequests k = some r) :
    ∃ r', c.after.find Tab.returnRequests k = some r' := by
  have hsame : Tab.returnRequests ∉ c.op.tables → ∃ r', c.after.find Tab.returnRequests k = some r' :=
    fun ht => ⟨r, (find_of_notMem hf ht k).trans hr⟩
  have hrows : ∀ {id : Uuid} {f : ReturnRequest → ReturnRequest},
      c.after.rows Tab.returnRequests = (c.before.rows Tab.returnRequests).modify id f →
      ∃ r', c.after.find Tab.returnRequests k = some r' := by
    intro id f h
    rw [Database.find_of_modify (D := schema) h, hr]
    split
    · exact ⟨_, rfl⟩
    · exact ⟨r, rfl⟩
  have hnil : c.out.writes = [] → ∃ r', c.after.find Tab.returnRequests k = some r' := fun hw => by
    rw [after_of_nil hw]
    exact ⟨r, hr⟩
  have hupdate : ∀ {id : Uuid} {f : ReturnRequest → ReturnRequest}, c.out.writes = [.update (D := schema) Tab.returnRequests id f] →
      ∃ r', c.after.find Tab.returnRequests k = some r' := by
    intro id f hw
    refine @hrows id f ?_
    unfold Commit.after
    rw [hw, applyAll_cons, applyAll_nil]
    exact rows_update ..
  obtain ⟨call, op, s, out⟩ := c
  cases op with
  | updatePaymentStatus id payment status now =>
    obtain ⟨_, _, _, _, hret⟩ := exec_updatePaymentStatus hf
    rcases hret k with heq | ⟨_, _, _, hb⟩
    · exact ⟨r, heq.trans hr⟩
    · exact ⟨_, hb⟩
  | createReturnRequest n =>
    obtain ⟨order, _, _, _, _, hw⟩ := exec_createReturn hf
    change ∃ r', (written out.writes s).find Tab.returnRequests k = some r'
    rw [hw, written_cons, written_nil, find_insert]
    split
    · exact ⟨_, rfl⟩
    · exact ⟨r, hr⟩
  | reviewReturnRequest id reviewedBy decision note =>
    obtain ⟨_, _, _, hw⟩ := exec_reviewReturn hf
    exact hupdate hw
  | receiveReturnRequest rc =>
    obtain ⟨request, _, _, _, ⟨_, _, hw⟩ | ⟨_, _, hw⟩ | ⟨_, _, _, hother, _, _, _, hafter⟩⟩ := exec_receiveReturn hf
    · exact hnil hw
    · exact hupdate hw
    · by_cases hk : k = rc.returnRequestId
      · exact ⟨_, hk ▸ hafter⟩
      · exact ⟨r, (hother k hk).trans hr⟩
  | recordDispatch id paymentId reused now =>
    rcases exec_unit_updateWhere hf with hw | ⟨_, _, _, hw⟩
    · exact hnil hw
    · exact hupdate hw
  | recordDispatchFailure id =>
    rcases exec_unit_updateWhere hf with hw | ⟨_, _, _, hw⟩
    · exact hnil hw
    · exact hupdate hw
  | updateReturnRefundResult id result now =>
    obtain ⟨_, _, _, _, ⟨_, hw⟩ | ⟨_, hp⟩⟩ := exec_updateReturnRefundResult hf
    · exact hnil hw
    · exact hrows hp.returns
  | completeManualReturnRefund m =>
    obtain ⟨_, _, _, _, ⟨_, hw⟩ | ⟨_, _, hp⟩⟩ := exec_completeManual hf
    · exact hnil hw
    · exact hrows hp.returns
  | _ => exact hsame (by simp [Op.tables, cancellationTables])

/-! ## Orders -/

/-- **What one transaction can make of one order**: it moves on along the table with all that moves along, or is refunded
with a return. -/
inductive OrderChange (R : List (LockKey schema) → Db → Db → Prop) (s b : Db) (id : Uuid) (o : Order) : Order → Prop
  | kept : OrderChange R s b id o o
  | moved {status now} (hs : status ∈ o.status.next) (along : MovesAlong R s b id o status) :
      OrderChange R s b id o (o.moveTo status (status.inventory o.inventoryState) now)
  | refunded {k request now} (hr : s.find Tab.returnRequests k = some request) (ho : request.orderId = id) :
      OrderChange R s b id o { o with status := .refunded, updatedAt := now }

/-- An order after a row of the table changed. -/
theorem find_modified {s b : Db} {id k : Uuid} {f : Order → Order} (h : b.rows Tab.orders = (s.rows Tab.orders).modify id f)
    {o' : Order} (ho' : b.find Tab.orders k = some o') :
    ∃ o, s.find Tab.orders k = some o ∧ ((k = id ∧ o' = f o) ∨ o' = o) := by
  rw [Database.find_of_modify (D := schema) h] at ho'
  split at ho'
  · rename_i hk
    obtain ⟨o, ho, rfl⟩ := Option.map_eq_some_iff.1 ho'
    exact ⟨o, ho, .inl ⟨hk, rfl⟩⟩
  · exact ⟨o', ho', .inr rfl⟩

theorem orderChange_of_moved {R : List (LockKey schema) → Db → Db → Prop} {To : OrderStatus → Prop} {s b : Db} {id k : Uuid}
    {order o' : Order} {now : Time} (ho : s.find Tab.orders id = some order) (hm : OrderMoved R To s b id order now)
    (ho' : b.find Tab.orders k = some o') :
    ∃ o, s.find Tab.orders k = some o ∧ OrderChange R s b k o o' := by
  rcases hm with ⟨hrows, _⟩ | ⟨status, hmem, _, horders, halong⟩
  · rw [Database.find_of_rows (D := schema) hrows] at ho'
    exact ⟨o', ho', .kept⟩
  · obtain ⟨o, hso, ⟨rfl, rfl⟩ | rfl⟩ := find_modified horders ho'
    · cases Option.some.inj (ho.symm.trans hso)
      exact ⟨order, ho, .moved hmem halong⟩
    · exact ⟨o', hso, .kept⟩

/-- A return that is paid back leaves the other orders. -/
theorem find_of_returnPaid {s b : Db} {id k : Uuid} {request : ReturnRequest} {change : ReturnRequest → ReturnRequest} {now : Time}
    (hp : ReturnPaid s b id request change now) {o : Order} (ho : s.find Tab.orders k = some o) (hk : k ≠ request.orderId) :
    b.find Tab.orders k = some o := by
  rcases hp.orders with hrows | hrows
  · exact (Database.find_of_rows (D := schema) hrows k).trans ho
  · rw [Database.find_of_modify (D := schema) hrows, if_neg hk]
    exact ho

theorem orderChange_of_paid {R : List (LockKey schema) → Db → Db → Prop} {s b : Db} {id k : Uuid} {request : ReturnRequest}
    {change : ReturnRequest → ReturnRequest} {now : Time} {o' : Order} (hr : s.find Tab.returnRequests id = some request)
    (hp : ReturnPaid s b id request change now) (ho' : b.find Tab.orders k = some o') :
    ∃ o, s.find Tab.orders k = some o ∧ OrderChange R s b k o o' := by
  rcases hp.orders with hrows | hrows
  · rw [Database.find_of_rows (D := schema) hrows] at ho'
    exact ⟨o', ho', .kept⟩
  · obtain ⟨o, hso, ⟨rfl, rfl⟩ | rfl⟩ := find_modified hrows ho'
    · exact ⟨o, hso, .refunded hr rfl⟩
    · exact ⟨o', hso, .kept⟩

/-- **Every order after a commit is an order from before, changed as an order may be**, or the one a checkout placed. -/
theorem order_change (hf : c.Faithful Inv G) {k : Uuid} {o' : Order} (ho' : c.after.find Tab.orders k = some o') :
    (∃ o, c.before.find Tab.orders k = some o ∧ OrderChange (Rely (S := platform cfg) Inv G) c.before c.after k o o') ∨
      ∃ co voucher, c.op = .createOrder co ∧ co.orderId = k ∧ c.before.find Tab.orders k = none ∧ o' = co.order voucher := by
  have hsame : Tab.orders ∉ c.op.tables → ∃ o, c.before.find Tab.orders k = some o ∧
      OrderChange (Rely (S := platform cfg) Inv G) c.before c.after k o o' :=
    fun ht => ⟨o', (find_of_notMem hf ht k).symm.trans ho', .kept⟩
  have hnil : c.out.writes = [] → ∃ o, c.before.find Tab.orders k = some o ∧
      OrderChange (Rely (S := platform cfg) Inv G) c.before c.after k o o' := fun hw => by
    rw [after_of_nil hw] at ho'
    exact ⟨o', ho', .kept⟩
  obtain ⟨call, op, s, o⟩ := c
  cases op with
  | createOrder co =>
    rcases exec_createOrder hf with hw | ⟨voucher, hp, _⟩
    · exact .inl (hnil hw)
    · have hfind := hp.find_orders k
      change (written o.writes s).find Tab.orders k = some o' at ho'
      rw [hfind] at ho'
      split at ho'
      · rename_i hk
        subst hk
        cases ho'
        exact .inr ⟨co, voucher, rfl, rfl, hp.fresh, rfl⟩
      · exact .inl ⟨o', ho', .kept⟩
  | updatePaymentStatus id payment status now =>
    obtain ⟨order, ho, _, hm, _⟩ := exec_updatePaymentStatus hf
    exact .inl (orderChange_of_moved ho hm ho')
  | updateOrderStatus id status note now =>
    obtain ⟨order, ho, _, hm⟩ := exec_updateOrderStatus hf
    exact .inl (orderChange_of_moved ho hm ho')
  | updateReturnRefundResult id result now =>
    obtain ⟨request, _, hreq, _, ⟨_, hw⟩ | ⟨_, hp⟩⟩ := exec_updateReturnRefundResult hf
    · exact .inl (hnil hw)
    · exact .inl (orderChange_of_paid hreq hp ho')
  | completeManualReturnRefund m =>
    obtain ⟨request, _, hreq, _, ⟨_, hw⟩ | ⟨_, _, hp⟩⟩ := exec_completeManual hf
    · exact .inl (hnil hw)
    · exact .inl (orderChange_of_paid hreq hp ho')
  | _ => exact .inl (hsame (by simp [Op.tables]))

theorem order_stays (hf : c.Faithful Inv G) {k : Uuid} {o : Order} (ho : c.before.find Tab.orders k = some o) :
    ∃ o', c.after.find Tab.orders k = some o' := by
  have hsame : Tab.orders ∉ c.op.tables → ∃ o', c.after.find Tab.orders k = some o' :=
    fun ht => ⟨o, (find_of_notMem hf ht k).trans ho⟩
  have hkept : c.after.rows Tab.orders = c.before.rows Tab.orders → ∃ o', c.after.find Tab.orders k = some o' :=
    fun h => ⟨o, (Database.find_of_rows (D := schema) h k).trans ho⟩
  have hrows : ∀ {id : Uuid} {f : Order → Order}, c.after.rows Tab.orders = (c.before.rows Tab.orders).modify id f →
      ∃ o', c.after.find Tab.orders k = some o' := by
    intro id f h
    rw [Database.find_of_modify (D := schema) h, ho]
    split
    · exact ⟨_, rfl⟩
    · exact ⟨o, rfl⟩
  have hmoved : ∀ {R : List (LockKey schema) → Db → Db → Prop} {To : OrderStatus → Prop} {id : Uuid} {order : Order} {now : Time},
      OrderMoved R To c.before c.after id order now → ∃ o', c.after.find Tab.orders k = some o' := by
    rintro R To id order now (⟨h, _⟩ | ⟨_, _, _, h, _⟩)
    · exact hkept h
    · exact hrows h
  have hpaid : ∀ {id : Uuid} {request : ReturnRequest} {change : ReturnRequest → ReturnRequest} {now : Time},
      ReturnPaid c.before c.after id request change now → ∃ o', c.after.find Tab.orders k = some o' := by
    intro id request change now hp
    rcases hp.orders with h | h
    · exact hkept h
    · exact hrows h
  have hnil : c.out.writes = [] → ∃ o', c.after.find Tab.orders k = some o' := fun hw => by
    rw [after_of_nil hw]
    exact ⟨o, ho⟩
  obtain ⟨call, op, s, out⟩ := c
  cases op with
  | createOrder co =>
    rcases exec_createOrder hf with hw | ⟨voucher, hp, _⟩
    · exact hnil hw
    · change ∃ o', (written out.writes s).find Tab.orders k = some o'
      rw [hp.find_orders k]
      split
      · exact ⟨_, rfl⟩
      · exact ⟨o, ho⟩
  | updatePaymentStatus id payment status now =>
    obtain ⟨_, _, _, hm, _⟩ := exec_updatePaymentStatus hf
    exact hmoved hm
  | updateOrderStatus id status note now =>
    obtain ⟨_, _, _, hm⟩ := exec_updateOrderStatus hf
    exact hmoved hm
  | updateReturnRefundResult id result now =>
    obtain ⟨_, _, _, _, ⟨_, hw⟩ | ⟨_, hp⟩⟩ := exec_updateReturnRefundResult hf
    · exact hnil hw
    · exact hpaid hp
  | completeManualReturnRefund m =>
    obtain ⟨_, _, _, _, ⟨_, hw⟩ | ⟨_, _, hp⟩⟩ := exec_completeManual hf
    · exact hnil hw
    · exact hpaid hp
  | _ => exact hsame (by simp [Op.tables])

/-- **An order stays, and changes as an order may.** -/
theorem order_after (hf : c.Faithful Inv G) {k : Uuid} {o : Order} (ho : c.before.find Tab.orders k = some o) :
    ∃ o', c.after.find Tab.orders k = some o' ∧ OrderChange (Rely (S := platform cfg) Inv G) c.before c.after k o o' := by
  obtain ⟨o', ho'⟩ := order_stays hf ho
  refine ⟨o', ho', ?_⟩
  rcases order_change hf ho' with ⟨o₀, h₀, hchange⟩ | ⟨_, _, _, _, hnone, _⟩
  · cases Option.some.inj (ho.symm.trans h₀)
    exact hchange
  · rw [ho] at hnone
    cases hnone

end Balii
