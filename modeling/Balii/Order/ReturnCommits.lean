import Balii.Order.Commits
/-!
# Order.ReturnCommits — what the transactions on return requests commit to
-/
namespace Balii

open Rowdb Tx Sql

variable {R : List (LockKey schema) → Db → Db → Prop} {s : Db} {L : List (LockKey schema)} {ws : List (Write schema)}

/-! ## Requests -/

theorem exec_createReturn {cfg : Config} {n : NewReturn} {o : Outcome (LockKey schema) (Write schema) Uuid}
    (h : Exec R (createReturnRequestTransaction cfg n) s [] [] o) :
    ∃ order, s.find Tab.orders n.orderId = some order ∧ order.status = .delivered ∧
      (∀ i ∈ (n.row order).items, 0 < i.requestedQuantity) ∧ s.find Tab.returnRequests n.id = none ∧
      o.writes = [.insert Tab.returnRequests n.id (n.row order)] := by
  unfold createReturnRequestTransaction at h
  simp only [exec_bind, exec_ensure, exec_select, exec_pure] at h
  obtain ⟨_, ⟨_, _, rfl⟩, _, h1, _, ⟨⟨_, hdel, _⟩, rfl⟩, _, ⟨_, _, rfl⟩, _, ⟨_, rfl⟩, _, ⟨_, rfl⟩, _, ⟨_, _, rfl⟩, h⟩ := h
  obtain ⟨order, ho, rfl⟩ := exec_fetchJoin h1
  obtain ⟨_, ⟨_, rfl⟩, _, ⟨_, rfl⟩, _, ⟨_, rfl⟩, _, ⟨hq, rfl⟩, _, h2, _, h3, rfl⟩ := h
  obtain ⟨_, rfl⟩ := exec_unique h2
  obtain ⟨hnone, rfl⟩ := exec_insert h3
  exact ⟨order, ho, hdel, fun i hi => (hq i hi).1, hnone, rfl⟩

theorem exec_reviewReturn {id reviewedBy : Uuid} {decision : ReviewDecision} {note : String}
    {o : Outcome (LockKey schema) (Write schema) Unit} (h : Exec R (reviewReturnRequestUpdate id reviewedBy decision note) s [] [] o) :
    ∃ r, s.find Tab.returnRequests id = some r ∧ r.status = .pending ∧ o.writes = [.update Tab.returnRequests id fun r =>
      { r with status := decision.status, adminNote := some (customerMessage decision note), reviewedBy := some reviewedBy }] := by
  unfold reviewReturnRequestUpdate at h
  simp only [exec_bind, exec_ensure] at h
  obtain ⟨m, hm, hsome, rfl⟩ := h
  rcases exec_updateWhere hm with ⟨hv, _⟩ | ⟨r, hr, hp, rfl⟩
  · rw [hv] at hsome
    cases hsome
  · exact ⟨r, hr, by simpa using hp, rfl⟩

/-- A conditional update whose result nobody looks at. -/
theorem exec_unit_updateWhere {t : Tab} {k : t.Key} {p : t.Row → Bool} {f : t.Row → t.Row}
    {o : Outcome (LockKey schema) (Write schema) Unit}
    (h : Exec R (do let _ ← updateRowWhere t k p f; pure () : Trans Unit) s [] [] o) :
    o.writes = [] ∨ ∃ r, s.find t k = some r ∧ p r = true ∧ o.writes = [.update t k f] := by
  simp only [exec_bind, exec_pure] at h
  obtain ⟨m, hm, rfl⟩ := h
  rcases exec_updateWhere hm with ⟨_, hw, _⟩ | ⟨r, hr, hp, rfl⟩
  · exact .inl hw
  · exact .inr ⟨r, hr, hp, rfl⟩

/-! ## Receiving the goods -/

/-- The stock a returned item brings back, if it goes on the shelf. -/
def Receipt.restockLine (rc : Receipt) (order : Order) (item : ReturnItem) : Option (Uuid × ℤ) :=
  if rc.disposition item.id = some .restock then
    (order.items.find? fun i => i.id == item.orderItemId).map fun i => (i.variantId, item.requestedQuantity)
  else none

def Variant.restock (quantity : ℤ) (v : Variant) : Variant := { v with stockQuantity := v.stockQuantity + quantity }

/-- The variants after these items went back on the shelf. -/
def Restocked (a b : Db) (rc : Receipt) (order : Order) (items : List ReturnItem) : Prop :=
  ∀ k, b.find Tab.variants k = (a.find Tab.variants k).map
    (foldLines Prod.fst (fun e => Variant.restock e.2) (items.filterMap (rc.restockLine order)) k)

/-- The row of the request while its items are gone through: those of `done` are classified. -/
def Classified (a b : Db) (rc : Receipt) (refunds : List (Uuid × ℤ)) (request : ReturnRequest) (done : List ReturnItem) : Prop :=
  b.find Tab.returnRequests rc.returnRequestId = some { request with
      items := request.items.map fun i => if ∃ x ∈ done, x.id = i.id then rc.classify refunds i else i } ∧
    ∀ k, k ≠ rc.returnRequestId → b.find Tab.returnRequests k = a.find Tab.returnRequests k

@[simp] theorem classify_id (rc : Receipt) (refunds : List (Uuid × ℤ)) (i : ReturnItem) : (rc.classify refunds i).id = i.id := by
  unfold Receipt.classify
  split <;> rfl

@[simp] theorem classify_orderItemId (rc : Receipt) (refunds : List (Uuid × ℤ)) (i : ReturnItem) :
    (rc.classify refunds i).orderItemId = i.orderItemId := by
  unfold Receipt.classify
  split <;> rfl

@[simp] theorem classify_quantity (rc : Receipt) (refunds : List (Uuid × ℤ)) (i : ReturnItem) :
    (rc.classify refunds i).requestedQuantity = i.requestedQuantity := by
  unfold Receipt.classify
  split <;> rfl

@[simp] theorem classify_classify (rc : Receipt) (refunds : List (Uuid × ℤ)) (i : ReturnItem) :
    rc.classify refunds (rc.classify refunds i) = rc.classify refunds i := by
  have hid := classify_id rc refunds i
  unfold Receipt.classify at hid ⊢
  cases h : rc.disposition i.id with
  | none => simp only [h]
  | some d => cases d <;> simp only [h]

/-- No variant appears or disappears while others commit. -/
def VariantsStay (R : List (LockKey schema) → Db → Db → Prop) (s : Db) : Prop :=
  ∀ L s₀ k, R L s₀ s → (s₀.find Tab.variants k).isSome = (s.find Tab.variants k).isSome

theorem foldLines_cons_none {f : Uuid × ℤ → Variant → Variant} {rc : Receipt} {order : Order} {d : List ReturnItem}
    {x : ReturnItem} (h : rc.restockLine order x = none) (k : Uuid) (v : Variant) :
    foldLines Prod.fst f ((d ++ [x]).filterMap (rc.restockLine order)) k v =
      foldLines Prod.fst f (d.filterMap (rc.restockLine order)) k v := by
  rw [List.filterMap_append, List.filterMap_cons_none h, List.filterMap_nil, List.append_nil]

theorem foldLines_cons_some {f : Uuid × ℤ → Variant → Variant} {rc : Receipt} {order : Order} {d : List ReturnItem}
    {x : ReturnItem} {e : Uuid × ℤ} (h : rc.restockLine order x = some e) (k : Uuid) (v : Variant) :
    foldLines Prod.fst f ((d ++ [x]).filterMap (rc.restockLine order)) k v =
      if e.1 = k then f e (foldLines Prod.fst f (d.filterMap (rc.restockLine order)) k v)
      else foldLines Prod.fst f (d.filterMap (rc.restockLine order)) k v := by
  rw [List.filterMap_append, List.filterMap_cons_some h, List.filterMap_nil, foldLines_concat]

/-- One turn of the loop over the returned items. -/
theorem exec_receiveItem {rc : Receipt} {order : Order} {refunds : List (Uuid × ℤ)} {item : ReturnItem}
    {o : Outcome (LockKey schema) (Write schema) Unit} (h : Exec R (receiveItem rc order refunds item) s L ws o) :
    (∀ k, (written o.writes s).find Tab.returnRequests k =
        if k = rc.returnRequestId then ((written ws s).find Tab.returnRequests k).map fun r =>
          { r with items := r.items.map fun i => if i.id = item.id then rc.classify refunds i else i }
        else (written ws s).find Tab.returnRequests k) ∧
      (VariantsStay R s → match rc.restockLine order item with
      | none => ∀ k, (written o.writes s).find Tab.variants k = (written ws s).find Tab.variants k
      | some e => ∀ k, (written o.writes s).find Tab.variants k =
          if e.1 = k then ((written ws s).find Tab.variants k).map (Variant.restock e.2)
          else (written ws s).find Tab.variants k) := by
  unfold receiveItem at h
  rw [exec_bind] at h
  obtain ⟨_, h1, h⟩ := h
  rw [exec_update] at h1
  cases h1
  have hreq : ∀ k, (written (ws ++ [.update (D := schema) Tab.returnRequests rc.returnRequestId fun r =>
      { r with items := r.items.map fun i => if i.id = item.id then rc.classify refunds i else i }]) s).find
        Tab.returnRequests k = if k = rc.returnRequestId then ((written ws s).find Tab.returnRequests k).map fun r =>
          { r with items := r.items.map fun i => if i.id = item.id then rc.classify refunds i else i }
        else (written ws s).find Tab.returnRequests k := by
    intro k
    rw [written_append, written_cons, written_nil, find_update]
  have hvar : ∀ k, (written (ws ++ [.update (D := schema) Tab.returnRequests rc.returnRequestId fun r =>
      { r with items := r.items.map fun i => if i.id = item.id then rc.classify refunds i else i }]) s).find
        Tab.variants k = (written ws s).find Tab.variants k := by
    intro k
    rw [written_append, written_cons, written_nil, find_apply _ _ (by simp [Write.tab?])]
  unfold Receipt.restockLine
  split at h
  · rename_i hd
    rw [if_pos hd]
    split at h
    · rename_i hnone
      cases h
      rw [hnone]
      exact ⟨hreq, fun _ => hvar⟩
    · rename_i oi hoi
      rw [hoi]
      simp only [exec_bind, exec_pure] at h
      obtain ⟨m, hm, rfl⟩ := h
      refine ⟨fun k => ?_, fun hstay k => ?_⟩
      · rw [find_of_exec (t := Tab.returnRequests) hm (writes_updateVariantWhere _ _ _ _) (by decide)]
        exact hreq k
      · rcases exec_updateVariantWhere hm with ⟨_, v, hv, _, hafter⟩ | ⟨_, hw, hmiss⟩
        · rw [hafter k]
          by_cases hk : k = oi.variantId
          · subst hk
            rw [if_pos rfl, if_pos rfl]
            rw [hvar] at hv
            rw [hv]
            rfl
          · rw [if_neg hk, if_neg (Ne.symm hk), hvar]
        · -- a variant that is not there
          have habsent : (written ws s).find Tab.variants oi.variantId = none := by
            rw [← hvar, ← Option.not_isSome_iff_eq_none]
            rcases hmiss with hmiss | ⟨s₀, hs₀, hmiss⟩
            · simpa using hmiss
            · rw [← isSome_written (hstay _ s₀ oi.variantId hs₀)]
              simpa using hmiss
          rw [hw, hvar]
          by_cases hk : oi.variantId = k
          · subst hk
            rw [if_pos rfl, habsent]
            rfl
          · rw [if_neg hk]
  · rename_i hd
    rw [if_neg hd]
    cases h
    exact ⟨hreq, fun _ => hvar⟩

/-- **The loop over the returned items**: the request's items are classified, the stock that comes back is on the shelf. -/
theorem exec_receiveItems {rc : Receipt} {order : Order} {refunds : List (Uuid × ℤ)} {request : ReturnRequest}
    {o : Outcome (LockKey schema) (Write schema) Unit}
    (hr : s.find Tab.returnRequests rc.returnRequestId = some request)
    (h : Exec R (each (receiveItem rc order refunds) request.items) s L [] o) :
    Classified s (written o.writes s) rc refunds request request.items ∧
      (VariantsStay R s → Restocked s (written o.writes s) rc order request.items) := by
  refine exec_each (J := fun d _ ws => Classified s (written ws s) rc refunds request d ∧
    (VariantsStay R s → Restocked s (written ws s) rc order d)) ?_ request.items []
    ⟨⟨?_, fun k _ => rfl⟩, fun _ k => ?_⟩ h
  · rintro d x L' ws' o' ⟨⟨hitems, hother⟩, hstock⟩ ho'
    obtain ⟨hreq, hvar⟩ := exec_receiveItem ho'
    refine ⟨⟨?_, fun k hk => ?_⟩, fun hstay k => ?_⟩
    · rw [hreq, if_pos rfl, hitems, Option.map_some, List.map_map]
      congr 2
      refine List.map_congr_left fun i _ => ?_
      have hmem : (∃ y ∈ d ++ [x], y.id = i.id) ↔ (∃ y ∈ d, y.id = i.id) ∨ x.id = i.id := by simp [or_and_right, exists_or]
      simp only [Function.comp_apply, hmem]
      by_cases hd : ∃ y ∈ d, y.id = i.id
      · simp [hd]
      · rw [if_neg hd]
        by_cases hx : x.id = i.id
        · rw [if_pos hx.symm, if_pos (.inr hx)]
        · rw [if_neg (Ne.symm hx), if_neg (not_or.2 ⟨hd, hx⟩)]
    · rw [hreq, if_neg hk, hother k hk]
    · have hvar := hvar hstay
      have hstock := hstock hstay
      cases hline : rc.restockLine order x with
      | none =>
        rw [hline] at hvar
        rw [hvar k, hstock k]
        congr 1
        funext v
        rw [foldLines_cons_none hline]
      | some e =>
        rw [hline] at hvar
        rw [hvar k, hstock k]
        by_cases hk : e.1 = k
        · rw [if_pos hk, Option.map_map]
          congr 1
          funext v
          rw [foldLines_cons_some hline, if_pos hk]
          rfl
        · rw [if_neg hk]
          congr 1
          funext v
          rw [foldLines_cons_some hline, if_neg hk]
  · rw [written_nil, hr]
    simp
  · cases hk : s.find Tab.variants k with
    | none => rw [written_nil, hk]; rfl
    | some v => rw [written_nil, hk]; rfl

theorem exec_writesStatus {cfg : Config} {st : ReturnStatus} {o : Outcome (LockKey schema) (Write schema) Unit} :
    Exec R (cfg.writesStatus st) s L ws o ↔ cfg.holdsStatus st = true ∧ o = ⟨(), L, ws⟩ := exec_ensure ..

/-- What becomes of a request whose goods were received. -/
inductive Receipt.Closes (cfg : Config) (rc : Receipt) : (ReturnRequest → ReturnRequest) → Prop
  | notEligible (restocked : Bool) : Closes cfg rc (ReturnRequest.notEligible rc restocked)
  | received (restocked provider : Bool) {amount : ℤ} (h : 0 < amount) (hfits : cfg.holdsStatus (receivedStatus provider) = true) :
      Closes cfg rc (ReturnRequest.received rc restocked provider amount)

/-- **`receiveReturnRequest` commits**: nothing for a request that is under way, the switch to manual payment for one whose
refund failed, and the receipt of the goods for an approved one. -/
theorem exec_receiveReturn {cfg : Config} {rc : Receipt} {o : Outcome (LockKey schema) (Write schema) (Option ReturnRefundDispatch)}
    (h : Exec R (receiveReturnRequestTransaction cfg rc) s [] [] o) :
    ∃ request order, s.find Tab.returnRequests rc.returnRequestId = some request ∧
      s.find Tab.orders request.orderId = some order ∧
      ((request.status ≠ .approved ∧ request.status ≠ .refundFailed ∧ o.writes = []) ∨
        (request.status = .refundFailed ∧ cfg.holdsStatus .manualRefundPending = true ∧
          o.writes = [.update Tab.returnRequests rc.returnRequestId ReturnRequest.toManual]) ∨
        (request.status = .approved ∧ rc.classifies request.items = true ∧
          (VariantsStay R s → Restocked s (written o.writes s) rc order request.items) ∧
          (∀ k, k ≠ rc.returnRequestId →
            (written o.writes s).find Tab.returnRequests k = s.find Tab.returnRequests k) ∧
          ∃ refunds change, rc.Closes cfg change ∧ (written o.writes s).find Tab.returnRequests rc.returnRequestId =
            some (change { request with items := request.items.map (rc.classify refunds) }))) := by
  unfold receiveReturnRequestTransaction at h
  simp only [exec_bind, exec_select] at h
  obtain ⟨_, ⟨s₀, _, rfl⟩, _, h1, _, h2, h⟩ := h
  obtain ⟨request, hr, rfl⟩ := exec_fetch h1
  obtain ⟨order, ho, rfl⟩ := exec_fetch h2
  have hr' : s.find Tab.returnRequests rc.returnRequestId = some request := hr
  refine ⟨request, order, hr', ho, ?_⟩
  split at h
  · rename_i hstatus
    cases h
    exact .inl ⟨fun h => (by cases hstatus.symm.trans h), fun h => (by cases hstatus.symm.trans h), rfl⟩
  · rename_i hstatus
    cases h
    exact .inl ⟨fun h => (by cases hstatus.symm.trans h), fun h => (by cases hstatus.symm.trans h), rfl⟩
  · rename_i hstatus
    cases h
    exact .inl ⟨fun h => (by cases hstatus.symm.trans h), fun h => (by cases hstatus.symm.trans h), rfl⟩
  · rename_i hstatus
    simp only [exec_bind, exec_writesStatus, exec_update, exec_pure] at h
    obtain ⟨_, ⟨hfits, rfl⟩, _, rfl, rfl⟩ := h
    exact .inr (.inl ⟨hstatus, hfits, rfl⟩)
  · rename_i hstatus
    simp only [receiveApproved, exec_bind, exec_ensure, exec_select] at h
    obtain ⟨_, ⟨_, rfl⟩, _, ⟨hclassifies, rfl⟩, _, ⟨_, _, rfl⟩, m, hm, h⟩ := h
    obtain ⟨refunds, ⟨hitems, hother⟩, hstock⟩ : ∃ refunds, Classified s (written m.writes s) rc refunds request request.items ∧
      (VariantsStay R s → Restocked s (written m.writes s) rc order request.items) := ⟨_, exec_receiveItems hr' hm⟩
    have hclose : ∃ change, rc.Closes cfg change ∧
        o.writes = m.writes ++ [.update Tab.returnRequests rc.returnRequestId change] := by
      split at h
      · simp only [exec_bind, exec_update, exec_pure] at h
        obtain ⟨_, rfl, rfl⟩ := h
        exact ⟨_, .notEligible _, rfl⟩
      · rename_i hamount
        simp only [exec_bind, exec_writesStatus, exec_update] at h
        obtain ⟨_, ⟨hfits, rfl⟩, _, rfl, h⟩ := h
        split at h
        · cases h; exact ⟨_, .received _ _ (not_le.1 hamount) hfits, rfl⟩
        · cases h; exact ⟨_, .received _ _ (not_le.1 hamount) hfits, rfl⟩
    obtain ⟨change, hchange, hw⟩ := hclose
    refine .inr (.inr ⟨hstatus, hclassifies, fun hstay k => ?_, fun k hk => ?_, refunds, change, hchange, ?_⟩)
    · rw [hw, written_append, written_cons, written_nil, find_apply _ _ (by simp [Write.tab?])]
      exact hstock hstay k
    · rw [hw, written_append, written_cons, written_nil, find_update, if_neg hk]
      exact hother k hk
    · rw [hw, written_append, written_cons, written_nil, find_update, if_pos rfl, hitems, Option.map_some]
      congr 3
      exact List.map_congr_left fun i hi => if_pos ⟨i, hi, rfl⟩
  · exact h.elim

/-! ## Paying it back -/

/-- A request is changed under its lock and its order's, and the order is refunded with it or left alone. -/
structure ReturnPaid (s b : Db) (id : Uuid) (request : ReturnRequest) (change : ReturnRequest → ReturnRequest) (now : Time) :
    Prop where
  returns : b.rows Tab.returnRequests = (s.rows Tab.returnRequests).modify id change
  orders : b.rows Tab.orders = s.rows Tab.orders ∨
    b.rows Tab.orders = (s.rows Tab.orders).modify request.orderId fun o => { o with status := .refunded, updatedAt := now }

theorem exec_markOrderRefunded {id : Uuid} {order : Order} {note : String} {now : Time}
    {o : Outcome (LockKey schema) (Write schema) Unit} (h : Exec R (markOrderRefunded id order note now) s L ws o) :
    (written o.writes s).rows Tab.orders =
      ((written ws s).rows Tab.orders).modify id fun o => { o with status := .refunded, updatedAt := now } := by
  unfold markOrderRefunded at h
  simp only [exec_bind, exec_update] at h
  obtain ⟨_, rfl, h⟩ := h
  split at h
  · cases h
    simp only [written_append, written_cons, written_nil, rows_update]
  · cases h
    simp only [written_append, written_cons, written_nil, rows_append, rows_update]

theorem written_updateReturn (s : Db) (id : Uuid) (change : ReturnRequest → ReturnRequest) :
    (written [.update (D := schema) Tab.returnRequests id change] s).rows Tab.returnRequests =
        (s.rows Tab.returnRequests).modify id change ∧
      (written [.update (D := schema) Tab.returnRequests id change] s).rows Tab.orders = s.rows Tab.orders := by
  rw [written_cons, written_nil]
  exact ⟨rows_update _, rows_apply _ (by simp [Write.tab?])⟩

/-- The `UPDATE` of a request and, perhaps, the refund of its order. -/
theorem returnPaid_of_exec {id : Uuid} {request : ReturnRequest} {order : Order} {change : ReturnRequest → ReturnRequest}
    {note : String} {now : Time} {o : Outcome (LockKey schema) (Write schema) Unit}
    (hw : (written ws s).rows Tab.returnRequests = (s.rows Tab.returnRequests).modify id change)
    (ho : (written ws s).rows Tab.orders = s.rows Tab.orders)
    (h : Exec R (markOrderRefunded request.orderId order note now) s L ws o) :
    ReturnPaid s (written o.writes s) id request change now := by
  refine ⟨?_, .inr ?_⟩
  · rw [rows_of_exec (t := Tab.returnRequests) h (writes_markOrderRefunded _ _ _ _) (by decide), hw]
  · rw [exec_markOrderRefunded h, ho]

theorem exec_updateReturnRefundResult {id : Uuid} {result : RefundOutcome} {now : Time}
    {o : Outcome (LockKey schema) (Write schema) Unit} (h : Exec R (updateReturnRefundResultTransaction id result now) s [] [] o) :
    ∃ request order, s.find Tab.returnRequests id = some request ∧ s.find Tab.orders request.orderId = some order ∧
      ((request.status = .completed ∧ o.writes = []) ∨
        (request.awaitsRefund = true ∧ ReturnPaid s (written o.writes s) id request (fun r => match result with
          | .failed => { r with status := .refundFailed, refundStatus := some .providerFailed }
          | .completed => { r with status := .completed, refundStatus := some .completed, completedAt := some now }) now)) := by
  unfold updateReturnRefundResultTransaction at h
  rw [exec_bind] at h
  obtain ⟨_, h1, h⟩ := h
  obtain ⟨request, hr, rfl⟩ := exec_fetch h1
  rw [exec_bind] at h
  obtain ⟨_, h2, h⟩ := h
  obtain ⟨order, ho, rfl⟩ := exec_fetch h2
  refine ⟨request, order, hr, ho, ?_⟩
  split at h
  · rename_i hdone
    cases h
    exact .inl ⟨hdone, rfl⟩
  · simp only [exec_bind, exec_ensure] at h
    obtain ⟨_, ⟨hawaits, rfl⟩, h⟩ := h
    refine .inr ⟨hawaits, ?_⟩
    cases result with
    | failed =>
      cases h
      exact ⟨(written_updateReturn s id _).1, .inl (written_updateReturn s id _).2⟩
    | completed =>
      simp only [exec_bind, exec_update, exec_select] at h
      obtain ⟨_, rfl, _, ⟨_, _, rfl⟩, h⟩ := h
      split at h
      · cases h
        exact ⟨(written_updateReturn s id _).1, .inl (written_updateReturn s id _).2⟩
      · exact returnPaid_of_exec (written_updateReturn s id _).1 (written_updateReturn s id _).2 h

/-- **`completeManualReturnRefund` commits** to the confirmation of the approved amount, or the request was completed
before. -/
theorem exec_completeManual {m : ManualRefund} {o : Outcome (LockKey schema) (Write schema) Bool}
    (h : Exec R (completeManualReturnRefundTransaction m) s [] [] o) :
    ∃ request order, s.find Tab.returnRequests m.returnRequestId = some request ∧
      s.find Tab.orders request.orderId = some order ∧
      ((request.status = .completed ∧ o.writes = []) ∨
        (request.status = .manualRefundPending ∧ roundMoney m.amount = request.approvedRefundAmount.getD 0 ∧
          ReturnPaid s (written o.writes s) m.returnRequestId request (ReturnRequest.manuallyRefunded m) m.now)) := by
  unfold completeManualReturnRefundTransaction at h
  rw [exec_bind] at h
  obtain ⟨_, h1, h⟩ := h
  obtain ⟨request, hr, rfl⟩ := exec_fetch h1
  rw [exec_bind] at h
  obtain ⟨_, h2, h⟩ := h
  obtain ⟨order, ho, rfl⟩ := exec_fetch h2
  refine ⟨request, order, hr, ho, ?_⟩
  split at h
  · rename_i hstatus
    cases h
    exact .inl ⟨hstatus, rfl⟩
  · rename_i hstatus
    simp only [confirmManualRefund, exec_bind, exec_ensure, exec_update, exec_select] at h
    obtain ⟨_, ⟨_, _, rfl⟩, _, ⟨_, rfl⟩, _, ⟨hamount, rfl⟩, _, ⟨_, rfl⟩, _, h3, _, rfl, _, ⟨_, _, rfl⟩, h⟩ := h
    obtain ⟨_, rfl⟩ := exec_unique h3
    refine .inr ⟨hstatus, hamount, ?_⟩
    split at h
    · simp only [exec_bind, exec_pure] at h
      obtain ⟨a, ha, rfl⟩ := h
      exact returnPaid_of_exec (written_updateReturn s _ _).1 (written_updateReturn s _ _).2 ha
    · cases h
      exact ⟨(written_updateReturn s _ _).1, .inl (written_updateReturn s _ _).2⟩
  · exact h.elim

end Balii
