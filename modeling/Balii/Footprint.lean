import Balii.Lib.Guarantee
import Balii.System
/-!
# Footprint — the tables each transaction can write

Whatever a transaction reads and whichever way it goes, it writes no other table than those listed here; a row of any
other table is after its commit the row it was before.
-/
namespace Balii

open Rowdb Tx Sql

/-- The write changes no table but those of `ts`; a movement is logged where variants change. -/
structure Into (ts : List Tab) (w : Write schema) : Prop where
  table : ∀ t, w.tab? = some t → t ∈ ts
  movement : ∀ m, w = .append (.movement m) → Tab.variants ∈ ts

section Into
variable {ts : List Tab} {t : Tab}

theorem into_insert {k : t.Key} {r : t.Row} (h : t ∈ ts) : Into ts (Write.insert (D := schema) t k r) := by
  refine ⟨?_, fun m hm => nomatch hm⟩
  rintro _ ⟨⟩
  exact h

theorem into_update {k : t.Key} {f : t.Row → t.Row} (h : t ∈ ts) : Into ts (Write.update (D := schema) t k f) := by
  refine ⟨?_, fun m hm => nomatch hm⟩
  rintro _ ⟨⟩
  exact h

theorem into_delete {k : t.Key} (h : t ∈ ts) : Into ts (Write.delete (D := schema) t k) := by
  refine ⟨?_, fun m hm => nomatch hm⟩
  rintro _ ⟨⟩
  exact h

theorem into_status (l : StatusLog) : Into ts (Write.append (D := schema) (.status l)) :=
  ⟨fun _ ht => (nomatch ht), fun _ hm => (nomatch hm)⟩

theorem into_movement (m : Movement) (h : Tab.variants ∈ ts) : Into ts (Write.append (D := schema) (.movement m)) :=
  ⟨fun _ ht => (nomatch ht), fun _ _ => h⟩

theorem into_mono {us : List Tab} (h : ∀ t ∈ ts, t ∈ us) {w : Write schema} (hw : Into ts w) : Into us w :=
  ⟨fun t ht => h t (hw.table t ht), fun m hm => h _ (hw.movement m hm)⟩

theorem writes_if {P : Write schema → Prop} {α : Type} {c : Prop} [Decidable c] {a b : Trans α} (ha : Writes P a)
    (hb : Writes P b) : Writes P (if c then a else b) := by
  split
  · exact ha
  · exact hb

end Into

/-! ## Inventory and vouchers -/

theorem writes_audit (ctx : AuditContext) (id : Uuid) (old new : Variant) :
    Writes (Into [.variants]) (auditInventoryMovement ctx id old new) :=
  writes_if (writes_pure _) (Sql.writes_append (into_movement _ (by decide)))

theorem writes_updateVariantWhere (ctx : AuditContext) (id : Uuid) (p : Variant → Bool) (f : Variant → Variant) :
    Writes (Into [.variants]) (updateVariantWhere ctx id p f) := by
  refine writes_bind (writes_updateWhere (into_update (by decide))) fun old => ?_
  cases old with
  | none => exact writes_pure _
  | some v => exact writes_bind (writes_audit _ _ _ _) fun _ => writes_pure _

theorem writes_reserveItem (ctx : AuditContext) (item : CheckoutItem) : Writes (Into [.variants]) (reserveItem ctx item) :=
  writes_bind (writes_updateVariantWhere _ _ _ _) fun _ => writes_ensure _ _

theorem writes_moveVariant (ctx : AuditContext) (target : InventoryTarget) (current : InventoryState) (item : Uuid × ℤ) :
    Writes (Into [.variants]) (moveVariant ctx target current item) :=
  writes_bind (writes_updateVariantWhere _ _ _ _) fun _ => writes_ensure _ _

theorem writes_into {ts us : List Tab} {α : Type} {t : Trans α} (ht : Writes (Into ts) t) (h : ∀ t ∈ ts, t ∈ us) :
    Writes (Into us) t := by
  induction t with
  | done a => trivial
  | fail e => trivial
  | lock k next ih => exact fun r => ih r (ht r)
  | write w rest ih => exact ⟨into_mono h ht.1, ih ht.2⟩
  | peek next ih => exact fun s => ih s (ht s)

theorem writes_transition (id : Uuid) (target : InventoryTarget) (now : Time) :
    Writes (Into [.orders, .variants]) (transitionInventoryInTransaction id target now) := by
  refine writes_bind Sql.writes_fetch fun order => writes_if (writes_pure _) ?_
  refine writes_bind (writes_ensure _ _) fun _ => writes_bind (writes_each fun item _ => ?_) fun _ => ?_
  · exact writes_into (writes_moveVariant _ _ _ _) (by decide)
  · exact Sql.writes_update (into_update (by decide))

theorem writes_releaseVoucher (id : Uuid) :
    Writes (Into [.voucherUsages, .vouchers]) (releaseVoucherUsageInTransaction id) := by
  refine writes_bind (Sql.writes_deleteReturning (into_delete (by decide))) fun usage => ?_
  cases usage with
  | none => exact writes_pure _
  | some u => exact Sql.writes_update (into_update (by decide))

/-! ## Orders -/

theorem writes_unit_updateWhere {ts : List Tab} {t : Tab} (h : t ∈ ts) (k : t.Key) (p : t.Row → Bool) (f : t.Row → t.Row) :
    Writes (Into ts) (do let _ ← updateRowWhere t k p f; pure () : Trans Unit) :=
  writes_bind (writes_updateWhere (into_update h)) fun _ => writes_pure _

theorem writes_cancelPending (id : Uuid) : Writes (Into [.payments]) (cancelPendingPaymentsInTransaction id) :=
  writes_bind Sql.writes_select fun _ => writes_each fun _ _ => writes_unit_updateWhere (by decide) _ _ _

theorem writes_setOrderStatus (id : Uuid) (a b : OrderStatus) (note : String) (now : Time) :
    Writes (Into [.orders]) (setOrderStatus id a b note now) :=
  writes_bind (Sql.writes_update (into_update (by decide))) fun _ => Sql.writes_append (into_status _)

theorem writes_completeReturns (id : Uuid) (now : Time) : Writes (Into [.returnRequests]) (completeReturnRequests id now) :=
  writes_bind Sql.writes_select fun _ => writes_each fun _ _ => writes_unit_updateWhere (by decide) _ _ _

/-- The tables an order's cancellation writes. -/
def cancellationTables : List Tab := [.orders, .variants, .voucherUsages, .vouchers, .payments]

theorem writes_nextStatus (id : Uuid) (order : Order) (payment : ReportedPayment) (now : Time) :
    Writes (Into cancellationTables) (nextStatusOf id order payment now) := by
  cases payment with
  | paid =>
    refine writes_bind (writes_ensure _ _) fun _ => writes_if ?_ (writes_bind (writes_ensure _ _) fun _ => writes_pure _)
    exact writes_bind (writes_into (writes_transition _ _ _) (by decide)) fun _ => writes_pure _
  | failed =>
    refine writes_if (writes_bind Sql.writes_select fun _ => writes_if (writes_pure _) ?_) (writes_pure _)
    refine writes_bind (writes_into (writes_transition _ _ _) (by decide)) fun _ => ?_
    refine writes_bind (writes_into (writes_releaseVoucher _) (by decide)) fun _ => ?_
    exact writes_bind (writes_into (writes_cancelPending _) (by decide)) fun _ => writes_pure _
  | refunded => exact writes_bind (writes_ensure _ _) fun _ => writes_pure _
  | unpaid => exact writes_pure _
  | pending => exact writes_pure _

theorem writes_applyNextStatus (id : Uuid) (order : Order) (payment : ReportedPayment) (next : Option OrderStatus)
    (now : Time) : Writes (Into [.orders]) (applyNextStatus id order payment next now) := by
  cases next with
  | none => exact writes_pure _
  | some status => exact writes_if (writes_pure _) (writes_bind (writes_setOrderStatus _ _ _ _ _) fun _ => writes_pure _)

theorem writes_updatePaymentStatus (id : Uuid) (payment : ReportedPayment) (status : Option OrderStatus) (now : Time) :
    Writes (Into (.returnRequests :: cancellationTables)) (updatePaymentStatusTransaction id payment status now) := by
  refine writes_bind Sql.writes_fetchJoin fun order => ?_
  refine writes_bind (writes_into (writes_nextStatus _ _ _ _) (by decide)) fun next => ?_
  refine writes_bind (writes_ensure _ _) fun _ => ?_
  refine writes_bind (writes_into (writes_applyNextStatus _ _ _ _ _) (by decide)) fun _ => ?_
  exact writes_if (writes_bind (writes_into (writes_completeReturns _ _) (by decide)) fun _ => writes_pure _) (writes_pure _)

theorem writes_moveWithStatus (id : Uuid) (status : OrderStatus) (payments : List (Uuid × Payment)) (now : Time) :
    Writes (Into cancellationTables) (moveWithStatus id status payments now) := by
  cases status with
  | confirmed => exact writes_bind (writes_ensure _ _) fun _ => writes_into (writes_transition _ _ _) (by decide)
  | cancelled =>
    refine writes_bind (writes_ensure _ _) fun _ => writes_bind (writes_into (writes_transition _ _ _) (by decide)) fun _ => ?_
    refine writes_bind (writes_into (writes_releaseVoucher _) (by decide)) fun _ => ?_
    exact writes_into (writes_cancelPending _) (by decide)
  | _ => exact writes_pure _

theorem writes_updateOrderStatus (id : Uuid) (status : OrderStatus) (note : Option String) (now : Time) :
    Writes (Into cancellationTables) (updateOrderStatusTransaction id status note now) := by
  refine writes_bind Sql.writes_fetchJoin fun order => writes_if (writes_pure _) ?_
  refine writes_bind (writes_ensure _ _) fun _ => writes_bind Sql.writes_select fun _ => ?_
  refine writes_bind (writes_moveWithStatus _ _ _ _) fun _ => ?_
  exact writes_bind (writes_into (writes_setOrderStatus _ _ _ _ _) (by decide)) fun _ => writes_pure _

/-! ## Checkout -/

theorem writes_checkoutVoucher {P : Write schema → Prop} (cfg : Config) (c : Checkout) : Writes P (checkoutVoucher cfg c) := by
  unfold checkoutVoucher
  split
  · exact writes_pure _
  · refine writes_bind ?_ fun _ => writes_pure _
    refine writes_bind Sql.writes_select fun _ => writes_bind (writes_need _ _) fun _ => ?_
    refine writes_bind Sql.writes_fetchJoin fun _ => writes_bind (writes_ensure _ _) fun _ => ?_
    refine writes_bind (writes_ensure _ _) fun _ => writes_bind (writes_ensure _ _) fun _ => ?_
    exact writes_bind Sql.writes_select fun _ => writes_bind (writes_ensure _ _) fun _ => writes_pure _

theorem writes_insertOrder (id : Uuid) (o : Order) : Writes (Into [.orders]) (insertOrder id o) := by
  refine writes_bind (writes_ensure _ _) fun _ => writes_bind Sql.writes_unique fun _ => ?_
  refine writes_bind Sql.writes_unique fun _ => writes_bind (writes_ensure _ _) fun _ => ?_
  exact Sql.writes_insert (into_insert (by decide))

theorem writes_recordVoucherUse (c : Checkout) (voucher : Option (Uuid × ℤ)) :
    Writes (Into [.vouchers, .voucherUsages]) (recordVoucherUse c voucher) := by
  cases voucher with
  | none => exact writes_pure _
  | some v =>
    exact writes_bind (Sql.writes_update (into_update (by decide))) fun _ => Sql.writes_insert (into_insert (by decide))

theorem writes_createOrder (cfg : Config) (c : Checkout) :
    Writes (Into [.orders, .variants, .vouchers, .voucherUsages]) (createOrderTransaction cfg c) := by
  refine writes_bind Sql.writes_select fun replay => ?_
  cases replay with
  | some e => exact writes_pure _
  | none =>
    refine writes_bind (writes_ensure _ _) fun _ => writes_bind (writes_checkoutVoucher cfg c) fun _ => ?_
    refine writes_bind (writes_each fun item _ => writes_into (writes_reserveItem _ _) (by decide)) fun _ => ?_
    refine writes_bind (writes_into (writes_insertOrder _ _) (by decide)) fun _ => ?_
    exact writes_bind (writes_into (writes_recordVoucherUse _ _) (by decide)) fun _ => writes_pure _

/-! ## Returns -/

theorem writes_createReturn (cfg : Config) (n : NewReturn) :
    Writes (Into [.returnRequests]) (createReturnRequestTransaction cfg n) := by
  refine writes_bind Sql.writes_select fun _ => writes_bind Sql.writes_fetchJoin fun _ => ?_
  refine writes_bind (writes_ensure _ _) fun _ => writes_bind Sql.writes_select fun _ => ?_
  refine writes_bind (writes_ensure _ _) fun _ => writes_bind (writes_ensure _ _) fun _ => writes_bind Sql.writes_select fun _ => ?_
  refine writes_bind (writes_ensure _ _) fun _ => writes_bind (writes_ensure _ _) fun _ => ?_
  refine writes_bind (writes_ensure _ _) fun _ => writes_bind (writes_ensure _ _) fun _ => ?_
  refine writes_bind Sql.writes_unique fun _ => writes_bind (Sql.writes_insert (into_insert (by decide))) fun _ => ?_
  exact writes_pure _

theorem writes_reviewReturn (id reviewedBy : Uuid) (decision : ReviewDecision) (note : String) :
    Writes (Into [.returnRequests]) (reviewReturnRequestUpdate id reviewedBy decision note) :=
  writes_bind (writes_updateWhere (into_update (by decide))) fun _ => writes_ensure _ _

theorem writes_receiveItem (rc : Receipt) (order : Order) (refunds : List (Uuid × ℤ)) (item : ReturnItem) :
    Writes (Into [.returnRequests, .variants]) (receiveItem rc order refunds item) := by
  refine writes_bind (Sql.writes_update (into_update (by decide))) fun _ => writes_if ?_ (writes_pure _)
  split
  · exact writes_pure _
  · exact writes_bind (writes_into (writes_updateVariantWhere _ _ _ _) (by decide)) fun _ => writes_pure _

theorem writes_receiveReturn (cfg : Config) (rc : Receipt) :
    Writes (Into [.returnRequests, .variants]) (receiveReturnRequestTransaction cfg rc) := by
  refine writes_bind Sql.writes_select fun payment => writes_bind Sql.writes_fetch fun request => ?_
  refine writes_bind Sql.writes_fetch fun order => ?_
  cases request.status with
  | completed => exact writes_pure _
  | refundPending => exact writes_pure _
  | manualRefundPending => exact writes_pure _
  | refundFailed =>
    exact writes_bind (writes_ensure _ _) fun _ => writes_bind (Sql.writes_update (into_update (by decide))) fun _ => writes_pure _
  | approved =>
    refine writes_bind (writes_ensure _ _) fun _ => writes_bind (writes_ensure _ _) fun _ => ?_
    refine writes_bind Sql.writes_select fun _ => writes_bind (writes_each fun item _ => writes_receiveItem _ _ _ _) fun _ => ?_
    refine writes_if (writes_bind (Sql.writes_update (into_update (by decide))) fun _ => writes_pure _) ?_
    refine writes_bind (writes_ensure _ _) fun _ => ?_
    exact writes_bind (Sql.writes_update (into_update (by decide))) fun _ => writes_if (writes_pure _) (writes_pure _)
  | pending => exact writes_fail _
  | rejected => exact writes_fail _

theorem writes_markOrderRefunded (id : Uuid) (order : Order) (note : String) (now : Time) :
    Writes (Into [.orders]) (markOrderRefunded id order note now) :=
  writes_bind (Sql.writes_update (into_update (by decide))) fun _ =>
    writes_if (writes_pure _) (Sql.writes_append (into_status _))

theorem writes_updateReturnRefundResult (id : Uuid) (result : RefundOutcome) (now : Time) :
    Writes (Into [.returnRequests, .orders]) (updateReturnRefundResultTransaction id result now) := by
  refine writes_bind Sql.writes_fetch fun request => writes_bind Sql.writes_fetch fun order => ?_
  refine writes_if (writes_pure _) (writes_bind (writes_ensure _ _) fun _ => ?_)
  cases result with
  | failed => exact Sql.writes_update (into_update (by decide))
  | completed =>
    refine writes_bind (Sql.writes_update (into_update (by decide))) fun _ => writes_bind Sql.writes_select fun _ => ?_
    exact writes_if (writes_pure _) (writes_into (writes_markOrderRefunded _ _ _ _) (by decide))

theorem writes_completeManual (m : ManualRefund) :
    Writes (Into [.returnRequests, .orders]) (completeManualReturnRefundTransaction m) := by
  refine writes_bind Sql.writes_fetch fun request => writes_bind Sql.writes_fetch fun order => ?_
  cases request.status with
  | completed => exact writes_pure _
  | manualRefundPending =>
    refine writes_bind Sql.writes_select fun _ => writes_bind (writes_ensure _ _) fun _ => ?_
    refine writes_bind (writes_ensure _ _) fun _ => writes_bind (writes_ensure _ _) fun _ => ?_
    refine writes_bind Sql.writes_unique fun _ => writes_bind (Sql.writes_update (into_update (by decide))) fun _ => ?_
    refine writes_bind Sql.writes_select fun _ => writes_if ?_ (writes_pure _)
    exact writes_bind (writes_into (writes_markOrderRefunded _ _ _ _) (by decide)) fun _ => writes_pure _
  | _ => exact writes_fail _

/-! ## Payments -/

theorem writes_uniqueOption {P : Write schema → Prop} {α : Type} {value : Option α} {check : α → Trans Unit}
    (h : ∀ a, Writes P (check a)) : Writes P (uniqueOption value check) := by
  cases value with
  | none => exact writes_pure _
  | some a => exact h a

theorem writes_createPayment (n : NewPayment) : Writes (Into [.payments]) (createPaymentRow n) := by
  refine writes_bind (writes_ensure _ _) fun _ => writes_bind (writes_uniqueOption fun _ => Sql.writes_unique) fun _ => ?_
  refine writes_bind (writes_uniqueOption fun _ => Sql.writes_unique) fun _ => ?_
  exact writes_bind (writes_uniqueOption fun _ => Sql.writes_unique) fun _ => Sql.writes_insert (into_insert (by decide))

theorem writes_renewPayment (id : Uuid) (ref : String) (url : Option String) (expiresAt : Option Time) (sim : Bool) :
    Writes (Into [.payments]) (renewPayment id ref url expiresAt sim) := by
  refine writes_bind (writes_updateWhere (into_update (by decide))) fun renewed => ?_
  cases renewed with
  | none => exact writes_pure _
  | some _ => exact Sql.writes_unique

theorem writes_saveWebhook (hash : String) (w : Webhook) : Writes (Into [.webhooks]) (saveWebhook hash w) :=
  writes_bind (Sql.writes_insertIgnore (into_insert (by decide))) fun _ =>
    writes_bind Sql.writes_select fun _ => writes_ensure _ _

theorem writes_publishEvent (id : Uuid) (e : OutboxEvent) : Writes (Into [.outbox]) (publishEvent id e) :=
  Sql.writes_insert (into_insert (by decide))

theorem writes_persistPaymentResult (cfg : Config) (i : PaymentResultInput) :
    Writes (Into [.webhooks, .payments, .outbox]) (persistPaymentResult cfg i) := by
  refine writes_bind Sql.writes_fetchJoin fun order => writes_bind Sql.writes_fetchJoin fun payment => ?_
  refine writes_bind (writes_ensure _ _) fun _ => writes_bind (writes_into (writes_saveWebhook _ _) (by decide)) fun _ => ?_
  refine writes_if (writes_bind (writes_ensure _ _) fun _ => ?_) (writes_pure _)
  refine writes_bind (Sql.writes_update (into_update (by decide))) fun _ => ?_
  exact writes_bind (writes_into (writes_publishEvent _ _) (by decide)) fun _ => writes_pure _

theorem writes_markExpired (i : ExpiredInput) : Writes (Into [.payments, .outbox]) (markExpired i) :=
  writes_bind (Sql.writes_update (into_update (by decide))) fun _ => writes_into (writes_publishEvent _ _) (by decide)

/-! ## Refunds -/

theorem writes_insertRefund (id : Uuid) (r : Refund) : Writes (Into [.refunds]) (insertRefund id r) := by
  refine writes_bind (writes_ensure _ _) fun _ => writes_bind (writes_uniqueOption fun _ => Sql.writes_unique) fun _ => ?_
  refine writes_bind (writes_uniqueOption fun _ => Sql.writes_unique) fun _ => writes_bind Sql.writes_select fun _ => ?_
  exact writes_bind (writes_ensure _ _) fun _ => Sql.writes_insert (into_insert (by decide))

theorem writes_openRefund (n : NewRefund) (payment : Payment) : Writes (Into [.refunds]) (openRefund n payment) := by
  unfold openRefund
  refine writes_bind (writes_ensure _ _) fun _ => writes_bind Sql.writes_select fun _ => ?_
  exact writes_bind (writes_ensure _ _) fun _ => writes_bind (writes_insertRefund _ _) fun _ => writes_pure _

theorem writes_createRefundRecord (n : NewRefund) : Writes (Into [.refunds]) (createRefundRecord n) := by
  unfold createRefundRecord
  refine writes_bind (writes_ensure _ _) fun _ => writes_bind (writes_ensure _ _) fun _ => ?_
  refine writes_bind Sql.writes_fetchJoin fun payment => writes_bind Sql.writes_select fun existing => ?_
  cases existing with
  | some e => exact writes_pure _
  | none => exact writes_openRefund n payment

theorem writes_requestGatewayRefund (id : Uuid) (ref : String) : Writes (Into [.refunds]) (requestGatewayRefund id ref) := by
  refine writes_bind (writes_updateWhere (into_update (by decide))) fun updated => ?_
  split
  · exact writes_pure _
  · exact Sql.writes_unique

theorem writes_recordRefundedAmount (id : Uuid) (total amount : ℤ) :
    Writes (Into [.payments]) (recordRefundedAmount id total amount) :=
  writes_bind (writes_updateWhere (into_update (by decide))) fun _ => writes_ensure _ _

theorem writes_fetchRefund {P : Write schema → Prop} (id : Uuid) : Writes P (fetchRefund id) := by
  refine writes_bind Sql.writes_select fun _ => writes_bind Sql.writes_fetch fun _ => writes_bind Sql.writes_fetch fun _ => ?_
  exact writes_bind (writes_ensure _ _) fun _ => writes_bind Sql.writes_claim fun _ => writes_pure _

theorem writes_persistRefundResult (cfg : Config) (i : RefundResultInput) :
    Writes (Into [.webhooks, .refunds, .payments, .outbox]) (persistRefundResult cfg i) := by
  refine writes_bind (writes_fetchRefund _) fun found => ?_
  refine writes_bind (writes_into (writes_saveWebhook _ _) (by decide)) fun _ => ?_
  refine writes_if ?_ ?_
  · refine writes_bind (Sql.writes_update (into_update (by decide))) fun _ => ?_
    refine writes_bind (writes_uniqueOption fun _ => Sql.writes_unique) fun _ => writes_bind Sql.writes_select fun _ => ?_
    refine writes_bind (writes_into (writes_recordRefundedAmount _ _ _) (by decide)) fun _ => ?_
    exact writes_bind (writes_into (writes_publishEvent _ _) (by decide)) fun _ => writes_pure _
  · refine writes_bind (Sql.writes_update (into_update (by decide))) fun _ => ?_
    refine writes_bind (writes_uniqueOption fun _ => Sql.writes_unique) fun _ => ?_
    exact writes_bind (writes_into (writes_publishEvent _ _) (by decide)) fun _ => writes_pure _

theorem writes_increaseRetry (id : Uuid) : Writes (Into [.refunds]) (increaseRefundRetryCount id) :=
  writes_bind (writes_updateWhere (into_update (by decide))) fun _ => writes_bind (writes_need _ _) fun _ => writes_pure _

theorem writes_increaseAttempt (id : Uuid) : Writes (Into [.payments]) (increaseReconciliationAttempt id) := by
  refine writes_bind Sql.writes_fetch fun _ => writes_bind (writes_need _ _) fun _ => writes_bind (writes_ensure _ _) fun _ => ?_
  refine writes_bind (writes_need _ _) fun _ => writes_bind (Sql.writes_update (into_update (by decide))) fun _ => ?_
  exact writes_pure _

theorem writes_updateVariant (id : Uuid) (dto : UpdateVariant) (actorId : Option Uuid) :
    Writes (Into [.variants]) (updateVariant id dto actorId) := by
  refine writes_bind (writes_ensure _ _) fun _ => writes_bind Sql.writes_fetch fun _ => ?_
  refine writes_bind (writes_ensure _ _) fun _ => writes_bind (Sql.writes_update (into_update (by decide))) fun _ => ?_
  exact writes_audit _ _ _ _

/-! ## What a part of a body leaves alone -/

section Part
variable {R : List (LockKey schema) → Db → Db → Prop} {s : Db} {L : List (LockKey schema)} {ws : List (Write schema)}
  {α : Type} {body : Trans α} {o : Outcome (LockKey schema) (Write schema) α} {ts : List Tab} {t : Tab}

theorem rows_of_exec (h : Exec R body s L ws o) (hb : Writes (Into ts) body) (ht : t ∉ ts) :
    (written o.writes s).rows t = (written ws s).rows t := by
  obtain ⟨vs, hvs, hin⟩ := Exec.extends (P := Into ts) body h
  rw [hvs, written_append]
  exact rows_written (D := schema) _ fun w hw htab => ht ((hin hb w hw).table t htab)

theorem find_of_exec (h : Exec R body s L ws o) (hb : Writes (Into ts) body) (ht : t ∉ ts) (k : t.Key) :
    (written o.writes s).find t k = (written ws s).find t k := by
  unfold Database.find
  rw [rows_of_exec h hb ht]

/-- The trigger's line in the ledger, where the balances changed. -/
def movementWrites (ctx : AuditContext) (id : Uuid) (old new : Variant) : List (Write schema) :=
  if new.stockQuantity - old.stockQuantity = 0 ∧ new.reservedQuantity - old.reservedQuantity = 0 then []
  else [.append (.movement {
    variantId := id, eventType := ctx.eventType, referenceType := ctx.referenceType, referenceId := ctx.referenceId
    actorId := ctx.actorId
    stockDelta := new.stockQuantity - old.stockQuantity
    reservedDelta := new.reservedQuantity - old.reservedQuantity
    stockAfter := new.stockQuantity, reservedAfter := new.reservedQuantity })]

theorem exec_audit {ctx : AuditContext} {id : Uuid} {old new : Variant} {o : Outcome (LockKey schema) (Write schema) Unit} :
    Exec R (auditInventoryMovement ctx id old new) s L ws o ↔ o = ⟨(), L, ws ++ movementWrites ctx id old new⟩ := by
  unfold auditInventoryMovement movementWrites
  split
  · rw [exec_pure, List.append_nil]
  · exact Sql.exec_append

theorem rows_movementWrites (ctx : AuditContext) (id : Uuid) (old new : Variant) (a : Db) (t : Tab) :
    (written (movementWrites ctx id old new) a).rows t = a.rows t := by
  unfold movementWrites
  split <;> rfl

end Part

/-! ## All of them -/

def Op.tables : Op → List Tab
  | .read _ => []
  | .createOrder _ => [.orders, .variants, .vouchers, .voucherUsages]
  | .updatePaymentStatus .. => .returnRequests :: cancellationTables
  | .updateOrderStatus .. => cancellationTables
  | .createReturnRequest _ => [.returnRequests]
  | .reviewReturnRequest .. => [.returnRequests]
  | .receiveReturnRequest _ => [.returnRequests, .variants]
  | .recordDispatch .. => [.returnRequests]
  | .recordDispatchFailure _ => [.returnRequests]
  | .updateReturnRefundResult .. => [.returnRequests, .orders]
  | .completeManualReturnRefund _ => [.returnRequests, .orders]
  | .updateVariant .. => [.variants]
  | .createPaymentRow _ => [.payments]
  | .setPaymentUrl .. => [.payments]
  | .renewPayment .. => [.payments]
  | .persistPaymentResult _ => [.webhooks, .payments, .outbox]
  | .saveInvalidWebhook _ => [.webhooks]
  | .markReviewRequired .. => [.payments]
  | .markExpired _ => [.payments, .outbox]
  | .createRefundRecord _ => [.refunds]
  | .rejectRefund .. => [.refunds]
  | .insertRejectedRefund _ => [.refunds]
  | .requestGatewayRefund .. => [.refunds]
  | .persistRefundResult _ => [.webhooks, .refunds, .payments, .outbox]
  | .increaseRefundRetryCount _ => [.refunds]
  | .increaseReconciliationAttempt _ => [.payments]
  | .insertNotice .. => [.outbox]

theorem writes_tx (cfg : Config) (op : Op) : Writes (Into op.tables) (op.tx cfg) := by
  cases op with
  | read q => exact Sql.writes_select
  | createOrder c => exact writes_createOrder cfg c
  | updatePaymentStatus id payment status now => exact writes_updatePaymentStatus id payment status now
  | updateOrderStatus id status note now => exact writes_updateOrderStatus id status note now
  | createReturnRequest n => exact writes_createReturn cfg n
  | reviewReturnRequest id by_ d note => exact writes_reviewReturn id by_ d note
  | receiveReturnRequest rc => exact writes_receiveReturn cfg rc
  | recordDispatch id paymentId reused now => exact writes_unit_updateWhere List.mem_cons_self _ _ _
  | recordDispatchFailure id => exact writes_unit_updateWhere List.mem_cons_self _ _ _
  | updateReturnRefundResult id result now => exact writes_updateReturnRefundResult id result now
  | completeManualReturnRefund m => exact writes_completeManual m
  | updateVariant id dto actorId => exact writes_updateVariant id dto actorId
  | createPaymentRow n => exact writes_createPayment n
  | setPaymentUrl id url => exact Sql.writes_update (into_update List.mem_cons_self)
  | renewPayment id ref url expiresAt sim => exact writes_renewPayment id ref url expiresAt sim
  | persistPaymentResult i => exact writes_persistPaymentResult cfg i
  | saveInvalidWebhook raw => exact writes_saveWebhook _ _
  | markReviewRequired id reason => exact Sql.writes_update (into_update List.mem_cons_self)
  | markExpired i => exact writes_markExpired i
  | createRefundRecord n => exact writes_createRefundRecord n
  | rejectRefund id i => exact Sql.writes_update (into_update List.mem_cons_self)
  | insertRejectedRefund i => exact writes_insertRefund _ _
  | requestGatewayRefund id ref => exact writes_requestGatewayRefund id ref
  | persistRefundResult i => exact writes_persistRefundResult cfg i
  | increaseRefundRetryCount id => exact writes_increaseRetry id
  | increaseReconciliationAttempt id => exact writes_increaseAttempt id
  | insertNotice id n now => exact writes_bind (writes_need _ _) fun _ => writes_publishEvent id _

variable {cfg : Config} {c : Commit cfg} {Inv : Db → Prop} {G : List (LockKey schema) → Db → Db → Prop}

theorem after_of_nil (h : c.out.writes = []) : c.after = c.before := by
  unfold System.Commit.after
  rw [h]
  rfl

/-- **A commit leaves the tables outside its footprint alone.** -/
theorem rows_of_notMem (hf : c.Faithful Inv G) {t : Tab} (ht : t ∉ c.op.tables) : c.after.rows t = c.before.rows t :=
  rows_written (D := schema) c.before fun w hw h =>
    ht ((Exec.writes _ hf (writes_tx cfg c.op) (fun _ h => nomatch h) w hw).table t h)

theorem find_of_notMem (hf : c.Faithful Inv G) {t : Tab} (ht : t ∉ c.op.tables) (k : t.Key) :
    c.after.find t k = c.before.find t k := by
  unfold Database.find
  rw [rows_of_notMem hf ht]

end Balii
