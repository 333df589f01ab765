import Balii.Json
import Balii.Lib.Sql
import Mathlib.Data.List.Sort
/-!
# Schema — the tables the services share

The order, payment, product and voucher services keep their tables in one PostgreSQL database, in a schema each, and read
and write across the schemas.  A row has the columns that the modelled code reads or writes; amounts are in hundredths,
`NUMERIC(12,2)` as integers, and times are milliseconds.  The lines of an order and of a return request are kept in its
row: they are written with it and nowhere else.
-/
namespace Balii

open Rowdb

abbrev Uuid := ℕ
abbrev Time := ℕ

/-- A UUID as text. -/
def Uuid.text (id : Uuid) : String := Nat.repr id

/-- The UUID that PostgreSQL reads in a text, if it takes it as one. -/
def Uuid.ofText (s : String) : Option Uuid :=
  if s.toList = [] ∨ s.toList.any (fun c => !c.isDigit) = true then none else some (Nat.ofDigitChars 10 s.toList 0)

@[simp] theorem Uuid.ofText_text (id : Uuid) : Uuid.ofText (Uuid.text id) = some id := by
  unfold Uuid.ofText Uuid.text
  rw [Nat.toList_repr, if_neg, Nat.ofDigitChars_ten_toDigits]
  rintro (h | h)
  · exact Nat.toDigits_ne_nil h
  · obtain ⟨c, hc, hd⟩ := List.any_eq_true.1 h
    rw [Nat.isDigit_of_mem_toDigits (by decide) (by decide) hc] at hd
    cases hd

theorem Uuid.text_injective {a b : Uuid} (h : Uuid.text a = Uuid.text b) : a = b := by
  have hb := Uuid.ofText_text b
  rw [← h, Uuid.ofText_text] at hb
  exact Option.some.inj hb

/-! ## Errors -/

inductive ErrKind
  | badRequest
  | unauthorized
  | notFound
  | conflict
  | serviceUnavailable
  | badGateway
  | uniqueViolation
  | checkViolation
  | foreignKeyViolation
  | notNullViolation
  | invalidText
  | undefinedColumn
  | connection
  | typeError
  deriving DecidableEq, Repr

structure Err where
  kind : ErrKind
  message : String
  deriving DecidableEq, Repr

def badRequest (message : String) : Err := ⟨.badRequest, message⟩
def notFound (message : String) : Err := ⟨.notFound, message⟩
def conflict (message : String) : Err := ⟨.conflict, message⟩
def badGateway (message : String) : Err := ⟨.badGateway, message⟩

/-- SQLSTATE 23505. -/
def uniqueViolation (index : String) : Err := ⟨.uniqueViolation, index⟩
/-- SQLSTATE 23514. -/
def checkViolation (constraint : String) : Err := ⟨.checkViolation, constraint⟩
/-- SQLSTATE 23503. -/
def foreignKeyViolation (constraint : String) : Err := ⟨.foreignKeyViolation, constraint⟩

/-- SQLSTATE 23502. -/
def notNullViolation (column : String) : Err := ⟨.notNullViolation, column⟩
/-- SQLSTATE 22P02, and 22003 of a number out of range. -/
def invalidText (type : String) : Err := ⟨.invalidText, type⟩

/-- SQLSTATE 22001. -/
def valueTooLong (type : String) : Err := ⟨.invalidText, type⟩

/-- SQLSTATE 42703. -/
def undefinedColumn (column : String) : Err := ⟨.undefinedColumn, column⟩

/-- What JavaScript throws at a method that a value does not have. -/
def typeError (message : String) : Err := ⟨.typeError, message⟩

/-- What a client is left with when no answer comes. -/
def lostConnection : Err := ⟨.connection, "Connection terminated"⟩

/-! ## Lookup tables -/

inductive OrderStatus
  | pending
  | confirmed
  | processing
  | shipping
  | delivered
  | cancelled
  | refunded
  deriving DecidableEq, Repr

def OrderStatus.code : OrderStatus → String
  | .pending => "pending"
  | .confirmed => "confirmed"
  | .processing => "processing"
  | .shipping => "shipping"
  | .delivered => "delivered"
  | .cancelled => "cancelled"
  | .refunded => "refunded"

inductive InventoryState
  | reserved
  | committed
  | released
  | returned
  deriving DecidableEq, Repr

def InventoryState.code : InventoryState → String
  | .reserved => "reserved"
  | .committed => "committed"
  | .released => "released"
  | .returned => "returned"

/-- `payment_statuses`: the statuses of payments and of refunds. -/
inductive PaymentStatus
  | pending
  | paid
  | failed
  | refunded
  | partiallyRefunded
  | cancelled
  deriving DecidableEq, Repr

/-- `ps.code IN ('paid', 'partially_refunded', 'refunded')`: the money was received. -/
def PaymentStatus.settled : PaymentStatus → Bool
  | .paid | .partiallyRefunded | .refunded => true
  | .pending | .failed | .cancelled => false

/-- `ps.code IN ('paid', 'partially_refunded')`. -/
def PaymentStatus.refundable : PaymentStatus → Bool
  | .paid | .partiallyRefunded => true
  | .pending | .failed | .refunded | .cancelled => false

/-- `payment_providers`. -/
inductive PaymentMethod
  | cod
  | bankTransfer
  | mockOnline
  | vnpay
  | momo
  deriving DecidableEq, Repr

def PaymentMethod.code : PaymentMethod → String
  | .cod => "cod"
  | .bankTransfer => "bank_transfer"
  | .mockOnline => "mock_online"
  | .vnpay => "vnpay"
  | .momo => "momo"

/-! ## Order service -/

structure OrderItem where
  id : Uuid
  variantId : Uuid
  productName : String
  unitPrice : ℤ
  quantity : ℤ
  subtotal : ℤ
  campaignId : Option Uuid
  campaignDiscountType : Option String
  deriving DecidableEq, Repr

structure Order where
  userId : Uuid
  orderCode : String
  checkoutIdempotencyKey : Uuid
  status : OrderStatus
  inventoryState : InventoryState
  voucherId : Option Uuid
  subtotal : ℤ
  discountAmount : ℤ
  shippingFee : ℤ
  totalAmount : ℤ
  items : List OrderItem
  createdAt : Time
  updatedAt : Time
  deriving DecidableEq, Repr

/-- `order_status_logs`. -/
structure StatusLog where
  orderId : Uuid
  fromStatus : OrderStatus
  toStatus : OrderStatus
  note : String
  createdAt : Time
  deriving DecidableEq, Repr

inductive ReturnStatus
  | pending
  | approved
  | rejected
  | refundPending
  | refundFailed
  | manualRefundPending
  | completed
  deriving DecidableEq, Repr

def ReturnStatus.code : ReturnStatus → String
  | .pending => "pending"
  | .approved => "approved"
  | .rejected => "rejected"
  | .refundPending => "refund_pending"
  | .refundFailed => "refund_failed"
  | .manualRefundPending => "manual_refund_pending"
  | .completed => "completed"

inductive RefundMode
  | provider
  | manual
  deriving DecidableEq, Repr

/-- `return_requests.refund_status`. -/
inductive ReturnRefundStatus
  | dispatching
  | awaitingManualConfirmation
  | processing
  | processingReused
  | dispatchFailed
  | providerFailed
  | completed
  | manualCompleted
  | notEligible
  deriving DecidableEq, Repr

inductive Disposition
  | restock
  | damaged
  | rejected
  deriving DecidableEq, Repr

/-- `return_request_items`. -/
structure ReturnItem where
  id : Uuid
  orderItemId : Uuid
  requestedQuantity : ℤ
  acceptedQuantity : Option ℤ
  disposition : Option Disposition
  unitPrice : ℤ
  grossAmount : ℤ
  refundAmount : ℤ
  deriving DecidableEq, Repr

structure ReturnRequest where
  orderId : Uuid
  userId : Uuid
  status : ReturnStatus
  reason : String
  adminNote : Option String
  reviewedBy : Option Uuid
  receivedBy : Option Uuid
  receivedAt : Option Time
  restockedAt : Option Time
  refundMode : Option RefundMode
  refundStatus : Option ReturnRefundStatus
  refundPaymentId : Option Uuid
  refundWorkflowStartedAt : Option Time
  completedAt : Option Time
  requestedRefundAmount : ℤ
  approvedRefundAmount : Option ℤ
  manualRefundAmount : Option ℤ
  manualRefundReference : Option String
  manualRefundNote : Option String
  manualRefundEvidenceUrls : List String
  manualRefundCompletedBy : Option Uuid
  items : List ReturnItem
  deriving DecidableEq, Repr

/-! ## Product service -/

structure Variant where
  stockQuantity : ℤ
  reservedQuantity : ℤ
  isActive : Bool
  deriving DecidableEq, Repr

/-- `inventory_movements`, written by the trigger `trg_audit_inventory_movement`. -/
structure Movement where
  variantId : Uuid
  eventType : String
  referenceType : Option String
  referenceId : Option String
  actorId : Option Uuid
  stockDelta : ℤ
  reservedDelta : ℤ
  stockAfter : ℤ
  reservedAfter : ℤ
  deriving DecidableEq, Repr

/-! ## Voucher service -/

structure Voucher where
  code : String
  typeCode : String
  discountValue : ℤ
  maxDiscountAmount : Option ℤ
  minOrderAmount : ℤ
  usageLimit : Option ℤ
  usedCount : ℤ
  userLimitPerUser : ℤ
  startsAt : Time
  expiresAt : Time
  isActive : Bool
  deriving DecidableEq, Repr

/-- `voucher_usages`, kept under its order: `ux_voucher_usages_order` allows an order one row. -/
structure VoucherUsage where
  voucherId : Uuid
  userId : Uuid
  discountApplied : ℤ
  deriving DecidableEq, Repr

/-! ## Payment service -/

/-- `payments.idempotency_key`: `checkout:<order>:<method>`, or any other text a caller gave. -/
inductive PaymentKey
  | checkout (orderId : Uuid) (method : PaymentMethod)
  | text (s : String)
  deriving DecidableEq, Repr

structure Payment where
  orderId : Uuid
  userId : Uuid
  method : PaymentMethod
  status : PaymentStatus
  amount : ℤ
  refundedAmount : ℤ
  providerRef : Option String
  providerTxnId : Option String
  merchantTxnId : Option String
  paymentUrl : Option String
  expiresAt : Option Time
  paidAt : Option Time
  idempotencyKey : Option PaymentKey
  failureReason : Option String
  metadata : Option Json
  isSimulated : Bool
  createdAt : Time
  deriving DecidableEq, Repr

/-- `refunds.idempotency_key`: `return:<return request>`, or any other text a caller gave. -/
inductive RefundKey
  | ofReturn (returnRequestId : Uuid)
  | text (s : String)
  deriving DecidableEq, Repr

structure Refund where
  paymentId : Uuid
  amount : ℤ
  status : PaymentStatus
  reason : String
  providerRefundId : Option String
  idempotencyKey : Option RefundKey
  failureReason : Option String
  refundedAt : Option Time
  retryCount : ℕ
  gatewayStatus : Option String
  workflowResolution : Option String
  adminNote : Option String
  createdAt : Time
  deriving DecidableEq, Repr

structure Webhook where
  paymentId : Option Uuid
  signatureValid : Bool
  providerTxnId : Option String
  eventType : String
  processingStatus : String
  errorMessage : Option String
  deriving DecidableEq, Repr

/-- The payloads of `payment_service.outbox_events`. -/
inductive EventPayload
  | payment (paymentId orderId : Uuid) (amount : ℤ) (providerTxnId : Option String) (status : String)
  | expired (paymentId orderId : Uuid) (status : String)
  | refundCompleted (refundId paymentId orderId userId : Uuid) (amount : ℤ) (providerRefundId : Option String)
      (fullyRefunded : Bool) (reason : String)
  | refundFailed (refundId paymentId orderId userId : Uuid) (providerRefundId : Option String) (refundResult : String)
  | json (payload : Json)
  deriving DecidableEq, Repr

structure OutboxEvent where
  aggregateType : String
  aggregateId : String
  type : String
  payload : EventPayload
  status : String
  createdAt : Time
  deriving DecidableEq, Repr

/-! ## The database -/

inductive Tab
  | orders
  | returnRequests
  | variants
  | vouchers
  | voucherUsages
  | payments
  | refunds
  | webhooks
  | outbox
  deriving DecidableEq, Repr

/-- The key a table's rows are found by: `payment_webhooks` by its payload hash, everything else by an id. -/
@[reducible] def Tab.Key : Tab → Type
  | .webhooks => String
  | _ => Uuid

@[reducible] def Tab.Row : Tab → Type
  | .orders => Order
  | .returnRequests => ReturnRequest
  | .variants => Variant
  | .vouchers => Voucher
  | .voucherUsages => VoucherUsage
  | .payments => Payment
  | .refunds => Refund
  | .webhooks => Webhook
  | .outbox => OutboxEvent

/-- The entries of unique indexes, and the lookup rows that a `FOR UPDATE` over a join locks as well. -/
inductive Entry
  | checkoutKey (key : Uuid)
  | orderCode (code : String)
  | activeReturn (orderId : Uuid)
  | manualReference (reference : String)
  | paymentKey (key : PaymentKey)
  | providerRef (ref : String)
  | merchantTxnId (id : String)
  | refundKey (key : RefundKey)
  | providerRefundId (id : String)
  | paymentStatus (status : PaymentStatus)
  | voucherCode (code : String)
  | voucherType (code : String)
  deriving DecidableEq, Repr

inductive Log
  | status (l : StatusLog)
  | movement (m : Movement)
  deriving DecidableEq, Repr

@[reducible] def Tab.decKey : (t : Tab) → DecidableEq t.Key
  | .orders => inferInstanceAs (DecidableEq ℕ)
  | .returnRequests => inferInstanceAs (DecidableEq ℕ)
  | .variants => inferInstanceAs (DecidableEq ℕ)
  | .vouchers => inferInstanceAs (DecidableEq ℕ)
  | .voucherUsages => inferInstanceAs (DecidableEq ℕ)
  | .payments => inferInstanceAs (DecidableEq ℕ)
  | .refunds => inferInstanceAs (DecidableEq ℕ)
  | .webhooks => inferInstanceAs (DecidableEq String)
  | .outbox => inferInstanceAs (DecidableEq ℕ)

@[reducible] def schema : Schema where
  Tab := Tab
  Key := Tab.Key
  Row := Tab.Row
  Entry := Entry
  Log := Log
  decTab := inferInstance
  decKey := Tab.decKey

abbrev Db := Database schema

/-- A transaction of one of the services. -/
abbrev Trans (α : Type) := Sql schema Err α

/-! ## The statements on these tables -/

abbrev lock (t : Tab) (k : t.Key) : Trans (Option t.Row) := Sql.forUpdate (D := schema) t k

/-- A locking read that must find its row. -/
abbrev fetch (t : Tab) (k : t.Key) (e : Err) : Trans t.Row := Sql.fetch (D := schema) t k e

abbrev fetchJoin {β : Type} [DecidableEq β] (t : Tab) (k : t.Key) (f : t.Row → β) (e : Err) : Trans t.Row :=
  Sql.fetchJoin (D := schema) t k f e

abbrev insertInto (t : Tab) (k : t.Key) (r : t.Row) (e : Err) : Trans Unit := Sql.insert (D := schema) t k r e

abbrev insertIgnore (t : Tab) (k : t.Key) (r : t.Row) : Trans Bool := Sql.insertIgnore (D := schema) t k r

abbrev updateRow (t : Tab) (k : t.Key) (f : t.Row → t.Row) : Trans Unit := Sql.update (D := schema) t k f

abbrev updateRowWhere (t : Tab) (k : t.Key) (p : t.Row → Bool) (f : t.Row → t.Row) : Trans (Option t.Row) :=
  Sql.updateWhere (D := schema) t k p f

abbrev deleteFrom (t : Tab) (k : t.Key) : Trans (Option t.Row) := Sql.deleteReturning (D := schema) t k

abbrev claim (e : Entry) : Trans Unit := Sql.claim (D := schema) e

abbrev uniqueIn (e : Entry) (t : Tab) (p : t.Key → t.Row → Bool) (err : Err) : Trans Unit :=
  Sql.unique (D := schema) e t p err

abbrev log (l : Log) : Trans Unit := Sql.append (D := schema) l

/-- `ORDER BY created_at DESC`. -/
def newestFirst {κ ρ : Type} (createdAt : ρ → Time) (rows : List (κ × ρ)) : List (κ × ρ) :=
  rows.insertionSort fun a b => createdAt b.2 ≤ createdAt a.2

theorem mem_newestFirst {κ ρ : Type} {createdAt : ρ → Time} {rows : List (κ × ρ)} {e : κ × ρ} :
    e ∈ newestFirst createdAt rows ↔ e ∈ rows :=
  List.mem_insertionSort _

theorem newestFirst_map {κ ρ : Type} {createdAt : ρ → Time} {g : κ × ρ → κ × ρ} (h : ∀ e, createdAt (g e).2 = createdAt e.2)
    (rows : List (κ × ρ)) : newestFirst createdAt (rows.map g) = (newestFirst createdAt rows).map g := by
  refine (List.map_insertionSort _ _ g rows fun a _ b _ => ?_).symm
  rw [h, h]

theorem le_of_head_newestFirst {κ ρ : Type} {createdAt : ρ → Time} {rows : List (κ × ρ)} {e x : κ × ρ}
    (he : (newestFirst createdAt rows).head? = some e) (hx : x ∈ rows) : createdAt x.2 ≤ createdAt e.2 := by
  have hsorted : (newestFirst createdAt rows).Pairwise fun a b => createdAt b.2 ≤ createdAt a.2 := by
    have : Std.Total fun a b : κ × ρ => createdAt b.2 ≤ createdAt a.2 := ⟨fun a b => le_total _ _⟩
    have : IsTrans (κ × ρ) fun a b => createdAt b.2 ≤ createdAt a.2 := ⟨fun a b c h h' => h'.trans h⟩
    exact List.pairwise_insertionSort _ _
  have hmem : x ∈ newestFirst createdAt rows := mem_newestFirst.2 hx
  cases hrows : newestFirst createdAt rows with
  | nil =>
    rw [hrows] at hmem
    cases hmem
  | cons y ys =>
    rw [hrows] at he hmem hsorted
    cases he
    rcases List.mem_cons.1 hmem with rfl | h
    · exact le_refl _
    · exact (List.pairwise_cons.1 hsorted).1 x h

abbrev query {α : Type} (f : Db → α) : Trans α := Sql.select (D := schema) f

end Balii
