import Balii.Config
import Balii.Money
/-!
# Voucher.Vouchers — redeeming a voucher, and the admin's edits

`redeemVoucher` is one transaction under the lock of the voucher.  `update` and `remove` read the voucher, change the
entity in memory and hand it to `repository.save`, which reads the row again and writes every column in which the two
differ.
-/
namespace Balii

open Rowdb

/-! ## `redeemVoucher` -/

/-- `RedeemVoucherDto`, with its user and the clock. -/
structure Redemption where
  userId : Uuid
  code : String
  orderId : Uuid
  orderAmount : ℚ
  now : Time

def calculateDiscountAmount (v : Voucher) (orderAmount : ℚ) : JsNumber :=
  let discountAmount : JsNumber :=
    if (trim v.typeCode).toLower = "percent" then percentOf orderAmount (amountNumber v.discountValue)
    else .num (amountNumber v.discountValue)
  JsNumber.max (.num 0) (JsNumber.min (.num orderAmount) (cappedAt v.maxDiscountAmount discountAmount))

/-- `getVoucherRowByCode(code, manager, true)`: the row and its type are locked. -/
def getVoucherRowByCode (cfg : Config) (code : String) : Trans (Uuid × Voucher) := do
  let found ← query fun s => (s.rows Tab.vouchers).find fun _ v => cfg.upper v.code == cfg.upper code
  let e ← Tx.need found (notFound "Voucher not found")
  let voucher ← fetchJoin .vouchers e.1 (fun v => (v.typeCode, cfg.upper v.code)) (notFound "Voucher not found")
  claim (.voucherType voucher.typeCode)
  pure (e.1, voucher)

/-- `assertVoucherUsable`, for a user who is known. -/
def assertVoucherUsable (id : Uuid) (v : Voucher) (orderAmount : ℚ) (userId : Uuid) (now : Time) : Trans JsNumber := do
  Tx.ensure (v.isActive = true) (badRequest "Voucher is inactive")
  Tx.ensure (v.startsAt ≤ now) (badRequest "Voucher is not active yet")
  Tx.ensure (now ≤ v.expiresAt) (badRequest "Voucher has expired")
  Tx.ensure (∀ limit ∈ v.usageLimit, v.usedCount < limit) (badRequest "Voucher usage limit reached")
  Tx.ensure (amountNumber v.minOrderAmount ≤ orderAmount)
    (badRequest ("Order amount must be at least " ++ (JsNumber.num (amountNumber v.minOrderAmount)).text))
  let total ← query fun s => ((s.rows Tab.voucherUsages).select fun _ u => u.voucherId == id && u.userId == userId).length
  Tx.ensure ((total : ℤ) < v.userLimitPerUser) (badRequest "Voucher usage limit per user reached")
  pure (calculateDiscountAmount v orderAmount)

/-- The transaction of `redeemVoucher`: the discount it grants. -/
def redeemVoucherTransaction (cfg : Config) (r : Redemption) : Trans JsNumber := do
  let voucher ← getVoucherRowByCode cfg r.code
  let discountAmount ← assertVoucherUsable voucher.1 voucher.2 r.orderAmount r.userId r.now
  let duplicatedUsage ← query fun s => (s.find Tab.voucherUsages r.orderId).any fun u => u.voucherId == voucher.1
  Tx.ensure (duplicatedUsage = false) (badRequest "Voucher already redeemed for this order")
  updateRow .vouchers voucher.1 fun v => { v with usedCount := v.usedCount + 1 }
  insertInto .voucherUsages r.orderId
    { voucherId := voucher.1, userId := r.userId, discountApplied := storedAmount discountAmount }
    (uniqueViolation "ux_voucher_usages_order")
  pure discountAmount

/-! ## `validateVoucher` -/

/-- `getVoucherRowByCode(code)`, without a lock. -/
def findVoucherByCode (cfg : Config) (code : String) (s : Db) : Option (Uuid × Voucher) :=
  (s.rows Tab.vouchers).find fun _ v => cfg.upper v.code == cfg.upper code

/-- What the customer is shown of a voucher. -/
structure VoucherPreview where
  voucherId : Uuid
  discountAmount : JsNumber
  finalAmount : JsNumber

/-- `validateVoucher`, for a user who is known. -/
def validateVoucher (cfg : Config) (code : String) (userId : Uuid) (orderAmount : ℚ) (now : Time) : Trans VoucherPreview := do
  let found ← query (findVoucherByCode cfg code)
  let row ← Tx.need found (notFound "Voucher not found")
  let discountAmount ← assertVoucherUsable row.1 row.2 orderAmount userId now
  pure { voucherId := row.1, discountAmount, finalAmount := JsNumber.max (.num 0) (discountAmount.after fun q => .double (orderAmount - q)) }

/-! ## `create`, `update` and `remove` -/

inductive VoucherDiscountType
  | percent
  | fixed
  deriving DecidableEq, Repr

def VoucherDiscountType.code : VoucherDiscountType → String
  | .percent => "percent"
  | .fixed => "fixed"

/-- `CreateVoucherDto`, as the `ValidationPipe` lets it through; amounts in hundredths. -/
structure CreateVoucher where
  id : Uuid
  code : String
  discountType : VoucherDiscountType
  discountValue : ℚ
  minOrderValue : Option ℚ
  maxDiscount : Option ℚ
  usageLimit : Option ℤ
  userLimitPerUser : Option ℤ
  startDate : Time
  endDate : Time
  isActive : Option Bool
  /-- `@IsPositive()`. -/
  discountValue_pos : 0 < discountValue
  /-- `@Min(1)`. -/
  usageLimit_pos : ∀ limit ∈ usageLimit, 1 ≤ limit
  /-- `@Min(1)`. -/
  userLimitPerUser_pos : ∀ limit ∈ userLimitPerUser, 1 ≤ limit

/-- `UpdateVoucherDto`, every field optional; a limit may also be taken away. -/
structure UpdateVoucher where
  code : Option String
  discountType : Option VoucherDiscountType
  discountValue : Option ℚ
  minOrderValue : Option ℚ
  maxDiscount : Option (Option ℚ)
  usageLimit : Option (Option ℤ)
  userLimitPerUser : Option ℤ
  startDate : Option Time
  endDate : Option Time
  isActive : Option Bool
  deriving DecidableEq

def validateDateRange (startDate endDate : Time) : Except Err Unit :=
  if endDate ≤ startDate then .error (badRequest "startDate must be earlier than endDate") else .ok ()

def validateDiscountPayload (discountType : String) (discountValue : ℚ) (maxDiscount : Option ℚ) : Except Err Unit :=
  if discountType = "percent" ∧ (discountValue ≤ 0 ∨ 10000 < discountValue) then
    .error (badRequest "Percentage voucher discountValue must be between 0 and 100")
  else if ∃ m ∈ maxDiscount, m < 0 then .error (badRequest "maxDiscount must be greater than or equal to 0")
  else .ok ()

/-- The row `create` inserts. -/
def CreateVoucher.row (cfg : Config) (dto : CreateVoucher) : Voucher where
  code := cfg.toUpperCase (trim dto.code)
  typeCode := dto.discountType.code
  discountValue := numeric dto.discountValue
  maxDiscountAmount := dto.maxDiscount.map numeric
  minOrderAmount := numeric (dto.minOrderValue.getD 0)
  usageLimit := dto.usageLimit
  usedCount := 0
  userLimitPerUser := dto.userLimitPerUser.getD 1
  startsAt := dto.startDate
  expiresAt := dto.endDate
  isActive := dto.isActive.getD true

/-- What `update` checks before it changes the entity. -/
def UpdateVoucher.check (dto : UpdateVoucher) (voucher : Voucher) : Except Err Unit := do
  if dto.startDate.isSome || dto.endDate.isSome then
    validateDateRange (dto.startDate.getD voucher.startsAt) (dto.endDate.getD voucher.expiresAt)
  validateDiscountPayload ((dto.discountType.map VoucherDiscountType.code).getD voucher.typeCode.toLower)
    (dto.discountValue.getD voucher.discountValue) (dto.maxDiscount.getD (voucher.maxDiscountAmount.map fun m => (m : ℚ)))

/-- The entity with the fields of the request. -/
def UpdateVoucher.applyTo (cfg : Config) (dto : UpdateVoucher) (voucher : Voucher) : Voucher :=
  { voucher with
    code := (dto.code.map fun code => cfg.toUpperCase (trim code)).getD voucher.code
    typeCode := (dto.discountType.map VoucherDiscountType.code).getD voucher.typeCode
    discountValue := (dto.discountValue.map numeric).getD voucher.discountValue
    maxDiscountAmount := (dto.maxDiscount.map fun m => m.map numeric).getD voucher.maxDiscountAmount
    minOrderAmount := (dto.minOrderValue.map numeric).getD voucher.minOrderAmount
    usageLimit := dto.usageLimit.getD voucher.usageLimit
    userLimitPerUser := dto.userLimitPerUser.getD voucher.userLimitPerUser
    startsAt := dto.startDate.getD voucher.startsAt
    expiresAt := dto.endDate.getD voucher.expiresAt
    isActive := dto.isActive.getD voucher.isActive }

/-- `UNIQUE (code)`. -/
def uniqueVoucherCode (id : Uuid) (code : String) : Trans Unit :=
  uniqueIn (.voucherCode code) .vouchers (fun k v => k != id && v.code == code) (uniqueViolation "vouchers_code_key")

def insertVoucher (id : Uuid) (v : Voucher) : Trans Unit := do
  uniqueVoucherCode id v.code
  insertInto .vouchers id v (uniqueViolation "vouchers_pkey")

end Balii
