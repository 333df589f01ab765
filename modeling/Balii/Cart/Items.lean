import Balii.Lib.Fallible
import Balii.Money
import Mathlib.Data.List.Sort
/-!
# Items — the lines of a cart, what they cost, and the gifts that go with them

What the product service and the shipping table answer is a `Shop`.  A variant is named by the text the client wrote; the
product service answers with the text it has itself.
-/
namespace Balii.Carts

open Rowdb

inductive Err
  | badRequest (message : String)
  | notFound (message : String)
  | serviceUnavailable (message : String)
  | lost
  deriving DecidableEq

inductive DiscountType
  | percent
  | amount
  | gift
  deriving DecidableEq

/-- The texts of a variant that a line shows. -/
structure VariantText where
  productName : String
  productSlug : Option String
  sku : String
  thumbnailUrl : Option String
  variantLabel : Option String
  variantSize : Option String
  variantColor : Option String
  deriving DecidableEq

/-- The campaign that a line shows. -/
structure CampaignTag where
  campaignId : Option String
  campaignName : Option String
  campaignDiscountType : Option DiscountType
  campaignDiscountValue : Option ℚ
  campaignBadgeText : Option String
  deriving DecidableEq

structure CartItem where
  variantId : String
  productId : String
  text : VariantText
  campaign : CampaignTag
  unitPrice : ℚ
  isOnSale : Bool
  quantity : ℕ
  subtotal : ℚ
  isPromotionReward : Bool
  sourceCampaignId : Option String
  deriving DecidableEq

structure Cart where
  ownerKey : String
  items : List CartItem
  promotionItems : List CartItem
  subtotal : ℚ
  discountAmount : ℚ
  shippingFee : ℚ
  totalAmount : ℚ
  /-- In milliseconds; its text is written from them. -/
  updatedAt : ℕ
  deriving DecidableEq

structure ProductVariantSnapshot where
  variantId : String
  productId : String
  text : VariantText
  campaign : CampaignTag
  unitPrice : ℚ
  isOnSale : Bool
  stockQuantity : ℤ
  reservedQuantity : ℤ
  isActive : Bool
  deriving DecidableEq

structure ActiveCampaign where
  id : String
  name : String
  productIds : List String
  discountType : DiscountType
  badgeText : Option String
  priorityOrder : ℤ
  minimumPurchaseQuantity : ℕ
  giftVariantId : Option String
  giftQuantity : ℕ
  giftUnitPrice : ℚ
  repeatable : Bool
  maxApplications : Option ℕ
  stackableWithSale : Bool
  minimumPositive : 0 < minimumPurchaseQuantity
  maxPositive : maxApplications ≠ some 0
  deriving DecidableEq

/-- A `uuid` as PostgreSQL writes it. -/
def canonicalId (id : String) : String := String.ofList (id.toList.map Char.toLower)

/-- What is answered to the requests of the cart service in one loop of it; a request that fails is answered with nothing, and a
variant that a loop asks for twice is answered alike. -/
structure Shop where
  variants : String → Option ProductVariantSnapshot
  activeCampaigns : Option (List ActiveCampaign)
  /-- `base_fee` of the active shipping methods, the first one first. -/
  baseFees : Option (List JsNumber)
  /-- `WHERE pv.id = $1` finds the variant that was asked for. -/
  named : ∀ id variant, variants id = some variant → variant.variantId = canonicalId id

structure Config where
  /-- `FREE_SHIPPING_MIN_AMOUNT`. -/
  freeShippingMinAmount : Option String

/-! ## The product service -/

def getVariantSnapshot (shop : Shop) (variantId : String) : Except Err ProductVariantSnapshot :=
  match shop.variants variantId with
  | some variant => .ok variant
  | none => .error (.badRequest "Product variant not found")

def validateVariantStock (shop : Shop) (variantId : String) (quantity : ℕ) : Except Err ProductVariantSnapshot := do
  let variant ← getVariantSnapshot shop variantId
  if variant.isActive = false then .error (.badRequest "Product variant is inactive")
  else
    let availableStock := variant.stockQuantity - variant.reservedQuantity
    if availableStock < quantity then .error (.badRequest ("Not enough stock. Available: " ++ toString availableStock))
    else .ok variant

theorem validateVariantStock_found {shop : Shop} {variantId : String} {quantity : ℕ} {variant : ProductVariantSnapshot}
    (h : validateVariantStock shop variantId quantity = .ok variant) : shop.variants variantId = some variant := by
  unfold validateVariantStock getVariantSnapshot at h
  obtain ⟨found, hfound, h⟩ := bind_eq_ok.1 h
  have hsame : found = variant := by
    split at h
    · cases h
    · dsimp only at h
      split at h
      · cases h
      · exact Except.ok.inj h
  subst hsame
  split at hfound
  · rename_i variant hvariant
    rw [hvariant, Except.ok.inj hfound]
  · cases hfound

def getActiveCampaigns (shop : Shop) : Except Err (List ActiveCampaign) :=
  match shop.activeCampaigns with
  | some campaigns => .ok campaigns
  | none => .error (.badRequest "Unable to load active campaigns")

/-! ## Gifts -/

/-- A campaign with the units in the cart that count for it. -/
structure Eligible where
  campaign : ActiveCampaign
  eligibleQuantity : ℕ

def ActiveCampaign.isGift (c : ActiveCampaign) : Bool :=
  c.discountType == .gift && c.giftVariantId.any (· ≠ "") && 0 < c.giftQuantity

def ActiveCampaign.counts (c : ActiveCampaign) (item : CartItem) : Bool :=
  c.productIds.contains item.productId && (c.stackableWithSale || !item.isOnSale)

def eligible (items : List CartItem) (c : ActiveCampaign) : Eligible :=
  ⟨c, ((items.filter c.counts).map CartItem.quantity).sum⟩

/-- The order of the `sort`: the higher priority first, then the higher minimum. -/
def Eligible.before (a b : Eligible) : Prop :=
  b.campaign.priorityOrder < a.campaign.priorityOrder ∨
    (a.campaign.priorityOrder = b.campaign.priorityOrder ∧ b.campaign.minimumPurchaseQuantity ≤ a.campaign.minimumPurchaseQuantity)

instance : DecidableRel Eligible.before := fun a b =>
  inferInstanceAs (Decidable (b.campaign.priorityOrder < a.campaign.priorityOrder ∨
    (a.campaign.priorityOrder = b.campaign.priorityOrder ∧ b.campaign.minimumPurchaseQuantity ≤ a.campaign.minimumPurchaseQuantity)))

/-- The campaigns in the order they are tried. -/
def giftCampaigns (items : List CartItem) (campaigns : List ActiveCampaign) : List Eligible :=
  (((campaigns.filter ActiveCampaign.isGift).map (eligible items)).filter fun e =>
    e.campaign.minimumPurchaseQuantity ≤ e.eligibleQuantity).insertionSort Eligible.before

/-- How many units of the gift the cart has earned. -/
def Eligible.giftQuantity (e : Eligible) : ℕ :=
  let rawApplications := if e.campaign.repeatable then e.eligibleQuantity / e.campaign.minimumPurchaseQuantity else 1
  let applications := match e.campaign.maxApplications.filter (· ≠ 0) with
    | some max => min rawApplications max
    | none => rawApplications
  e.campaign.giftQuantity * applications

def giftItem (c : ActiveCampaign) (gift : ProductVariantSnapshot) (quantity : ℕ) : CartItem :=
  let unitPrice := max 0 c.giftUnitPrice
  { variantId := gift.variantId
    productId := gift.productId
    text := gift.text
    campaign := ⟨some c.id, some c.name, some .gift, some 0, c.badgeText⟩
    unitPrice := unitPrice
    isOnSale := gift.isOnSale
    quantity := quantity
    subtotal := unitPrice * quantity
    isPromotionReward := true
    sourceCampaignId := some c.id }

/-- The body of the loop, over the products that have earned a gift already. -/
def promote (shop : Shop) (items : List CartItem) : List Eligible → List String → Except Err (List CartItem)
  | [], _ => .ok []
  | e :: rest, claimedProductIds =>
    let eligibleProductIds := e.campaign.productIds.filter fun id => items.any fun item => item.productId == id
    if eligibleProductIds.any claimedProductIds.contains then promote shop items rest claimedProductIds
    else if e.giftQuantity < 1 then promote shop items rest claimedProductIds
    else do
      let gift ← validateVariantStock shop (e.campaign.giftVariantId.getD "") e.giftQuantity
      let others ← promote shop items rest (claimedProductIds ++ eligibleProductIds)
      pure (giftItem e.campaign gift e.giftQuantity :: others)

def buildPromotionItems (shop : Shop) (items : List CartItem) : Except Err (List CartItem) :=
  if items.isEmpty then .ok []
  else do
    let campaigns ← getActiveCampaigns shop
    promote shop items (giftCampaigns items campaigns) []

/-! ## Prices -/

/-- An amount in a setting or a table, as hundredths: a number that is finite and not negative. -/
def moneyOf (value : JsNumber) (e : Err) : Except Err ℤ :=
  match value with
  | .num q => if q < 0 then .error e else .ok (roundMoney (q * 100))
  | _ => .error e

/-- `getMoneyConfig('FREE_SHIPPING_MIN_AMOUNT', 500000)`. -/
def Config.freeShippingMinimum (cfg : Config) : Except Err ℤ :=
  moneyOf ((cfg.freeShippingMinAmount.map decimalNumber).getD (.num 500000))
    (.serviceUnavailable "Cấu hình FREE_SHIPPING_MIN_AMOUNT phải là số không âm.")

def getDefaultShippingFee (shop : Shop) : Except Err ℤ :=
  match shop.baseFees with
  | none => .error (.serviceUnavailable "Không thể tải cấu hình vận chuyển, vui lòng thử lại.")
  | some [] => .error (.serviceUnavailable "Chưa có phương thức vận chuyển đang hoạt động.")
  | some (fee :: _) => moneyOf fee (.serviceUnavailable "Phí vận chuyển trong hệ thống không hợp lệ.")

/-- A line with what the product service says now; its campaign stays as it was. -/
def priceItem (shop : Shop) (item : CartItem) : Except Err CartItem := do
  let variant ← getVariantSnapshot shop item.variantId
  let unitPrice := roundMoney variant.unitPrice
  pure { item with
    productId := variant.productId
    text := variant.text
    unitPrice := unitPrice
    isOnSale := variant.isOnSale
    subtotal := roundMoney (unitPrice * item.quantity) }

/-- The sums of `calculateCart`, over the lines it has priced. -/
def totalCart (cart : Cart) (items promotionItems : List CartItem) (freeShippingMinimum baseShippingFee : ℤ) (now : ℕ) : Cart :=
  let subtotal := roundMoney ((items ++ promotionItems).map CartItem.subtotal).sum
  let shippingFee := if items.isEmpty ∨ freeShippingMinimum ≤ subtotal then 0 else baseShippingFee
  let discountAmount := roundMoney cart.discountAmount
  { ownerKey := cart.ownerKey
    items := items
    promotionItems := promotionItems
    subtotal := subtotal
    discountAmount := discountAmount
    shippingFee := shippingFee
    totalAmount := roundMoney (max 0 (subtotal - discountAmount + shippingFee))
    updatedAt := now }

/-! ## The changes of a cart -/

/-- A line brought up to date, as `addItem`, `updateItem` and `validateCart` do it. -/
def CartItem.refreshed (variant : ProductVariantSnapshot) (item : CartItem) : CartItem :=
  { item with
    unitPrice := variant.unitPrice
    text := variant.text
    campaign := variant.campaign
    isOnSale := variant.isOnSale }

/-- The line that `addItem` makes of a variant. -/
def newItem (variant : ProductVariantSnapshot) (quantity : ℕ) : CartItem where
  variantId := variant.variantId
  productId := variant.productId
  text := variant.text
  campaign := variant.campaign
  unitPrice := variant.unitPrice
  isOnSale := variant.isOnSale
  quantity := quantity
  subtotal := variant.unitPrice * quantity
  isPromotionReward := false
  sourceCampaignId := none

/-- `items.find((item) => item.variantId === variantId)`. -/
def findItem (variantId : String) (items : List CartItem) : Option CartItem := items.find? fun item => item.variantId == variantId

/-- The change of the line that `findItem` finds. -/
def changeItem (variantId : String) (f : CartItem → CartItem) : List CartItem → List CartItem
  | [] => []
  | item :: rest => if item.variantId == variantId then f item :: rest else item :: changeItem variantId f rest

def tooManyItems : Err := .badRequest "Giỏ hàng chỉ được chứa tối đa 50 sản phẩm khác nhau."

/-- The loop of the merge. -/
def mergeItems : List CartItem → List CartItem → Except Err (List CartItem)
  | items, [] => .ok items
  | items, guestItem :: rest =>
    match findItem guestItem.variantId items with
    | some _ =>
      mergeItems (changeItem guestItem.variantId (fun item => { item with quantity := item.quantity + guestItem.quantity }) items) rest
    | none => if 50 ≤ items.length then .error tooManyItems else mergeItems (items ++ [guestItem]) rest

def checkStock (shop : Shop) : List CartItem → Except Err Unit
  | [] => .ok ()
  | item :: rest => do
    let _ ← validateVariantStock shop item.variantId item.quantity
    checkStock shop rest

/-- The loop of `validateCart`. -/
def refreshItems (shop : Shop) : List CartItem → Except Err (List CartItem)
  | [] => .ok []
  | item :: rest => do
    let variant ← validateVariantStock shop item.variantId item.quantity
    let others ← refreshItems shop rest
    pure (item.refreshed variant :: others)

end Balii.Carts
