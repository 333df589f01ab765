import Balii.Cart.Discounts
import Balii.Cart.Gifts
import Balii.Lib.Fallible
import Balii.Lib.Gives
import Balii.Order.Service
import Balii.Payment.Settlement
import Balii.Voucher.Usage
/-!
# Totals — what a cart shows and what its order charges

The cart rounds its prices and the threshold of free shipping, the order rounds what it is given and takes the threshold as it is
set.  So the two agree, but for a cart whose subtotal lies between the rounded threshold and the threshold itself.
-/
namespace Balii

open Rowdb Tx

/-! ## The order -/

section Orders
variable {R : List (LockKey schema) → Db → Db → Prop} {s : Db} {cfg : Config} {dto : CreateOrder} {items : List CheckoutItem}
  {subtotal : ℚ} {c : Checkout} {o : Outcome (LockKey schema) (Write schema) Uuid}

/-- An order without a voucher is the checkout's. -/
theorem unvouchered_order (hc : checkoutOf cfg dto items subtotal = .ok c) (hcode : nonEmpty dto.voucherCode = none)
    (h : Exec R (createOrderTransaction cfg c) s [] [] o) (hplaced : o.writes ≠ []) :
    (written o.writes s).find Tab.orders dto.orderId = some (c.order none) := by
  have hid : c.orderId = dto.orderId ∧ c.voucherCode = dto.voucherCode := by
    obtain ⟨_, _, rfl⟩ := checkoutOf_ok hc
    exact ⟨rfl, rfl⟩
  rcases exec_createOrder_voucher h with hnone | ⟨voucher, hfind, hvoucher, _⟩
  · exact absurd hnone hplaced
  · rw [hvoucher (hid.2 ▸ hcode), hid.1] at hfind
    exact hfind

end Orders

end Balii

namespace Balii.Carts

open Rowdb Rowdb.Atomic

/-! ## Settings -/

/-- What both services are set up with, and the product service's table of campaigns besides. -/
structure Settings where
  /-- `FREE_SHIPPING_MIN_AMOUNT`. -/
  freeShippingMinAmount : Option String
  /-- `base_fee` of the active shipping methods by their ids, in hundredths. -/
  baseFees : List ℤ

namespace Settings

variable (t : Settings)

def cart : Config := ⟨t.freeShippingMinAmount⟩

/-- `Number(FREE_SHIPPING_MIN_AMOUNT ?? 500000)`, none when it is not finite. -/
def freeShippingMinimum : Option ℚ :=
  match (t.freeShippingMinAmount.map decimalNumber).getD (.num 500000) with
  | .num q => some q
  | _ => none

/-- The order service, whatever else it is set up with. -/
def order (base : Balii.Config) : Balii.Config :=
  { base with freeShippingMinimum := t.freeShippingMinimum, shippingBaseFee := t.baseFees.head? }

/-- The fees are those of the table, and the price of a gift is a `NUMERIC(12,2)`. -/
def Answered (answer : Answer) : Prop :=
  (∀ fees, answer.shop.baseFees = some fees → fees = t.baseFees.map fun fee => .num ((fee : ℚ) / 100)) ∧
    ∀ campaigns, answer.shop.activeCampaigns = some campaigns → ∀ c ∈ campaigns, ∃ n : ℤ, c.giftUnitPrice = n

end Settings

/-- `validateCart` can return this cart, whoever is about. -/
def Validated (t : Settings) (owner : Owner) (cart : Cart) : Prop :=
  ∃ r : (carts t.cart).Run Undiscounted, Gives r.Visits t.Answered (validateCart t.cart owner) (.ok cart)

/-- **A cart that `validateCart` has returned.** -/
structure Snapshot (t : Settings) where
  owner : Owner
  cart : Cart
  validated : Validated t owner cart

/-! ## What is shown -/

/-- A line in whole hundredths, whose subtotal is that of its units, rounded. -/
structure Whole (item : CartItem) : Prop where
  price : ∃ n : ℤ, item.unitPrice = n
  subtotal : item.subtotal = roundMoney (item.unitPrice * item.quantity)

theorem priceItem_whole {shop : Shop} {line item : CartItem} (h : priceItem shop line = .ok item) : Whole item := by
  unfold priceItem at h
  cases hvariant : getVariantSnapshot shop line.variantId with
  | error e =>
    rw [hvariant] at h
    cases h
  | ok variant =>
    rw [hvariant] at h
    cases h
    exact ⟨⟨_, rfl⟩, rfl⟩

theorem giftItem_whole {c : ActiveCampaign} (hc : ∃ n : ℤ, c.giftUnitPrice = n) (gift : ProductVariantSnapshot) (quantity : ℕ) :
    Whole (giftItem c gift quantity) := by
  obtain ⟨n, hn⟩ := hc
  have hprice : (giftItem c gift quantity).unitPrice = (max 0 n : ℤ) := by
    change max 0 c.giftUnitPrice = _
    rw [hn]
    push_cast
    rfl
  refine ⟨⟨_, hprice⟩, ?_⟩
  change (giftItem c gift quantity).unitPrice * quantity = roundMoney ((giftItem c gift quantity).unitPrice * quantity)
  rw [hprice]
  have hround := roundMoney_intCast (max 0 n * quantity)
  push_cast at hround ⊢
  rw [hround]
  push_cast
  rfl

theorem buildPromotionItems_whole {shop : Shop} {items gifts : List CartItem} (h : buildPromotionItems shop items = .ok gifts)
    (hshop : ∀ campaigns, shop.activeCampaigns = some campaigns → ∀ c ∈ campaigns, ∃ n : ℤ, c.giftUnitPrice = n) :
    ∀ item ∈ gifts, Whole item := by
  cases hcampaigns : shop.activeCampaigns with
  | none =>
    unfold buildPromotionItems getActiveCampaigns at h
    rw [hcampaigns] at h
    split at h
    · cases h
      exact fun item hitem => (nomatch hitem)
    · cases h
  | some campaigns =>
    rw [buildPromotionItems_eq hcampaigns] at h
    intro item hitem
    obtain ⟨e, he, hgrant⟩ := mapM_mem h item hitem
    have hmem := (mem_giftCampaigns ((Greedy.choose_sublist _ _ _).subset he)).1
    unfold grant at hgrant
    cases hgift : validateVariantStock shop (e.campaign.giftVariantId.getD "") e.units with
    | error e =>
      rw [hgift] at hgrant
      cases hgrant
    | ok gift =>
      rw [hgift] at hgrant
      cases hgrant
      exact giftItem_whole (hshop _ hcampaigns _ hmem) gift e.units

section Programs
variable {cfg : Config} {S : State → Prop} {Given : Answer → Prop} {key : String} {cart : Cart} {α : Type}

theorem gives_withCartLock {operation : Procedure α} {a : α}
    (h : Gives (A := carts cfg) S Given (withCartLock key operation) (.ok a)) : Gives (A := carts cfg) S Given operation (.ok a) := by
  obtain ⟨token, -, h⟩ := gives_bind.1 h
  obtain ⟨acquired, -, h⟩ := gives_bind.1 h
  obtain ⟨-, -, h⟩ := gives_bind.1 h
  obtain ⟨result, hresult, h⟩ := gives_bind.1 h
  obtain ⟨-, -, h⟩ := gives_bind.1 h
  obtain rfl := gives_pure.1 h
  rcases gives_catching hresult with hresult | ⟨e, hrelease⟩
  · exact hresult
  · obtain ⟨-, -, h⟩ := gives_bind.1 hrelease
    exact absurd h not_gives_fail

theorem gives_askShop {shop : Shop} (h : Gives (A := carts cfg) S Given askShop (.ok shop)) : ∃ answer, Given answer ∧ answer.shop = shop := by
  obtain ⟨answer, hanswer, h⟩ := gives_bind.1 h
  exact ⟨answer, gives_answer.1 hanswer, (gives_pure.1 h).symm⟩

theorem gives_getRawCart (hS : ∀ s, S s → Undiscounted s) (h : Gives (A := carts cfg) S Given (getRawCart key) (.ok cart)) :
    cart.discountAmount = 0 := by
  obtain ⟨found, hfound, h⟩ := gives_bind.1 h
  obtain ⟨s, s', hs, hperf⟩ := gives_trans.1 hfound
  cases hperf
  split at h
  · obtain ⟨now, -, h⟩ := gives_bind.1 h
    rw [gives_pure.1 h]
  · rename_i cart' hsome
    rw [gives_pure.1 h]
    exact hS s hs key cart' hsome

/-- **What `saveCart` has made of a cart**, and of what it was told. -/
theorem gives_saveCart {shown : Cart} (h : Gives (A := carts cfg) S Given (saveCart cfg key cart) (.ok shown)) :
    ∃ variants promotions methods items promotionItems minimum fee now, Given variants ∧ Given promotions ∧ Given methods ∧
      cart.items.mapM (priceItem variants.shop) = .ok items ∧ buildPromotionItems promotions.shop items = .ok promotionItems ∧
      cfg.freeShippingMinimum = .ok minimum ∧ getDefaultShippingFee methods.shop = .ok fee ∧
      shown = totalCart cart items promotionItems minimum fee now := by
  obtain ⟨calculated, hcalculated, h⟩ := gives_bind.1 h
  obtain ⟨-, -, h⟩ := gives_bind.1 h
  obtain rfl := gives_pure.1 h
  obtain ⟨_, hshop, h⟩ := gives_bind.1 hcalculated
  obtain ⟨variants, hvariants, rfl⟩ := gives_askShop hshop
  obtain ⟨items, hitems, h⟩ := gives_bind.1 h
  obtain ⟨_, hshop, h⟩ := gives_bind.1 h
  obtain ⟨promotions, hpromotions, rfl⟩ := gives_askShop hshop
  obtain ⟨promotionItems, hpromotionItems, h⟩ := gives_bind.1 h
  obtain ⟨minimum, hminimum, h⟩ := gives_bind.1 h
  obtain ⟨_, hshop, h⟩ := gives_bind.1 h
  obtain ⟨methods, hmethods, rfl⟩ := gives_askShop hshop
  obtain ⟨fee, hfee, h⟩ := gives_bind.1 h
  obtain ⟨now, -, h⟩ := gives_bind.1 h
  exact ⟨variants, promotions, methods, items, promotionItems, minimum, fee, now, hvariants, hpromotions, hmethods,
    gives_ofExcept.1 hitems, gives_ofExcept.1 hpromotionItems, gives_ofExcept.1 hminimum, gives_ofExcept.1 hfee, gives_pure.1 h⟩

theorem gives_withCartLock_free {operation : Procedure α} {a : α} {s : State} (hs : S s) (hfree : s.held (lockKey key) = none)
    (h : Gives (A := carts cfg) S Given operation (.ok a)) : Gives (A := carts cfg) S Given (withCartLock key operation) (.ok a) := by
  have hacquire : perform (.acquireLock (lockKey key) s.nextToken lockTtlMs) s =
      .ok (true, { s with locks := s.locks.insert (lockKey key) ⟨s.nextToken, s.now + lockTtlMs⟩ }) := by
    rw [perform, hfree]
    rfl
  have hrelease : perform (.releaseLock (lockKey key) s.nextToken) s = .ok ((), s) := by
    rw [perform, hfree]
    rfl
  refine gives_bind.2 ⟨s.nextToken, gives_trans.2 ⟨s, _, hs, rfl⟩, gives_bind.2 ⟨true, ?_, gives_bind.2 ⟨(), gives_ensure.2 rfl, ?_⟩⟩⟩
  · exact gives_bind.2 ⟨true, gives_trans.2 ⟨s, _, hs, hacquire⟩, gives_pure.2 rfl⟩
  · exact gives_bind.2 ⟨a, gives_catching_of h, gives_bind.2 ⟨(), gives_trans.2 ⟨s, _, hs, hrelease⟩, gives_pure.2 rfl⟩⟩

end Programs

/-- **The sums of a cart**: those of its lines, with the fee unless they reach the minimum. -/
structure Sums (cart : Cart) (minimum fee : ℤ) : Prop where
  whole : ∀ item ∈ cart.items ++ cart.promotionItems, Whole item
  subtotal : cart.subtotal = ((cart.items ++ cart.promotionItems).map CartItem.subtotal).sum
  shippingFee : cart.shippingFee = if (minimum : ℚ) ≤ cart.subtotal then 0 else (fee : ℚ)
  totalAmount : cart.totalAmount = max 0 (cart.subtotal + cart.shippingFee)

/-- The rounded subtotals of such lines add up to their subtotals. -/
theorem sum_roundMoney : ∀ {l : List CartItem}, (∀ item ∈ l, Whole item) →
    (((l.map fun item => roundMoney item.subtotal).sum : ℤ) : ℚ) = (l.map CartItem.subtotal).sum
  | [], _ => rfl
  | item :: l, h => by
    obtain ⟨hitem, hl⟩ := List.forall_mem_cons.1 h
    rw [List.map_cons, List.map_cons, List.sum_cons, List.sum_cons, ← sum_roundMoney hl, Int.cast_add, hitem.subtotal,
      roundMoney_intCast]

theorem sums_totalCart {cart : Cart} {items promotionItems : List CartItem} {minimum fee : ℤ} {now : ℕ}
    (hcart : cart.discountAmount = 0) (hitems : items ≠ []) (hwhole : ∀ item ∈ items ++ promotionItems, Whole item) :
    Sums (totalCart cart items promotionItems minimum fee now) minimum fee := by
  have hsum := sum_roundMoney hwhole
  have hround : ((roundMoney ((items ++ promotionItems).map CartItem.subtotal).sum : ℤ) : ℚ) =
      ((items ++ promotionItems).map CartItem.subtotal).sum := by
    rw [← hsum, roundMoney_intCast]
  have hdiscount : roundMoney cart.discountAmount = 0 := by
    rw [hcart]
    exact_mod_cast roundMoney_intCast 0
  refine ⟨hwhole, hround, ?_, ?_⟩
  · simp only [totalCart, List.isEmpty_iff, hitems, false_or, Int.cast_le]
    split <;> rfl
  · simp only [totalCart, hdiscount]
    generalize roundMoney ((items ++ promotionItems).map CartItem.subtotal).sum = subtotal
    generalize (if items.isEmpty = true ∨ minimum ≤ subtotal then 0 else fee) = shippingFee
    have hmax := roundMoney_intCast (max 0 (subtotal - 0 + shippingFee))
    push_cast at hmax ⊢
    rw [hmax]
    push_cast
    ring_nf

theorem moneyOf_ok {value : JsNumber} {e : Err} {n : ℤ} (h : moneyOf value e = .ok n) :
    ∃ q, value = .num q ∧ 0 ≤ q ∧ n = roundMoney (q * 100) := by
  unfold moneyOf at h
  split at h
  · split at h
    · cases h
    · rename_i q hq
      cases h
      exact ⟨q, rfl, not_lt.1 hq, rfl⟩
  · cases h

/-- **What `validateCart` returns shows its sums**, by the settings. -/
theorem Snapshot.sums {t : Settings} (shown : Snapshot t) : ∃ (minimum : ℚ) (fee : ℤ), t.freeShippingMinimum = some minimum ∧
    t.baseFees.head? = some fee ∧ 0 ≤ minimum ∧ 0 ≤ fee ∧ Sums shown.cart (roundMoney (minimum * 100)) fee := by
  obtain ⟨owner, cart, r, h⟩ := shown
  obtain ⟨key, -, h⟩ := gives_bind.1 h
  obtain ⟨read, hread, h⟩ := gives_bind.1 (gives_withCartLock h)
  obtain ⟨lines, hlines, h⟩ := gives_bind.1 h
  obtain ⟨_, hsome, hlines⟩ := gives_bind.1 hlines
  obtain ⟨shop, -, hlines⟩ := gives_bind.1 hlines
  obtain ⟨variants, promotions, methods, items, promotionItems, n, fee, now, -, hpromotions, hmethods, hitems, hgifts, hn, hfee, rfl⟩ :=
    gives_saveCart h
  obtain ⟨q, hq, hpos, rfl⟩ := moneyOf_ok hn
  obtain ⟨base, hhead, hbase, rfl⟩ : ∃ base : ℤ, t.baseFees.head? = some base ∧ 0 ≤ base ∧ fee = base := by
    unfold getDefaultShippingFee at hfee
    split at hfee
    · cases hfee
    · cases hfee
    · rename_i first rest hfees
      obtain ⟨p, rfl, hp, rfl⟩ := moneyOf_ok hfee
      have hrows := hmethods.1 _ hfees
      cases hbase : t.baseFees with
      | nil =>
        rw [hbase] at hrows
        cases hrows
      | cons base others =>
        rw [hbase] at hrows
        obtain ⟨hfirst, -⟩ := List.cons.inj hrows
        cases hfirst
        have hcents : (base : ℚ) / 100 * 100 = base := by ring
        refine ⟨base, rfl, ?_, ?_⟩
        · have hscaled := mul_nonneg hp (by norm_num : (0 : ℚ) ≤ 100)
          rw [hcents] at hscaled
          exact_mod_cast hscaled
        · rw [hcents, roundMoney_intCast]
  have hminimum : t.freeShippingMinimum = some q := by
    unfold Settings.freeShippingMinimum
    rw [show (t.freeShippingMinAmount.map decimalNumber).getD (.num 500000) = .num q from hq]
  have hnonempty : items ≠ [] := by
    rintro rfl
    have hkept := (linesOf_priced hitems).trans (linesOf_refreshItems (gives_ofExcept.1 hlines))
    exact gives_ensure.1 hsome (List.map_eq_nil_iff.1 hkept.symm)
  refine ⟨q, fee, hminimum, hhead, hpos, hbase, sums_totalCart ?_ hnonempty fun item hitem => ?_⟩
  · change read.discountAmount = 0
    refine gives_getRawCart ?_ hread
    rintro s ⟨n, rfl⟩
    exact undiscounted_state r n
  · rcases List.mem_append.1 hitem with hitem | hitem
    · obtain ⟨line, -, hprice⟩ := mapM_mem hitems item hitem
      exact priceItem_whole hprice
    · exact buildPromotionItems_whole hgifts hpromotions.2 item hitem

/-! ## What is charged -/

def DiscountType.code : DiscountType → String
  | .percent => "PERCENT"
  | .amount => "AMOUNT"
  | .gift => "GIFT"

/-- The line as the order service reads it; `ids` are the ids that the texts spell. -/
def CartItem.toCheckout (ids : String → Uuid) (item : CartItem) : CheckoutItem where
  variantId := ids item.variantId
  productName := item.text.productName
  unitPrice := item.unitPrice
  quantity := item.quantity
  subtotal := item.subtotal
  campaignId := item.campaign.campaignId.map ids
  campaignDiscountType := item.campaign.campaignDiscountType.map DiscountType.code

/-- The order service can make this order of the cart, for a request without a voucher. -/
def Ordered (t : Settings) (cart : Cart) (row : Order) : Prop :=
  ∃ (base : Balii.Config) (ids : String → Uuid) (dto : CreateOrder) (c : Balii.Checkout) (R : List (LockKey schema) → Db → Db → Prop) (s : Db)
    (o : Outcome (LockKey schema) (Write schema) Uuid),
    nonEmpty dto.voucherCode = none ∧
    checkoutOf (t.order base) dto ((cart.items ++ cart.promotionItems).map (CartItem.toCheckout ids)) cart.subtotal = .ok c ∧
    Tx.Exec R (createOrderTransaction (t.order base) c) s [] [] o ∧ o.writes ≠ [] ∧
    (written o.writes s).find Tab.orders dto.orderId = some row

/-- **An order made of the cart**, with no voucher. -/
structure Placement (t : Settings) (cart : Cart) where
  row : Order
  ordered : Ordered t cart row

/-- **The order charges what the cart shows**, and adds up. -/
structure Agrees (cart : Cart) (row : Order) : Prop where
  subtotal : (row.subtotal : ℚ) = cart.subtotal
  shippingFee : (row.shippingFee : ℚ) = cart.shippingFee
  totalAmount : (row.totalAmount : ℚ) = cart.totalAmount
  sum : row.subtotal = (row.items.map OrderItem.subtotal).sum
  lines : ∀ item ∈ row.items, item.subtotal = roundMoney (item.unitPrice * item.quantity)

/-- The order has the lines of the cart, its subtotal, and the fee by the threshold as it is set. -/
theorem ordered_charges {t : Settings} {cart : Cart} {row : Order} {minimum : ℚ} {fee n : ℤ} (h : Ordered t cart row)
    (hminimum : t.freeShippingMinimum = some minimum) (hfee : t.baseFees.head? = some fee) (hsubtotal : cart.subtotal = n) :
    row.subtotal = n ∧ row.shippingFee = (if 100 * minimum ≤ n then 0 else fee) ∧ row.totalAmount = max 0 (n + row.shippingFee) ∧
      row.items.map (fun item => (item.unitPrice, item.quantity, item.subtotal)) = (cart.items ++ cart.promotionItems).map
        fun item => (roundMoney item.unitPrice, (item.quantity : ℤ), roundMoney item.subtotal) := by
  obtain ⟨base, ids, dto, c, R, s, o, hcode, hc, hexec, hplaced, hrow⟩ := h
  have hstored := unvouchered_order hc hcode hexec hplaced
  obtain rfl := Option.some.inj (hrow.symm.trans hstored)
  obtain ⟨charged, hshipping, hcheckout⟩ := checkoutOf_ok hc
  rw [hsubtotal, roundMoney_intCast] at hshipping
  have hitems : c.items = (cart.items ++ cart.promotionItems).map (CartItem.toCheckout ids) := by rw [hcheckout]
  have hcart : c.cartSubtotal = n := by rw [hcheckout, hsubtotal, roundMoney_intCast]
  have hcharged : c.shippingFee = if 100 * minimum ≤ n then 0 else fee := by
    rw [hcheckout]
    unfold shippingFeeOf at hshipping
    rw [show (t.order base).shippingBaseFee = some fee from hfee] at hshipping
    rw [show (t.order base).freeShippingMinimum = some minimum from hminimum] at hshipping
    dsimp only at hshipping
    split_ifs at hshipping with hnegative hbelow hfree
    · rw [if_pos hfree]
      exact (Except.ok.inj hshipping).symm
    · rw [if_neg hfree]
      exact (Except.ok.inj hshipping).symm
  refine ⟨hcart, hcharged, ?_, ?_⟩
  · change max 0 (c.cartSubtotal - 0 + c.shippingFee) = max 0 (n + c.shippingFee)
    rw [hcart, sub_zero]
  · change (c.items.zipIdx.map fun e => e.1.toOrderItem (c.itemId e.2)).map _ = _
    rw [hitems, List.map_map]
    change List.map ((fun item : CheckoutItem => (roundMoney item.unitPrice, item.quantity, roundMoney item.subtotal)) ∘ Prod.fst) _ = _
    rw [← List.map_map, List.zipIdx_map_fst, List.map_map]
    rfl

/-- The threshold of the cart is reached, that of the order is not. -/
def Between (t : Settings) (cart : Cart) : Prop :=
  ∃ minimum, t.freeShippingMinimum = some minimum ∧ (roundMoney (minimum * 100) : ℚ) ≤ cart.subtotal ∧ cart.subtotal < minimum * 100

/-- **The total shown is the total charged** exactly when there is no fee to charge, or the subtotal does not lie between the rounded
threshold and the threshold. -/
theorem shown_charged_iff (t : Settings) (shown : Snapshot t) (order : Placement t shown.cart) :
    Agrees shown.cart order.row ↔ t.baseFees.head? = some 0 ∨ ¬ Between t shown.cart := by
  obtain ⟨minimum, fee, hminimum, hfee, -, -, hsums⟩ := shown.sums
  have hwhole := sum_roundMoney hsums.whole
  rw [← hsums.subtotal] at hwhole
  obtain ⟨hsubtotal, hshipping, htotal, hlines⟩ := ordered_charges order.ordered hminimum hfee hwhole.symm
  have hfees : Agrees shown.cart order.row ↔ (order.row.shippingFee : ℚ) = shown.cart.shippingFee := by
    refine ⟨Agrees.shippingFee, fun h => ⟨by rw [hsubtotal, hwhole], h, ?_, ?_, ?_⟩⟩
    · rw [htotal, hsums.totalAmount, ← h, ← hwhole]
      push_cast
      rfl
    · have hsums' := congrArg (List.map fun x : ℤ × ℤ × ℤ => x.2.2) hlines
      rw [List.map_map, List.map_map] at hsums'
      rw [hsubtotal]
      exact congrArg List.sum hsums'.symm
    · intro item hitem
      have hmem := List.mem_map_of_mem (f := fun item : OrderItem => (item.unitPrice, item.quantity, item.subtotal)) hitem
      rw [hlines] at hmem
      obtain ⟨line, hline, heq⟩ := List.mem_map.1 hmem
      obtain ⟨⟨price, hprice⟩, hcost⟩ := hsums.whole line hline
      simp only [Prod.mk.injEq, hprice, hcost, roundMoney_intCast] at heq
      obtain ⟨hunit, hquantity, hsub⟩ := heq
      rw [← hsub, ← hunit, ← hquantity]
      push_cast
      rfl
  rw [hfees, hshipping, hsums.shippingFee, hfee]
  have hround : ∀ k : ℤ, 100 * minimum ≤ k → roundMoney (minimum * 100) ≤ k := fun k hk => roundMoney_le (mul_comm minimum 100 ▸ hk)
  generalize ((shown.cart.items ++ shown.cart.promotionItems).map fun item => roundMoney item.subtotal).sum = n at *
  have hbetween : Between t shown.cart ↔ roundMoney (minimum * 100) ≤ n ∧ ¬ 100 * minimum ≤ n := by
    unfold Between
    rw [← hwhole, mul_comm 100 minimum, not_le]
    constructor
    · rintro ⟨m, hm, hle, hlt⟩
      obtain rfl := Option.some.inj (hminimum.symm.trans hm)
      exact ⟨by exact_mod_cast hle, hlt⟩
    · exact fun ⟨hle, hlt⟩ => ⟨minimum, hminimum, by exact_mod_cast hle, hlt⟩
  simp only [hbetween, ← hwhole, Int.cast_le, Option.some_inj]
  by_cases hfree : 100 * minimum ≤ n
  · rw [if_pos hfree, if_pos (hround n hfree)]
    exact iff_of_true rfl (.inr fun h => h.2 hfree)
  · rw [if_neg hfree]
    by_cases hreached : roundMoney (minimum * 100) ≤ n
    · rw [if_pos hreached]
      refine ⟨fun h => .inl (by exact_mod_cast h), fun h => ?_⟩
      rw [h.resolve_right fun hnot => hnot ⟨hreached, hfree⟩]
      rfl
    · rw [if_neg hreached]
      exact iff_of_true rfl (.inr fun h => hreached h.1)

/-! ## A threshold of less than a hundredth more -/

/-- Free shipping from 1000.004 dong on; the cart takes it for 1000 dong. -/
def fractional : Settings := ⟨some "1000.004", [3000000]⟩

/-- The customer has a shirt of 1000 dong in the cart. -/
def shirtStored : State where
  carts := (∅ : Table String Cart).insert "cart:7" ⟨"cart:7", [newItem (sampleVariant "1") 1], [], 0, 0, 0, 0, 0⟩
  expires := (∅ : Table String ℕ).insert "cart:7" cartTtlMs
  locks := ∅
  nextToken := 0
  now := 0

theorem undiscounted_shirtStored : Undiscounted shirtStored := by
  intro key cart h
  change ((∅ : Table String Cart).insert "cart:7" _).lookup key = some cart at h
  by_cases hkey : key = "cart:7"
  · subst hkey
    rw [AList.lookup_insert] at h
    cases h
    rfl
  · rw [AList.lookup_insert_ne hkey] at h
    cases h

/-- What the customer sees: shipping is free. -/
def shirtShown : Cart where
  ownerKey := "cart:7"
  items := [newItem (sampleVariant "1") 1]
  promotionItems := []
  subtotal := 100000
  discountAmount := 0
  shippingFee := 0
  totalAmount := 100000
  updatedAt := 0

theorem sampleShop_answered : fractional.Answered sampleShop := by
  refine ⟨fun fees h => ?_, fun campaigns h c hc => ?_⟩
  · cases h
    decide +kernel
  · cases h
    cases hc

theorem shirt_validated : Validated fractional customer shirtShown := by
  let r : (carts fractional.cart).Run Undiscounted := .ofSchedule shirtStored [] undiscounted_shirtStored
  have hvisits : r.Visits shirtStored := ⟨0, rfl⟩
  refine ⟨r, gives_bind.2 ⟨"cart:7", gives_ofExcept.2 rfl, gives_withCartLock_free hvisits rfl ?_⟩⟩
  refine gives_bind.2 ⟨⟨"cart:7", [newItem (sampleVariant "1") 1], [], 0, 0, 0, 0, 0⟩, ?_, ?_⟩
  · exact gives_bind.2 ⟨some _, gives_trans.2 ⟨shirtStored, _, hvisits, rfl⟩, gives_pure.2 rfl⟩
  have hshop : Gives (A := carts fractional.cart) r.Visits fractional.Answered askShop (.ok sampleShop.shop) :=
    gives_bind.2 ⟨sampleShop, gives_answer.2 sampleShop_answered, gives_pure.2 rfl⟩
  have hminimum : fractional.cart.freeShippingMinimum = .ok 100000 := by decide +kernel
  have hfee : getDefaultShippingFee sampleShop.shop = .ok 3000000 := by decide +kernel
  have hprice : [newItem (sampleVariant "1") 1].mapM (priceItem sampleShop.shop) = .ok [newItem (sampleVariant "1") 1] := by
    decide +kernel
  have htotal : shirtShown = totalCart ⟨"cart:7", [newItem (sampleVariant "1") 1], [], 0, 0, 0, 0, 0⟩ [newItem (sampleVariant "1") 1] []
      100000 3000000 0 := by decide +kernel
  refine gives_bind.2 ⟨[newItem (sampleVariant "1") 1], ?_, gives_bind.2 ⟨shirtShown, ?_, ?_⟩⟩
  · exact gives_bind.2 ⟨(), gives_ensure.2 (List.cons_ne_nil _ _), gives_bind.2 ⟨_, hshop, gives_ofExcept.2 rfl⟩⟩
  · refine gives_bind.2 ⟨_, hshop, gives_bind.2 ⟨_, gives_ofExcept.2 hprice, gives_bind.2 ⟨_, hshop, ?_⟩⟩⟩
    refine gives_bind.2 ⟨[], gives_ofExcept.2 rfl, gives_bind.2 ⟨_, gives_ofExcept.2 hminimum, gives_bind.2 ⟨_, hshop, ?_⟩⟩⟩
    refine gives_bind.2 ⟨_, gives_ofExcept.2 hfee, gives_bind.2 ⟨0, gives_trans.2 ⟨shirtStored, _, hvisits, rfl⟩, ?_⟩⟩
    exact gives_pure.2 htotal
  · exact gives_bind.2 ⟨(), gives_trans.2 ⟨shirtStored, _, hvisits, rfl⟩, gives_pure.2 rfl⟩

/-- One shirt is in stock. -/
def shirtStock : Db where
  rows t :=
    match t with
    | .variants => (∅ : Table Uuid Variant).insert 1 { stockQuantity := 1, reservedQuantity := 0, isActive := true }
    | _ => ∅
  log := []

def shirtRequest : CreateOrder where
  orderId := 1
  orderCode := "BL1"
  itemId := .refl _
  userId := 7
  idempotencyKey := 1
  voucherCode := none
  shippingAddress := ⟨1, 1, 1⟩
  now := 1

/-- What the order service makes of the cart: shipping is charged. -/
def shirtCheckout : Balii.Checkout where
  orderId := 1
  orderCode := "BL1"
  itemId := .refl _
  userId := 7
  idempotencyKey := 1
  voucherCode := none
  shippingAddress := ⟨1, 1, 1⟩
  items := [(newItem (sampleVariant "1") 1).toCheckout fun _ => 1]
  cartSubtotal := 100000
  shippingFee := 3000000
  now := 1

theorem shirt_checkoutOf : checkoutOf (fractional.order sampleConfig) shirtRequest
    ((shirtShown.items ++ shirtShown.promotionItems).map (CartItem.toCheckout fun _ => 1)) shirtShown.subtotal = .ok shirtCheckout := by
  have hfee : shippingFeeOf (fractional.order sampleConfig) (roundMoney shirtShown.subtotal) = .ok 3000000 := by decide +kernel
  have hsubtotal : roundMoney shirtShown.subtotal = 100000 := by decide +kernel
  unfold checkoutOf
  rw [hfee, hsubtotal]
  rfl

theorem shirt_ordered : Ordered fractional shirtShown (shirtCheckout.order none) := by
  cases hrun : (createOrderTransaction (fractional.order sampleConfig) shirtCheckout).run shirtStock [] [] with
  | error e =>
    have hok : ((createOrderTransaction (fractional.order sampleConfig) shirtCheckout).run shirtStock [] []).isOk = true := by
      decide
    rw [hrun] at hok
    cases hok
  | ok o =>
    have hwrites : ((createOrderTransaction (fractional.order sampleConfig) shirtCheckout).run shirtStock [] []).toOption.all
        (fun o => o.writes.isEmpty) = false := by decide
    rw [hrun] at hwrites
    have hplaced : o.writes ≠ [] := by
      intro h
      simp [Except.toOption, h] at hwrites
    have hexec := (Tx.run_eq_ok _ [] []).1 hrun
    exact ⟨sampleConfig, fun _ => 1, shirtRequest, shirtCheckout, _, shirtStock, o, rfl, shirt_checkoutOf, hexec, hplaced,
      unvouchered_order shirt_checkoutOf rfl hexec hplaced⟩

/-- **The customer sees 1000 dong and is charged 31 000**. -/
theorem shirt_charged : ¬ ∀ (t : Settings) (shown : Snapshot t) (order : Placement t shown.cart), Agrees shown.cart order.row := by
  intro h
  have hfee := (h fractional ⟨customer, shirtShown, shirt_validated⟩ ⟨_, shirt_ordered⟩).shippingFee
  exact absurd hfee (by decide)

end Balii.Carts
