import Balii.Money
import Mathlib.Algebra.Order.Field.Rat
import Mathlib.Tactic.Linarith
/-!
# Product.Prices — what a product costs under its sale and its campaign

Prices and discounts are whole numbers of hundredths, of a dong or of a percent, as their columns hold them.
-/
namespace Balii.Prices

inductive CampaignDiscountType
  | percent
  | amount
  | gift
  deriving DecidableEq

/-- `validateCampaign`, of the discount. -/
def validateCampaign (discountType : CampaignDiscountType) (discountValue : Option ℚ) : Except Err Unit :=
  match discountType with
  | .percent =>
    if discountValue.all fun v => v ≤ 0 || 100 < v then .error (badRequest "Percent discount must be between 0 and 100")
    else .ok ()
  | .amount =>
    if discountValue.all fun v => v ≤ 0 then .error (badRequest "Amount discount must be greater than 0") else .ok ()
  | .gift => .ok ()

/-- What the column holds of a discount that is accepted; half a hundredth and less is stored as nothing. -/
def IsDiscount (discountType : CampaignDiscountType) (discountValue : Option ℤ) : Prop :=
  match discountType with
  | .percent => 0 ≤ discountValue.getD 0 ∧ discountValue.getD 0 ≤ 10000
  | .amount => 0 ≤ discountValue.getD 0
  | .gift => True

structure Campaign where
  id : Uuid
  productIds : List Uuid
  discountType : CampaignDiscountType
  discountValue : Option ℤ
  stackableWithSale : Bool
  priorityOrder : ℤ
  startAt : Time
  endAt : Time
  createdAt : Time
  isActive : Bool
  accepted : IsDiscount discountType discountValue

structure Variant where
  id : Uuid
  price : Option ℤ
  isActive : Bool
  /-- `chk_product_variants_price_nonnegative`. -/
  price_nonneg : ∀ x ∈ price, 0 ≤ x

structure Product where
  id : Uuid
  basePrice : ℤ
  salePrice : Option ℤ
  saleStartAt : Option Time
  saleEndAt : Option Time
  isActive : Bool
  variants : List Variant
  /-- `chk_products_price_invariants`. -/
  basePrice_nonneg : 0 ≤ basePrice
  salePrice_le : ∀ x ∈ salePrice, 0 ≤ x ∧ x ≤ basePrice

/-! ## Prices -/

/-- `activeSalePriceSql`. -/
def Product.activeSalePrice (p : Product) (now : Time) : Option ℤ :=
  p.salePrice.filter fun _ => (p.saleStartAt.all fun t => t ≤ now) && p.saleEndAt.all fun t => now ≤ t

/-- `COALESCE(pv.price, p.base_price)`. -/
def Product.regularPrice (p : Product) (v : Variant) : ℤ := v.price.getD p.basePrice

/-- `percentPriceSql` and `amountPriceSql`: a price with the campaign's discount, never below nothing. -/
def Campaign.reduce (c : Campaign) (price : ℤ) : ℚ :=
  let discountValue : ℚ := c.discountValue.getD 0
  match c.discountType with
  | .percent => max (price * (1 - discountValue / 10000)) 0
  | .amount => max (price - discountValue) 0
  | .gift => price

/-- `buildCampaignAdjustedPriceSql`, where `ac` is the campaign of the join. -/
def campaignAdjustedPrice (basePrice regularPrice : ℤ) (ac : Option Campaign) : ℤ :=
  match ac with
  | none => basePrice
  | some c =>
    match c.discountType with
    | .gift => basePrice
    | _ => numeric (if c.stackableWithSale then c.reduce basePrice else min basePrice (c.reduce regularPrice))

/-- `unitPrice` of `getVariantSnapshot`, and `salePrice` of a variant in `getProductsForFrontend`. -/
def Product.variantPrice (p : Product) (now : Time) (v : Variant) (ac : Option Campaign) : ℤ :=
  campaignAdjustedPrice (((p.activeSalePrice now).or v.price).getD p.basePrice) (p.regularPrice v) ac

/-- `salePrice` of a product in `getProductsForFrontend`. -/
def Product.frontendPrice (p : Product) (now : Time) (ac : Option Campaign) : ℤ :=
  campaignAdjustedPrice ((p.activeSalePrice now).getD p.basePrice) p.basePrice ac

/-! ## Rounding -/

theorem numeric_nonneg {x : ℚ} (h : 0 ≤ x) : 0 ≤ numeric x := by
  unfold numeric
  rw [if_pos h]
  exact Int.floor_nonneg.2 (by linarith)

theorem numeric_mono {x y : ℚ} (hx : 0 ≤ x) (h : x ≤ y) : numeric x ≤ numeric y := by
  unfold numeric
  rw [if_pos hx, if_pos (hx.trans h)]
  exact Int.floor_le_floor (by linarith)

/-- An amount rounds to no more than a price exactly if it is less than half a hundredth above it. -/
theorem numeric_le_iff {x : ℚ} (hx : 0 ≤ x) (n : ℤ) : numeric x ≤ n ↔ x < n + 1 / 2 := by
  unfold numeric
  rw [if_pos hx, ← Int.lt_add_one_iff, Int.floor_lt, Int.cast_add, Int.cast_one]
  constructor
  · intro h
    linarith
  · intro h
    linarith

theorem numeric_min {n : ℤ} {x : ℚ} (hn : 0 ≤ n) (hx : 0 ≤ x) : numeric (min (n : ℚ) x) = min n (numeric x) := by
  have hn' : (0 : ℚ) ≤ n := by exact_mod_cast hn
  rcases le_total (n : ℚ) x with h | h
  · have hle := numeric_mono hn' h
    rw [numeric_intCast] at hle
    rw [min_eq_left h, numeric_intCast, min_eq_left hle]
  · have hle := numeric_mono hx h
    rw [numeric_intCast] at hle
    rw [min_eq_right h, min_eq_right hle]

theorem numeric_hundredths {v : ℚ} (h : 0 < v) : 0 ≤ numeric (v * 100) := numeric_nonneg (by linarith)

/-- What `validateCampaign` lets through is stored as a discount. -/
theorem isDiscount_of_validateCampaign {discountType : CampaignDiscountType} {discountValue : Option ℚ}
    (h : validateCampaign discountType discountValue = .ok ()) :
    IsDiscount discountType (discountValue.map fun v => numeric (v * 100)) := by
  unfold validateCampaign at h
  cases discountType with
  | percent =>
    cases discountValue with
    | none => cases h
    | some v =>
      simp only [Option.all_some, Bool.or_eq_true, decide_eq_true_eq] at h
      split at h
      · cases h
      · rename_i hv
        rw [not_or, not_le, not_lt] at hv
        refine ⟨numeric_hundredths hv.1, ?_⟩
        change numeric (v * 100) ≤ 10000
        rw [numeric_le_iff (by linarith [hv.1])]
        push_cast
        linarith [hv.2]
  | amount =>
    cases discountValue with
    | none => cases h
    | some v =>
      simp only [Option.all_some, decide_eq_true_eq] at h
      split at h
      · cases h
      · rename_i hv
        exact numeric_hundredths (not_le.1 hv)
  | gift => exact trivial

/-! ## Discounts -/

/-- A price with the discount, to the hundredth. -/
def Campaign.discounted (c : Campaign) (price : ℤ) : ℤ := numeric (c.reduce price)

/-- The campaign of the join, if it takes something off. -/
def discountOf (ac : Option Campaign) : Option Campaign := ac.filter fun c => c.discountType != .gift

variable {c : Campaign} {price : ℤ}

theorem reduce_nonneg (h : 0 ≤ price) : 0 ≤ c.reduce price := by
  unfold Campaign.reduce
  simp only
  cases c.discountType with
  | percent => exact le_max_right _ _
  | amount => exact le_max_right _ _
  | gift =>
    simp only
    exact_mod_cast h

theorem reduce_le (h : 0 ≤ price) : c.reduce price ≤ price := by
  have hprice : (0 : ℚ) ≤ price := by exact_mod_cast h
  have hvalid := c.accepted
  unfold Campaign.reduce
  unfold IsDiscount at hvalid
  cases ht : c.discountType with
  | percent =>
    rw [ht] at hvalid
    have hv : (0 : ℚ) ≤ (c.discountValue.getD 0 : ℤ) := by exact_mod_cast hvalid.1
    refine max_le ?_ hprice
    have := mul_nonneg hprice hv
    linarith
  | amount =>
    rw [ht] at hvalid
    have hv : (0 : ℚ) ≤ (c.discountValue.getD 0 : ℤ) := by exact_mod_cast hvalid
    exact max_le (by linarith) hprice
  | gift => exact le_rfl

theorem discounted_nonneg (h : 0 ≤ price) : 0 ≤ c.discounted price := numeric_nonneg (reduce_nonneg h)

theorem discounted_le (h : 0 ≤ price) : c.discounted price ≤ price := by
  have hle := numeric_mono (reduce_nonneg h) (reduce_le (c := c) h)
  rwa [numeric_intCast] at hle

/-- A price that the discount brings down to a limit, give or take less than half a hundredth. -/
def Campaign.BringsUnder (c : Campaign) (price limit : ℤ) : Prop :=
  match c.discountType with
  | .percent => price * (10000 - c.discountValue.getD 0) < 10000 * limit + 5000
  | .amount => price - c.discountValue.getD 0 ≤ limit
  | .gift => price ≤ limit

theorem discounted_le_iff {limit : ℤ} (h : 0 ≤ price) (hlimit : 0 ≤ limit) :
    c.discounted price ≤ limit ↔ c.BringsUnder price limit := by
  have hlimit' : (0 : ℚ) ≤ limit := by exact_mod_cast hlimit
  have hiff := numeric_le_iff (reduce_nonneg (c := c) h) limit
  unfold Campaign.discounted
  rw [hiff]
  unfold Campaign.reduce Campaign.BringsUnder
  cases c.discountType with
  | percent =>
    simp only [max_lt_iff]
    constructor
    · rintro ⟨hlt, _⟩
      have hq : (price : ℚ) * (10000 - (c.discountValue.getD 0 : ℤ)) < 10000 * limit + 5000 := by linarith
      exact_mod_cast hq
    · intro hlt
      have hq : (price : ℚ) * (10000 - (c.discountValue.getD 0 : ℤ)) < 10000 * limit + 5000 := by exact_mod_cast hlt
      exact ⟨by linarith, by linarith⟩
  | amount =>
    simp only [max_lt_iff]
    constructor
    · rintro ⟨hlt, _⟩
      have hq : ((price - c.discountValue.getD 0 : ℤ) : ℚ) < ((limit + 1 : ℤ) : ℚ) := by
        push_cast
        linarith
      exact Int.lt_add_one_iff.1 (by exact_mod_cast hq)
    · intro hle
      have hq : ((price - c.discountValue.getD 0 : ℤ) : ℚ) ≤ (limit : ℚ) := by exact_mod_cast hle
      push_cast at hq
      exact ⟨by linarith, by linarith⟩
  | gift =>
    simp only
    constructor
    · intro hlt
      have hq : (price : ℚ) < ((limit + 1 : ℤ) : ℚ) := by
        push_cast
        linarith
      exact Int.lt_add_one_iff.1 (by exact_mod_cast hq)
    · intro hle
      have hq : (price : ℚ) ≤ (limit : ℚ) := by exact_mod_cast hle
      linarith

/-- **The price of the shop**: what the discount leaves of the sale if they stack, else the lower of the two. -/
theorem campaignAdjustedPrice_eq {basePrice regularPrice : ℤ} (hbase : 0 ≤ basePrice) (hregular : 0 ≤ regularPrice)
    (ac : Option Campaign) :
    campaignAdjustedPrice basePrice regularPrice ac =
      match discountOf ac with
      | none => basePrice
      | some c => if c.stackableWithSale then c.discounted basePrice else min basePrice (c.discounted regularPrice) := by
  unfold campaignAdjustedPrice discountOf
  cases ac with
  | none => rfl
  | some c =>
    have hsplit : numeric (if c.stackableWithSale then c.reduce basePrice else min (basePrice : ℚ) (c.reduce regularPrice)) =
        if c.stackableWithSale then c.discounted basePrice else min basePrice (c.discounted regularPrice) := by
      unfold Campaign.discounted
      split
      · rfl
      · exact numeric_min hbase (reduce_nonneg hregular)
    rw [Option.filter_some]
    simp only
    cases ht : c.discountType with
    | gift => rfl
    | percent => exact hsplit
    | amount => exact hsplit

/-! ## A variant's price -/

theorem activeSalePrice_bounds {p : Product} {now : Time} {sale : ℤ} (h : sale ∈ p.activeSalePrice now) :
    0 ≤ sale ∧ sale ≤ p.basePrice := by
  unfold Product.activeSalePrice at h
  exact p.salePrice_le sale (Option.mem_filter_iff.1 h).1

theorem regularPrice_nonneg (p : Product) (v : Variant) : 0 ≤ p.regularPrice v := by
  unfold Product.regularPrice
  cases hv : v.price with
  | none => exact p.basePrice_nonneg
  | some x => exact v.price_nonneg x hv

/-- The sale goes before the variant's own price. -/
theorem variantPrice_eq (p : Product) (now : Time) (v : Variant) (ac : Option Campaign) :
    p.variantPrice now v ac =
      campaignAdjustedPrice ((p.activeSalePrice now).getD (p.regularPrice v)) (p.regularPrice v) ac := by
  unfold Product.variantPrice Product.regularPrice
  cases p.activeSalePrice now <;> rfl

theorem getD_nonneg {o : Option ℤ} {x : ℤ} (ho : ∀ y ∈ o, 0 ≤ y) (hx : 0 ≤ x) : 0 ≤ o.getD x := by
  cases o with
  | none => exact hx
  | some y => exact ho y rfl

theorem campaignAdjustedPrice_nonneg {basePrice regularPrice : ℤ} (hbase : 0 ≤ basePrice) (hregular : 0 ≤ regularPrice)
    (ac : Option Campaign) : 0 ≤ campaignAdjustedPrice basePrice regularPrice ac := by
  rw [campaignAdjustedPrice_eq hbase hregular]
  split
  · exact hbase
  · split
    · exact discounted_nonneg hbase
    · exact le_min hbase (discounted_nonneg hregular)

/-- A sale that, with the campaign, leaves a price where it was or below. -/
def SaleFits (ac : Option Campaign) (sale regularPrice : ℤ) : Prop :=
  match discountOf ac with
  | none => sale ≤ regularPrice
  | some c => c.stackableWithSale = false ∨ c.BringsUnder sale regularPrice

/-- **A price that is never above the regular one**: one without a sale, or with one that fits. -/
theorem campaignAdjustedPrice_le_iff {sale : Option ℤ} {regularPrice : ℤ} (hsale : ∀ s ∈ sale, 0 ≤ s)
    (hregular : 0 ≤ regularPrice) (ac : Option Campaign) :
    campaignAdjustedPrice (sale.getD regularPrice) regularPrice ac ≤ regularPrice ↔
      ∀ s ∈ sale, SaleFits ac s regularPrice := by
  rw [campaignAdjustedPrice_eq (getD_nonneg hsale hregular) hregular]
  unfold SaleFits
  cases sale with
  | none =>
    refine iff_of_true ?_ nofun
    cases discountOf ac with
    | none => exact le_rfl
    | some c =>
      simp only [Option.getD_none]
      split
      · exact discounted_le hregular
      · exact min_le_left _ _
  | some s =>
    have hs := hsale s rfl
    simp only [Option.getD_some, Option.mem_def, Option.some.injEq, forall_eq']
    cases discountOf ac with
    | none => exact Iff.rfl
    | some c =>
      simp only
      cases hstack : c.stackableWithSale with
      | true => simpa using discounted_le_iff hs hregular
      | false => simpa using Or.inr (discounted_le hregular)

/-- **A sale or a campaign raises no price exactly when an active sale fits the variant's own price**: the constraint of the
table only bounds it by the price of the product. -/
theorem unitPrice_bounded_iff (p : Product) (now : Time) (v : Variant) (ac : Option Campaign) :
    (0 ≤ p.variantPrice now v ac ∧ p.variantPrice now v ac ≤ p.regularPrice v) ↔
      ∀ sale ∈ p.activeSalePrice now, SaleFits ac sale (p.regularPrice v) := by
  have hsale : ∀ s ∈ p.activeSalePrice now, 0 ≤ s := fun s hs => (activeSalePrice_bounds hs).1
  have hregular := regularPrice_nonneg p v
  rw [variantPrice_eq, campaignAdjustedPrice_le_iff hsale hregular]
  constructor
  · exact fun h => h.2
  · exact fun h => ⟨campaignAdjustedPrice_nonneg (getD_nonneg hsale hregular) hregular ac, h⟩

/-- A variant at half the price of its product. -/
def smallSize : Variant := ⟨1, some 5000, true, by decide⟩

/-- A product on sale at eighty instead of a hundred. -/
def shirtOnSale : Product where
  id := 1
  basePrice := 10000
  salePrice := some 8000
  saleStartAt := none
  saleEndAt := none
  isActive := true
  variants := [smallSize, ⟨2, none, true, by decide⟩]
  basePrice_nonneg := by decide
  salePrice_le := by decide

/-- The sale raises the price of the small size. -/
theorem smallSize_raised : ¬ (0 ≤ shirtOnSale.variantPrice 0 smallSize none ∧
    shirtOnSale.variantPrice 0 smallSize none ≤ shirtOnSale.regularPrice smallSize) := by decide

end Balii.Prices
