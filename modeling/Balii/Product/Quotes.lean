import Balii.Product.Prices
/-!
# Product.Quotes — the prices the chatbot reads, beside those of the shop

Each service has a query of its own.  The shop takes the first of all live campaigns; the chatbot the first of those with
a discount, in another order.  Of several rows that are first, a query may take any.
-/
namespace Balii.Prices

/-! ## The two queries -/

/-- `ORDER BY … LIMIT 1`: one of the rows that no other comes before. -/
def IsFirst {α : Type} (before : α → α → Prop) (rows : List α) : Option α → Prop
  | none => rows = []
  | some a => a ∈ rows ∧ ∀ b ∈ rows, ¬ before b a

/-- The campaign is active now and is about the product. -/
def Campaign.isLive (c : Campaign) (p : Product) (now : Time) : Bool :=
  c.isActive && c.productIds.contains p.id && decide (c.startAt ≤ now) && decide (now ≤ c.endAt)

/-- `activeCampaignJoinSql`. -/
def FrontendCampaign (campaigns : List Campaign) (p : Product) (now : Time) : Option Campaign → Prop :=
  IsFirst
    (fun c d => d.priorityOrder < c.priorityOrder ∨ (c.priorityOrder = d.priorityOrder ∧
      (c.startAt < d.startAt ∨ (c.startAt = d.startAt ∧ d.createdAt < c.createdAt))))
    (campaigns.filter fun c => c.isLive p now)

/-- The join of `getAllActiveProducts`. -/
def KnowledgeCampaign (campaigns : List Campaign) (p : Product) (now : Time) : Option Campaign → Prop :=
  IsFirst
    (fun c d => d.priorityOrder < c.priorityOrder ∨ (c.priorityOrder = d.priorityOrder ∧ d.createdAt < c.createdAt))
    (campaigns.filter fun c => c.isLive p now && c.discountType != .gift)

/-- The prices of one row: the product's, and each active variant's by its id. -/
structure PriceRow where
  id : Uuid
  salePrice : ℤ
  variants : List (Uuid × ℤ)
  deriving DecidableEq

def Product.activeVariants (p : Product) : List Variant := p.variants.filter Variant.isActive

/-- A row of `getProductsForFrontend`. -/
def Product.frontendRow (p : Product) (now : Time) (ac : Option Campaign) : PriceRow where
  id := p.id
  salePrice := p.frontendPrice now ac
  variants := p.activeVariants.map fun v => (v.id, p.variantPrice now v ac)

/-- `salePrice` of `getAllActiveProducts`. -/
def Product.knowledgePrice (p : Product) (now : Time) (ac : Option Campaign) : ℤ :=
  let saleOrBase := (p.activeSalePrice now).getD p.basePrice
  match discountOf ac with
  | none => saleOrBase
  | some c => c.discounted (if c.stackableWithSale then saleOrBase else p.basePrice)

/-- A variant's `price` of `getAllActiveProducts`. -/
def Product.knowledgeVariantPrice (p : Product) (v : Variant) (ac : Option Campaign) : ℤ :=
  match discountOf ac with
  | none => p.regularPrice v
  | some c => c.discounted (p.regularPrice v)

/-- A row of `getAllActiveProducts`. -/
def Product.knowledgeRow (p : Product) (now : Time) (ac : Option Campaign) : PriceRow where
  id := p.id
  salePrice := p.knowledgePrice now ac
  variants := p.activeVariants.map fun v => (v.id, p.knowledgeVariantPrice v ac)

/-! ## One discount -/

variable {sale : Option ℤ} {regularPrice : ℤ}

/-- What the shop charges under a discount is the amount quoted. -/
def Coincides (discount : Option Campaign) (sale : Option ℤ) (regularPrice quoted : ℤ) : Prop :=
  match discount with
  | none => quoted = sale.getD regularPrice
  | some c =>
    if c.stackableWithSale = true then quoted = c.discounted (sale.getD regularPrice)
    else quoted = min (sale.getD regularPrice) (c.discounted regularPrice)

theorem coincides_iff (hsale : ∀ s ∈ sale, 0 ≤ s) (hregular : 0 ≤ regularPrice) (ac : Option Campaign) (quoted : ℤ) :
    quoted = campaignAdjustedPrice (sale.getD regularPrice) regularPrice ac ↔
      Coincides (discountOf ac) sale regularPrice quoted := by
  rw [campaignAdjustedPrice_eq (getD_nonneg hsale hregular) hregular]
  unfold Coincides
  cases discountOf ac with
  | none => exact Iff.rfl
  | some c =>
    simp only
    split <;> exact Iff.rfl

/-- A sale that the chatbot leaves out of the product's price makes no difference to it. -/
def ProductSaleFits (discount : Option Campaign) (sale basePrice : ℤ) : Prop :=
  match discount with
  | none => True
  | some c => c.stackableWithSale = true ∨ c.BringsUnder basePrice sale

/-- A sale, which the chatbot leaves out of a variant's price, makes no difference to it. -/
def VariantSaleFits (discount : Option Campaign) (sale regularPrice : ℤ) : Prop :=
  match discount with
  | none => sale = regularPrice
  | some c =>
    if c.stackableWithSale = true then c.discounted sale = c.discounted regularPrice else c.BringsUnder regularPrice sale

/-- The cent that the discount brings a price to, from its kind and its value. -/
def Campaign.BringsTo (c : Campaign) (price amount : ℤ) : Prop :=
  match c.discountType with
  | .percent =>
    10000 * amount - 5000 ≤ price * (10000 - c.discountValue.getD 0) ∧
      price * (10000 - c.discountValue.getD 0) < 10000 * amount + 5000
  | .amount => amount = max (price - c.discountValue.getD 0) 0
  | .gift => amount = price

/-- What the shop's discount leaves of a price: of the sale if they stack, else the lower of the sale and the discount. -/
def Leaves (discount : Option Campaign) (sale : Option ℤ) (regularPrice amount : ℤ) : Prop :=
  match discount with
  | none => amount = sale.getD regularPrice
  | some c =>
    if c.stackableWithSale = true then c.BringsTo (sale.getD regularPrice) amount
    else (c.BringsUnder regularPrice (sale.getD regularPrice) ∧ c.BringsTo regularPrice amount) ∨
      (¬ c.BringsUnder regularPrice (sale.getD regularPrice) ∧ amount = sale.getD regularPrice)

theorem discounted_eq_iff {c : Campaign} {price amount : ℤ} (h : 0 ≤ price) :
    c.discounted price = amount ↔ c.BringsTo price amount := by
  have hvalid := c.accepted
  unfold IsDiscount at hvalid
  unfold Campaign.discounted Campaign.reduce Campaign.BringsTo
  cases ht : c.discountType with
  | percent =>
    rw [ht] at hvalid
    have hfactor : (0 : ℤ) ≤ price * (10000 - c.discountValue.getD 0) := mul_nonneg h (by linarith [hvalid.2])
    have hreduced : (price : ℚ) * (1 - (c.discountValue.getD 0 : ℤ) / 10000) =
        (price * (10000 - c.discountValue.getD 0) : ℤ) / 10000 := by
      push_cast
      ring
    have hnonneg : (0 : ℚ) ≤ (price * (10000 - c.discountValue.getD 0) : ℤ) / 10000 :=
      div_nonneg (by exact_mod_cast hfactor) (by norm_num)
    simp only [hreduced, max_eq_left hnonneg]
    generalize price * (10000 - c.discountValue.getD 0) = x at hnonneg
    unfold numeric
    rw [if_pos hnonneg, Int.floor_eq_iff]
    constructor
    · rintro ⟨hle, hlt⟩
      have hle' : (10000 * amount - 5000 : ℚ) ≤ x := by linarith
      have hlt' : (x : ℚ) < 10000 * amount + 5000 := by linarith
      exact ⟨by exact_mod_cast hle', by exact_mod_cast hlt'⟩
    · rintro ⟨hle, hlt⟩
      have hle' : (10000 * amount - 5000 : ℚ) ≤ x := by exact_mod_cast hle
      have hlt' : (x : ℚ) < 10000 * amount + 5000 := by exact_mod_cast hlt
      exact ⟨by linarith, by linarith⟩
  | amount =>
    have hcast : max ((price : ℚ) - (c.discountValue.getD 0 : ℤ)) 0 = ((max (price - c.discountValue.getD 0) 0 : ℤ) : ℚ) := by
      push_cast
      rfl
    simp only [hcast]
    rw [numeric_intCast]
    exact eq_comm
  | gift =>
    simp only
    rw [numeric_intCast]
    exact eq_comm

/-- **The shop's price on the discount's terms.** -/
theorem leaves_iff (hsale : ∀ s ∈ sale, 0 ≤ s) (hregular : 0 ≤ regularPrice) (discount : Option Campaign) (amount : ℤ) :
    Leaves discount sale regularPrice amount ↔ Coincides discount sale regularPrice amount := by
  have hs : 0 ≤ sale.getD regularPrice := getD_nonneg hsale hregular
  unfold Leaves Coincides
  cases discount with
  | none => exact Iff.rfl
  | some c =>
    simp only
    by_cases hstack : c.stackableWithSale = true
    · rw [if_pos hstack, if_pos hstack, ← discounted_eq_iff hs]
      exact eq_comm
    · rw [if_neg hstack, if_neg hstack, ← discounted_eq_iff hregular, ← discounted_le_iff hregular hs]
      by_cases hle : c.discounted regularPrice ≤ sale.getD regularPrice
      · rw [min_eq_right hle]
        simp [hle, eq_comm]
      · rw [min_eq_left (not_le.1 hle).le]
        simp [hle]

/-- One amount is what both discounts come to. -/
theorem both_iff (hsale : ∀ s ∈ sale, 0 ≤ s) (hregular : 0 ≤ regularPrice) {price : ℤ} (hprice : 0 ≤ price)
    (discount : Option Campaign) (d : Campaign) :
    (∃ amount, d.BringsTo price amount ∧ Leaves discount sale regularPrice amount) ↔
      Coincides discount sale regularPrice (d.discounted price) := by
  constructor
  · rintro ⟨amount, hbrings, hleaves⟩
    rw [(discounted_eq_iff hprice).2 hbrings]
    exact (leaves_iff hsale hregular discount amount).1 hleaves
  · intro hcoincides
    exact ⟨_, (discounted_eq_iff hprice).1 rfl, (leaves_iff hsale hregular discount _).2 hcoincides⟩

theorem eq_min_discounted_iff {c : Campaign} {s : ℤ} (hs : 0 ≤ s) (hregular : 0 ≤ regularPrice) :
    c.discounted regularPrice = min s (c.discounted regularPrice) ↔ c.BringsUnder regularPrice s := by
  rw [← discounted_le_iff hregular hs, eq_comm, min_eq_right_iff]

/-- **Under one discount, the product's prices agree** exactly when its sale fits. -/
theorem product_coincides_iff (hsale : ∀ s ∈ sale, 0 ≤ s) (hregular : 0 ≤ regularPrice) (c : Campaign) :
    Coincides (some c) sale regularPrice
        (c.discounted (if c.stackableWithSale then sale.getD regularPrice else regularPrice)) ↔
      ∀ s ∈ sale, ProductSaleFits (some c) s regularPrice := by
  unfold Coincides ProductSaleFits
  by_cases hstack : c.stackableWithSale = true
  · simp [hstack]
  · simp only [hstack]
    cases sale with
    | none => simpa using discounted_le hregular
    | some s => simpa using eq_min_discounted_iff (c := c) (hsale s rfl) hregular

/-- **Under one discount, a variant's prices agree** exactly when the sale fits. -/
theorem variant_coincides_iff (hsale : ∀ s ∈ sale, 0 ≤ s) (hregular : 0 ≤ regularPrice) (c : Campaign) :
    Coincides (some c) sale regularPrice (c.discounted regularPrice) ↔
      ∀ s ∈ sale, VariantSaleFits (some c) s regularPrice := by
  unfold Coincides VariantSaleFits
  by_cases hstack : c.stackableWithSale = true
  · simp only [hstack, if_true]
    cases sale with
    | none => simp
    | some s => simpa using eq_comm
  · simp only [hstack]
    cases sale with
    | none => simpa using discounted_le hregular
    | some s => simpa using eq_min_discounted_iff (c := c) (hsale s rfl) hregular

/-! ## The law -/

/-- The shop's discount and the chatbot's lead to one row: they are the same and the sale makes no difference, or they are
not, and their terms bring the product and each active variant to one cent. -/
def Agrees (p : Product) (now : Time) (shop chatbot : Option Campaign) : Prop :=
  let sale := p.activeSalePrice now
  (shop = chatbot ∧ (∀ s ∈ sale, ProductSaleFits chatbot s p.basePrice) ∧
    ∀ v ∈ p.activeVariants, ∀ s ∈ sale, VariantSaleFits chatbot s (p.regularPrice v)) ∨
  (shop ≠ chatbot ∧ ∃ d, chatbot = some d ∧
    (∃ amount, d.BringsTo (if d.stackableWithSale then sale.getD p.basePrice else p.basePrice) amount ∧
      Leaves shop sale p.basePrice amount) ∧
      ∀ v ∈ p.activeVariants, ∃ amount, d.BringsTo (p.regularPrice v) amount ∧ Leaves shop sale (p.regularPrice v) amount)

theorem discountOf_knowledge {campaigns : List Campaign} {p : Product} {now : Time} {b : Option Campaign}
    (hb : KnowledgeCampaign campaigns p now b) : discountOf b = b := by
  cases b with
  | none => rfl
  | some d =>
    have hmem := (List.mem_filter.1 hb.1).2
    rw [Bool.and_eq_true] at hmem
    exact Option.filter_some_pos hmem.2

theorem discountOf_frontend {campaigns : List Campaign} {p : Product} {now : Time} {a : Option Campaign}
    (ha : FrontendCampaign campaigns p now a) (hb : KnowledgeCampaign campaigns p now none) : discountOf a = none := by
  cases a with
  | none => rfl
  | some c =>
    obtain ⟨hmem, hlive⟩ := List.mem_filter.1 ha.1
    have hnot := List.filter_eq_nil_iff.1 hb c hmem
    unfold discountOf
    rw [Option.filter_some_neg]
    rw [hlive, Bool.true_and] at hnot
    simpa using hnot

theorem row_eq_iff {p : Product} {now : Time} {a b : Option Campaign} : p.knowledgeRow now b = p.frontendRow now a ↔
    Coincides (discountOf a) (p.activeSalePrice now) p.basePrice (p.knowledgePrice now b) ∧
      ∀ v ∈ p.activeVariants, Coincides (discountOf a) (p.activeSalePrice now) (p.regularPrice v) (p.knowledgeVariantPrice v b) := by
  have hsale : ∀ s ∈ p.activeSalePrice now, 0 ≤ s := fun s hs => (activeSalePrice_bounds hs).1
  unfold Product.knowledgeRow Product.frontendRow
  rw [PriceRow.mk.injEq, List.map_inj_left, ← coincides_iff hsale p.basePrice_nonneg]
  have hvariants : (∀ v ∈ p.activeVariants, (v.id, p.knowledgeVariantPrice v b) = (v.id, p.variantPrice now v a)) ↔
      ∀ v ∈ p.activeVariants,
        Coincides (discountOf a) (p.activeSalePrice now) (p.regularPrice v) (p.knowledgeVariantPrice v b) := by
    refine forall₂_congr fun v _ => ?_
    rw [Prod.mk.injEq, variantPrice_eq, coincides_iff hsale (regularPrice_nonneg p v)]
    exact and_iff_right rfl
  rw [hvariants]
  exact and_iff_right rfl

/-- **The chatbot quotes the shop's prices exactly when** both take the same discount and an active sale makes no
difference that the chatbot leaves out, or their discounts, by their terms, come to the same cents. -/
theorem quotes_agree_iff (p : Product) (campaigns : List Campaign) (now : Time) (a b : Option Campaign)
    (ha : FrontendCampaign campaigns p now a) (hb : KnowledgeCampaign campaigns p now b) :
    p.knowledgeRow now b = p.frontendRow now a ↔ Agrees p now (discountOf a) b := by
  have hsale : ∀ s ∈ p.activeSalePrice now, 0 ≤ s := fun s hs => (activeSalePrice_bounds hs).1
  have hdiscount := discountOf_knowledge hb
  rw [row_eq_iff]
  unfold Product.knowledgePrice Product.knowledgeVariantPrice Agrees
  rw [hdiscount]
  cases b with
  | none =>
    rw [discountOf_frontend ha hb]
    have hvariant : ∀ v : Variant, Coincides none (p.activeSalePrice now) (p.regularPrice v) (p.regularPrice v) ↔
        ∀ s ∈ p.activeSalePrice now, VariantSaleFits none s (p.regularPrice v) := by
      intro v
      unfold Coincides VariantSaleFits
      cases p.activeSalePrice now with
      | none => simp
      | some s => simpa using eq_comm
    simp only [hvariant, ne_eq, not_true_eq_false, false_and, or_false, true_and]
    refine and_congr_left fun _ => ?_
    unfold Coincides ProductSaleFits
    simp
  | some d =>
    by_cases hsame : discountOf a = some d
    · rw [hsame]
      simp only [product_coincides_iff hsale p.basePrice_nonneg, true_and, ne_eq, not_true_eq_false, false_and, or_false]
      refine and_congr_right fun _ => forall₂_congr fun v _ => ?_
      exact variant_coincides_iff hsale (regularPrice_nonneg p v) d
    · have hquoted : 0 ≤ if d.stackableWithSale then (p.activeSalePrice now).getD p.basePrice else p.basePrice := by
        split
        · exact getD_nonneg hsale p.basePrice_nonneg
        · exact p.basePrice_nonneg
      have hvariants : ∀ v : Variant, (∃ amount, d.BringsTo (p.regularPrice v) amount ∧
          Leaves (discountOf a) (p.activeSalePrice now) (p.regularPrice v) amount) ↔
            Coincides (discountOf a) (p.activeSalePrice now) (p.regularPrice v) (d.discounted (p.regularPrice v)) :=
        fun v => both_iff hsale (regularPrice_nonneg p v) (regularPrice_nonneg p v) _ _
      simp [hsame, hvariants, both_iff hsale p.basePrice_nonneg hquoted]

/-! ### A shirt on sale, with and without a campaign -/

/-- Thirty off, not on top of a sale. -/
def thirtyOff : Campaign where
  id := 1
  productIds := [1]
  discountType := .amount
  discountValue := some 3000
  stackableWithSale := false
  priorityOrder := 0
  startAt := 0
  endAt := 10
  createdAt := 0
  isActive := true
  accepted := by
    unfold IsDiscount
    decide

/-- With thirty off, the sale makes no difference. -/
theorem shirt_quoted : shirtOnSale.knowledgeRow 5 (some thirtyOff) = shirtOnSale.frontendRow 5 (some thirtyOff) :=
  (quotes_agree_iff shirtOnSale [thirtyOff] 5 (some thirtyOff) (some thirtyOff)
    ⟨by simp [Campaign.isLive, thirtyOff, shirtOnSale], by simp⟩
    ⟨by simp [Campaign.isLive, thirtyOff, shirtOnSale], by simp⟩).2
    (.inl ⟨rfl, by simp [shirtOnSale, Product.activeSalePrice, ProductSaleFits, Campaign.BringsUnder, thirtyOff],
      by simp [shirtOnSale, Product.activeVariants, Product.activeSalePrice, VariantSaleFits, Campaign.BringsUnder, thirtyOff,
        smallSize, Product.regularPrice]⟩)

/-- Without a campaign, the chatbot does not know of the sale of a variant. -/
theorem shirt_misquoted : FrontendCampaign [] shirtOnSale 5 none ∧ KnowledgeCampaign [] shirtOnSale 5 none ∧
    shirtOnSale.knowledgeRow 5 none ≠ shirtOnSale.frontendRow 5 none :=
  ⟨rfl, rfl, by decide⟩

end Balii.Prices
