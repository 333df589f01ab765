import Balii.Cart.Calculation
import Balii.Cart.Totals
import Balii.Order.Reservation
/-!
# Reservations — whether a validated cart can be reserved

Each line of a cart and each gift is checked against the stock by itself, and the order reserves them all.  A variant that is named
once is in stock then; one that is named twice, as a line and as a gift or as the gift of two campaigns, need not be.
-/
namespace Balii.Carts

open Rowdb Rowdb.Atomic

/-! ## The stock that is seen -/

/-- The snapshot reads the variant's row; it is active when its product is, too. -/
structure ProductVariantSnapshot.Reads (v : ProductVariantSnapshot) (row : Variant) : Prop where
  stockQuantity : (v.stockQuantity : ℤ) = row.stockQuantity
  reservedQuantity : (v.reservedQuantity : ℤ) = row.reservedQuantity
  isActive : v.isActive = true → row.isActive = true

/-- **The stock behind the product service**: it answers from the rows of the table, under the ids that the texts spell, and no more
is reserved than there is (`chk_product_variant_inventory_balances`). -/
structure Stock (shop : Shop) where
  db : Db
  ids : String → Uuid
  rows : ∀ text, Option.Rel ProductVariantSnapshot.Reads (shop.variants text) (db.find Tab.variants (ids text))
  named : ∀ text variant, shop.variants text = some variant → ids variant.variantId = ids text
  balanced : ∀ k v, db.find Tab.variants k = some v → v.reservedQuantity ≤ v.stockQuantity

/-- **A cart that `validateCart` has returned**, with nothing changed in between: what was stored, what was answered, and the result. -/
structure Validation (cfg : Config) where
  owner : Owner
  key : String
  hasKey : getCartKey owner = .ok key
  state : State
  free : state.held (lockKey key) = none
  answer : Answer
  shown : Cart
  returned : (play (A := carts cfg) (validateCart cfg owner) (fun _ => answer) state).result = .ok shown

/-! ## What is asked of it -/

/-- The lines, and the gifts that they earn, each with its variant and its units. -/
def demands (shop : Shop) (items : List CartItem) : Lines :=
  linesOf items ++ (earned (items.map (CartItem.priced shop)) (shop.activeCampaigns.getD [])).map fun e =>
    (e.campaign.giftVariantId.getD "", e.units)

/-- The units that some lines ask of a variant. -/
def unitsAsked (ids : String → Uuid) (lines : Lines) (k : Uuid) : ℕ := ((lines.filter fun line => ids line.1 = k).map Prod.snd).sum

/-- **Whatever is asked for twice is there for both**: of a variant that two lines or gifts name, there are the units of them all. -/
def SharedInStock {shop : Shop} (stock : Stock shop) (lines : Lines) : Prop :=
  ∀ k v, stock.db.find Tab.variants k = some v → 2 ≤ (lines.filter fun line => stock.ids line.1 = k).length →
    (unitsAsked stock.ids lines k : ℤ) ≤ v.stockQuantity - v.reservedQuantity

/-- The lines of the cart as the order service gets them. -/
def Stock.lines {shop : Shop} (stock : Stock shop) (cart : Cart) : List CheckoutItem :=
  (cart.items ++ cart.promotionItems).map (CartItem.toCheckout stock.ids)

/-- **The cart can be reserved**: there are the units of every variant in its items and its promotion items, and the loop of a
checkout goes through when nobody else is about. -/
structure Reservable {shop : Shop} (stock : Stock shop) (cart : Cart) : Prop where
  totals : ∀ k v, stock.db.find Tab.variants k = some v →
    asked (stock.lines cart) k ≤ v.stockQuantity - v.reservedQuantity
  loop : ∀ ctx, ∃ o, Tx.Exec (fun _ a b => a = b) (Tx.each (reserveItem ctx) (stock.lines cart)) stock.db [] [] o

section Validations
variable {cfg : Config} {shop : Shop} {items : List CartItem} {v : String}

theorem refreshItems_inStock {lines : List CartItem} (h : refreshItems shop items = .ok lines) :
    ∀ item ∈ items, InStock shop item.variantId item.quantity := by
  induction items generalizing lines with
  | nil => exact fun item hitem => (nomatch hitem)
  | cons item rest ih =>
    obtain ⟨variant, hvariant, h⟩ := bind_eq_ok.1 h
    obtain ⟨others, hothers, -⟩ := bind_eq_ok.1 h
    exact List.forall_mem_cons.2 ⟨validateVariantStock_iff.1 ⟨variant, hvariant⟩, ih hothers⟩

/-- What counts for a campaign. -/
def CartItem.counted (item : CartItem) : String × Bool × ℕ := (item.productId, item.isOnSale, item.quantity)

theorem earned_congr {items' : List CartItem} (h : items.map CartItem.counted = items'.map CartItem.counted)
    (campaigns : List ActiveCampaign) : earned items campaigns = earned items' campaigns := by
  have heligible : ∀ items : List CartItem, eligible items = fun c => ⟨c, (((items.map CartItem.counted).filter fun x =>
      c.productIds.contains x.1 && (c.stackableWithSale || !x.2.1)).map fun x => x.2.2).sum⟩ := by
    intro items
    funext c
    rw [List.filter_map, List.map_map]
    rfl
  have hpresent : ∀ items : List CartItem, Eligible.present items = fun e =>
      e.campaign.productIds.filter fun id => (items.map CartItem.counted).any fun x => x.1 == id := by
    intro items
    funext e
    simp only [List.any_map]
    rfl
  unfold earned giftCampaigns
  rw [heligible items, heligible items', hpresent items, hpresent items', h]

theorem counted_refreshItems {lines : List CartItem} (h : refreshItems shop items = .ok lines) :
    (lines.map (CartItem.priced shop)).map CartItem.counted = (items.map (CartItem.priced shop)).map CartItem.counted := by
  induction items generalizing lines with
  | nil =>
    cases h
    rfl
  | cons item rest ih =>
    obtain ⟨variant, hvariant, h⟩ := bind_eq_ok.1 h
    obtain ⟨others, hothers, h⟩ := bind_eq_ok.1 h
    cases h
    obtain ⟨found, hfound, -⟩ := validateVariantStock_iff.1 ⟨variant, hvariant⟩
    have hline : ((item.refreshed variant).priced shop).counted = (item.priced shop).counted := by
      have hfound' : shop.variants (item.refreshed variant).variantId = some found := hfound
      unfold CartItem.priced
      rw [hfound, hfound']
      rfl
    rw [List.map_cons, List.map_cons, List.map_cons, List.map_cons, ih hothers, hline]

/-- What `validateCart` does to the lines. -/
def validateEdit (items : List CartItem) : Procedure (List CartItem) := do
  Proc.ensure (items ≠ []) (.badRequest "Cart is empty")
  let shop ← askShop
  Proc.ofExcept (refreshItems shop items)

theorem play_validateEdit (cfg : Config) (answer : Answer) (items : List CartItem) (s : State) :
    play (A := carts cfg) (validateEdit items) (fun _ => answer) s =
      ⟨if items ≠ [] then refreshItems answer.shop items else .error (.badRequest "Cart is empty"), fun _ => answer, s⟩ := by
  unfold validateEdit
  rw [play_bind, play_ensure]
  by_cases h : items ≠ []
  · rw [if_pos h, if_pos h, andThen_ok, play_bind, play_askShop, andThen_ok, play_ofExcept]
  · rw [if_neg h, if_neg h]
    rfl

/-- What was stored has been brought up to date and calculated. -/
theorem Validation.calculated (a : Validation cfg) : ∃ lines, refreshItems a.answer.shop (a.state.rawCart a.key).items = .ok lines ∧
    lines ≠ [] ∧ Carts.calculated cfg { a.state.rawCart a.key with items := lines } (fun _ => a.answer) a.state.now = .ok a.shown := by
  obtain ⟨owner, key, hkey, s, hfree, answer, shown, h⟩ := a
  have hedited := (play_editCart hkey hfree (play_validateEdit cfg answer (s.rawCart key).items (s.locked key))).1
  obtain ⟨lines, hlines, hcalculated⟩ := bind_eq_ok.1 (hedited.symm.trans h)
  split at hlines
  · rename_i hsome
    refine ⟨lines, hlines, ?_, hcalculated⟩
    rintro rfl
    exact hsome (List.map_eq_nil_iff.1 (linesOf_refreshItems hlines).symm)
  · cases hlines

/-- The gifts are those that the lines earn. -/
theorem gifts_demanded {gifts : List CartItem} (h : buildPromotionItems shop items = .ok gifts) (hitems : items ≠ []) :
    (∀ e ∈ earned items (shop.activeCampaigns.getD []), InStock shop (e.campaign.giftVariantId.getD "") e.units) ∧
    ∀ ids : String → Uuid, (∀ text variant, shop.variants text = some variant → ids variant.variantId = ids text) →
      gifts.map (fun item => (ids item.variantId, item.quantity)) =
        (earned items (shop.activeCampaigns.getD [])).map fun e => (ids (e.campaign.giftVariantId.getD ""), e.units) := by
  obtain ⟨campaigns, hcampaigns, hstock⟩ := buildPromotionItems_iff.1 ⟨gifts, h⟩ hitems
  rw [hcampaigns, Option.getD_some]
  refine ⟨hstock, fun ids hids => ?_⟩
  rw [buildPromotionItems_eq hcampaigns] at h
  have hgranted := mapM_eq_ok.1 h
  change List.Forall₂ _ (earned items campaigns) gifts at hgranted
  generalize earned items campaigns = granted at hgranted
  clear h hstock
  induction hgranted with
  | nil => rfl
  | cons hgrant _ ih =>
    obtain ⟨gift, hgift, hitem⟩ := bind_eq_ok.1 hgrant
    cases hitem
    rw [List.map_cons, List.map_cons, ih]
    congr 2
    exact hids _ _ (validateVariantStock_found hgift)

/-- What `validateCart` has returned: the lines that were stored, and the gifts that they earn, all of them in stock. -/
theorem Validation.demands (a : Validation cfg) : (∀ line ∈ demands a.answer.shop (a.state.rawCart a.key).items,
      InStock a.answer.shop line.1 line.2) ∧
    ∀ ids : String → Uuid, (∀ text variant, a.answer.shop.variants text = some variant → ids variant.variantId = ids text) →
      (a.shown.items ++ a.shown.promotionItems).map (fun item => (ids item.variantId, item.quantity)) =
        (Carts.demands a.answer.shop (a.state.rawCart a.key).items).map fun line => (ids line.1, line.2) := by
  obtain ⟨lines, hlines, hsome, h⟩ := a.calculated
  obtain ⟨items, hitems, h⟩ := bind_eq_ok.1 h
  obtain ⟨gifts, hgifts, h⟩ := bind_eq_ok.1 h
  obtain ⟨_, _, h⟩ := bind_eq_ok.1 h
  obtain ⟨_, _, h⟩ := bind_eq_ok.1 h
  have hshown := (Except.ok.inj h).symm
  obtain rfl := (priceItem_priced.1 hitems).2
  obtain ⟨hstock, hnamed⟩ := gifts_demanded hgifts (by simpa using hsome)
  rw [earned_congr (counted_refreshItems hlines)] at hstock hnamed
  refine ⟨fun line hline => ?_, fun ids hids => ?_⟩
  · rcases List.mem_append.1 hline with hline | hline
    · obtain ⟨item, hitem, rfl⟩ := List.mem_map.1 hline
      exact refreshItems_inStock hlines item hitem
    · obtain ⟨e, he, rfl⟩ := List.mem_map.1 hline
      exact hstock e he
  · have hkept := (linesOf_priced hitems).trans (linesOf_refreshItems hlines)
    have hpairs : ∀ l : List CartItem, l.map (fun item => (ids item.variantId, item.quantity)) =
        (linesOf l).map fun line => (ids line.1, line.2) := by
      intro l
      unfold linesOf
      rw [List.map_map]
      rfl
    unfold Carts.demands
    rw [hshown, List.map_append, List.map_append, ← hkept, ← hpairs]
    congr 1
    rw [List.map_map]
    exact hnamed ids hids

end Validations

section Sums
variable {shop : Shop} {stock : Stock shop} {ids : String → Uuid} {lines : Lines} {k : Uuid}

theorem unitsAsked_cons (ids : String → Uuid) (line : String × ℕ) (lines : Lines) (k : Uuid) :
    unitsAsked ids (line :: lines) k = (if ids line.1 = k then line.2 else 0) + unitsAsked ids lines k := by
  unfold unitsAsked
  rw [List.filter_cons]
  by_cases h : ids line.1 = k <;> simp [h]

/-- The units that are asked of a variant are told by ids and units. -/
theorem unitsAsked_congr {lines' : Lines}
    (h : lines.map (fun line => (ids line.1, line.2)) = lines'.map fun line => (ids line.1, line.2)) :
    unitsAsked ids lines k = unitsAsked ids lines' k := by
  have hpairs : ∀ lines : Lines, unitsAsked ids lines k =
      (((lines.map fun line => (ids line.1, line.2)).filter fun x => x.1 = k).map Prod.snd).sum := by
    intro lines
    unfold unitsAsked
    rw [List.filter_map, List.map_map]
    rfl
  rw [hpairs, hpairs, h]

theorem asked_toCheckout (ids : String → Uuid) (items : List CartItem) (k : Uuid) :
    asked (items.map (CartItem.toCheckout ids)) k = unitsAsked ids (linesOf items) k := by
  induction items with
  | nil => rfl
  | cons item rest ih =>
    have hlines : linesOf (item :: rest) = (item.variantId, item.quantity) :: linesOf rest := rfl
    rw [List.map_cons, asked_cons, ih, hlines, unitsAsked_cons]
    push_cast
    rfl

/-- What is in stock is there in the table. -/
theorem InStock.row {variantId : String} {quantity : ℕ} (h : InStock shop variantId quantity) (stock : Stock shop) :
    ∃ v, stock.db.find Tab.variants (stock.ids variantId) = some v ∧ v.isActive = true ∧
      (quantity : ℤ) ≤ v.stockQuantity - v.reservedQuantity := by
  obtain ⟨variant, hvariant, hactive, hroom⟩ := h
  have hrow := stock.rows variantId
  rw [hvariant] at hrow
  generalize stock.db.find Tab.variants (stock.ids variantId) = found at hrow ⊢
  cases hrow with
  | @some _ row hreads =>
    refine ⟨row, rfl, hreads.isActive hactive, ?_⟩
    rw [← hreads.stockQuantity, ← hreads.reservedQuantity]
    exact hroom

/-- A variant that is asked for no more than once is in stock if each line is. -/
theorem unitsAsked_le (hlines : ∀ line ∈ lines, InStock shop line.1 line.2)
    (hshared : SharedInStock stock lines) {v : Variant} (hv : stock.db.find Tab.variants k = some v) :
    (unitsAsked stock.ids lines k : ℤ) ≤ v.stockQuantity - v.reservedQuantity := by
  by_cases htwice : 2 ≤ (lines.filter fun line => stock.ids line.1 = k).length
  · exact hshared k v hv htwice
  · cases hfilter : lines.filter (fun line => stock.ids line.1 = k) with
    | nil =>
      unfold unitsAsked
      rw [hfilter]
      exact sub_nonneg.2 (stock.balanced k v hv)
    | cons line rest =>
      have hrest : rest = [] := by
        rw [hfilter, List.length_cons] at htwice
        exact List.length_eq_zero_iff.1 (by omega)
      obtain ⟨hline, hid⟩ := List.mem_filter.1 (hfilter ▸ List.mem_cons_self : line ∈ lines.filter fun line => stock.ids line.1 = k)
      obtain ⟨v', hv', -, hroom⟩ := (hlines line hline).row stock
      rw [of_decide_eq_true hid, hv] at hv'
      cases hv'
      unfold unitsAsked
      rw [hfilter, hrest]
      simpa using hroom

end Sums

/-- **A validated cart can be reserved exactly when what its lines and gifts ask for together is in stock as well.** -/
theorem reservable_iff {cfg : Config} (a : Validation cfg) (stock : Stock a.answer.shop) :
    Reservable stock a.shown ↔ SharedInStock stock (demands a.answer.shop (a.state.rawCart a.key).items) := by
  obtain ⟨hstock, hnamed⟩ := a.demands
  have hpairs := hnamed stock.ids stock.named
  generalize demands a.answer.shop (a.state.rawCart a.key).items = lines at hstock hpairs
  have hasked : ∀ k, asked (stock.lines a.shown) k = unitsAsked stock.ids lines k := by
    intro k
    unfold Stock.lines
    rw [asked_toCheckout]
    congr 1
    refine unitsAsked_congr (Eq.trans ?_ hpairs)
    unfold linesOf
    rw [List.map_map]
    rfl
  have hloop : ∀ ctx, (∃ o, Tx.Exec (fun _ a b => a = b) (Tx.each (reserveItem ctx) (stock.lines a.shown)) stock.db [] [] o) ↔
      EnoughFor stock.db (stock.lines a.shown) := by
    refine fun ctx => reserved_iff (fun k v hv => sub_nonneg.2 (stock.balanced k v hv)) (fun x hx => ?_) fun x hx => ?_
    · obtain ⟨item, -, rfl⟩ := List.mem_map.1 hx
      exact Int.natCast_nonneg _
    · obtain ⟨item, hitem, rfl⟩ := List.mem_map.1 hx
      have hmem := List.mem_map_of_mem (f := fun item : CartItem => (stock.ids item.variantId, item.quantity)) hitem
      rw [hpairs] at hmem
      obtain ⟨line, hline, heq⟩ := List.mem_map.1 hmem
      obtain ⟨v, hv, hactive, -⟩ := (hstock line hline).row stock
      rw [(Prod.mk.inj heq).1] at hv
      exact ⟨v, hv, hactive⟩
  constructor
  · intro h k v hv _
    rw [← hasked]
    exact h.totals k v hv
  · intro h
    have henough : EnoughFor stock.db (stock.lines a.shown) := by
      intro k v hv
      rw [hasked]
      exact unitsAsked_le hstock h hv
    exact ⟨henough, fun ctx => (hloop ctx).2 henough⟩

/-! ### The last pair of socks -/

/-- One pair of socks is left, and a shirt earns one. -/
def lastSocks : Answer where
  shop :=
    { variants := fun id =>
        if id = "socks" then some { socks with stockQuantity := 1 }
        else if id = "shirt" then some { socks with variantId := "shirt", productId := "shirt" } else none
      activeCampaigns := some socksCampaigns
      baseFees := some [.num 30000]
      named := by
        intro id variant h
        by_cases hsocks : id = "socks"
        · subst hsocks
          cases h
          decide
        · by_cases hshirt : id = "shirt"
          · subst hshirt
            cases h
            decide
          · rw [if_neg hsocks, if_neg hshirt] at h
            cases h }
  ordered := true

/-- The customer wants the socks and a shirt. -/
def socksAndShirt : State where
  carts := (∅ : Table String Cart).insert "cart:7" ⟨"cart:7", [bought "socks" 1 false, bought "shirt" 1 false], [], 0, 0, 0, 0, 0⟩
  expires := (∅ : Table String ℕ).insert "cart:7" cartTtlMs
  locks := ∅
  nextToken := 0
  now := 0

def socksShown : Cart where
  ownerKey := "cart:7"
  items := [{ bought "socks" 1 false with unitPrice := 0, subtotal := 0 }, { bought "shirt" 1 false with unitPrice := 0, subtotal := 0 }]
  promotionItems := [giftItem (socksCampaign "shirt" ["shirt"] ⟨1, Nat.one_pos⟩ true 5) { socks with stockQuantity := 1 } 1]
  subtotal := 0
  discountAmount := 0
  shippingFee := 3000000
  totalAmount := 3000000
  updatedAt := 0

theorem socks_key : getCartKey ⟨some "7", none⟩ = .ok "cart:7" := rfl

theorem socks_returned :
    (play (A := carts ⟨none⟩) (validateCart ⟨none⟩ ⟨some "7", none⟩) (fun _ => lastSocks) socksAndShirt).result =
      .ok socksShown := by
  decide +kernel

def socksValidated : Validation ⟨none⟩ where
  owner := ⟨some "7", none⟩
  key := "cart:7"
  hasKey := socks_key
  state := socksAndShirt
  free := rfl
  answer := lastSocks
  shown := socksShown
  returned := socks_returned

def socksStock : Stock lastSocks.shop where
  db :=
    { rows := fun t =>
        match t with
        | .variants => ((∅ : Table Uuid Variant).insert 1 ⟨1, 0, true⟩).insert 2 ⟨10, 0, true⟩
        | _ => ∅
      log := [] }
  ids text := if text = "socks" then 1 else if text = "shirt" then 2 else 0
  rows := by
    intro text
    by_cases hsocks : text = "socks"
    · subst hsocks
      exact .some ⟨rfl, rfl, id⟩
    · by_cases hshirt : text = "shirt"
      · subst hshirt
        exact .some ⟨rfl, rfl, id⟩
      · simp only [lastSocks, if_neg hsocks, if_neg hshirt]
        exact .none
  named := by
    intro text variant h
    by_cases hsocks : text = "socks"
    · subst hsocks
      cases h
      rfl
    · by_cases hshirt : text = "shirt"
      · subst hshirt
        cases h
        rfl
      · simp only [lastSocks, if_neg hsocks, if_neg hshirt] at h
        cases h
  balanced := by
    intro k v h
    change (((∅ : Table Uuid Variant).insert 1 ⟨1, 0, true⟩).insert 2 ⟨10, 0, true⟩).lookup k = some v at h
    by_cases hshirt : k = 2
    · subst hshirt
      rw [AList.lookup_insert] at h
      cases h
      decide
    · rw [AList.lookup_insert_ne hshirt] at h
      by_cases hsocks : k = 1
      · subst hsocks
        rw [AList.lookup_insert] at h
        cases h
        decide
      · rw [AList.lookup_insert_ne hsocks] at h
        cases h

/-- **The cart is validated, and the order for it must fail**: the socks are asked for twice. -/
theorem socks_unreservable : ¬ ∀ (cfg : Config) (a : Validation cfg) (stock : Stock a.answer.shop), Reservable stock a.shown := by
  intro h
  have htotal := (h _ socksValidated socksStock).totals 1 ⟨1, 0, true⟩ rfl
  exact absurd htotal (by decide)

end Balii.Carts
