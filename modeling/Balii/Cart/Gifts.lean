import Balii.Cart.Items
import Balii.Lib.Greedy
/-!
# Gifts — the campaigns a cart earns gifts from

A campaign is passed over if a product of its own has earned a gift already.  The loop takes the campaign's products that
are in the cart; the rule is about those that add units to it, which a product on sale does not unless sales stack.
-/
namespace Balii.Carts

open Greedy

/-! ## The rule -/

/-- The products of the campaign that are in the cart. -/
def Eligible.present (items : List CartItem) (e : Eligible) : List String :=
  e.campaign.productIds.filter fun id => items.any fun item => item.productId == id

/-- The products that add units to the campaign. -/
def Eligible.contributing (items : List CartItem) (e : Eligible) : List String :=
  e.campaign.productIds.filter fun id => items.any fun item =>
    item.productId == id && e.campaign.counts item && decide (0 < item.quantity)

/-- The units of a campaign: as often as it applies, up to its maximum. -/
def Eligible.units (e : Eligible) : ℕ :=
  let times := if e.campaign.repeatable then e.eligibleQuantity / e.campaign.minimumPurchaseQuantity else 1
  e.campaign.giftQuantity * e.campaign.maxApplications.elim times (min times)

/-- The gifts of a campaign. -/
def grant (shop : Shop) (e : Eligible) : Except Err CartItem := do
  let gift ← validateVariantStock shop (e.campaign.giftVariantId.getD "") e.units
  pure (giftItem e.campaign gift e.units)

/-- **The rule**: every campaign in its turn, if none of the products that add units to it adds units to one before it. -/
def greedyGifts (shop : Shop) (items : List CartItem) (campaigns : List ActiveCampaign) : Except Err (List CartItem) :=
  (choose (Eligible.contributing items) (giftCampaigns items campaigns) []).mapM (grant shop)

/-! ## The campaigns that are tried -/

/-- The campaigns with gifts whose minimum is reached. -/
def reached (items : List CartItem) (campaigns : List ActiveCampaign) : List Eligible :=
  ((campaigns.filter ActiveCampaign.isGift).map (eligible items)).filter fun e =>
    e.campaign.minimumPurchaseQuantity ≤ e.eligibleQuantity

theorem giftCampaigns_perm (items : List CartItem) (campaigns : List ActiveCampaign) :
    (giftCampaigns items campaigns).Perm (reached items campaigns) := List.perm_insertionSort _ _

variable {items : List CartItem} {campaigns : List ActiveCampaign} {e : Eligible}

theorem mem_giftCampaigns (h : e ∈ giftCampaigns items campaigns) :
    e.campaign ∈ campaigns ∧ e = eligible items e.campaign ∧ 0 < e.campaign.giftQuantity ∧
      e.campaign.minimumPurchaseQuantity ≤ e.eligibleQuantity := by
  have hmem := (giftCampaigns_perm items campaigns).subset h
  unfold reached at hmem
  obtain ⟨hmap, hreached⟩ := List.mem_filter.1 hmem
  obtain ⟨c, hc, rfl⟩ := List.mem_map.1 hmap
  obtain ⟨hc, hgift⟩ := List.mem_filter.1 hc
  unfold ActiveCampaign.isGift at hgift
  simp only [Bool.and_eq_true, decide_eq_true_eq] at hgift
  exact ⟨hc, rfl, hgift.2, by simpa using hreached⟩

theorem giftQuantity_eq (h : e ∈ giftCampaigns items campaigns) : e.giftQuantity = e.units ∧ ¬ e.giftQuantity < 1 := by
  obtain ⟨_, _, hgift, hreached⟩ := mem_giftCampaigns h
  have hpos := e.campaign.minimumPositive
  have hmax := e.campaign.maxPositive
  have htimes : 0 < if e.campaign.repeatable then e.eligibleQuantity / e.campaign.minimumPurchaseQuantity else 1 := by
    split
    · exact Nat.div_pos hreached hpos
    · exact Nat.one_pos
  have heq : e.giftQuantity = e.units := by
    unfold Eligible.giftQuantity Eligible.units
    cases hm : e.campaign.maxApplications with
    | none => rfl
    | some max =>
      have hne : max ≠ 0 := by
        rintro rfl
        exact hmax hm
      rw [Option.filter_some_pos (by simpa using hne)]
      rfl
  refine ⟨heq, ?_⟩
  rw [heq, Nat.not_lt]
  unfold Eligible.units
  apply Nat.mul_pos hgift
  cases hm : e.campaign.maxApplications with
  | none => exact htimes
  | some max =>
    have hne : 0 < max := by
      rw [Nat.pos_iff_ne_zero]
      rintro rfl
      exact hmax hm
    exact Nat.lt_min.2 ⟨htimes, hne⟩

/-! ## What the loop grants -/

theorem any_claimed (items : List CartItem) (e : Eligible) (taken : List Eligible) :
    (e.present items).any (taken.flatMap (Eligible.present items)).contains = true ↔ Meets (Eligible.present items) e taken := by
  simp only [List.any_eq_true, List.contains_eq_mem, decide_eq_true_eq, List.mem_flatMap]
  rfl

theorem promote_cons (shop : Shop) (items : List CartItem) (e : Eligible) (rest : List Eligible) (claimed : List String) :
    promote shop items (e :: rest) claimed =
      if (e.present items).any claimed.contains then promote shop items rest claimed
      else if e.giftQuantity < 1 then promote shop items rest claimed
      else (do
        let gift ← validateVariantStock shop (e.campaign.giftVariantId.getD "") e.giftQuantity
        let others ← promote shop items rest (claimed ++ e.present items)
        pure (giftItem e.campaign gift e.giftQuantity :: others)) := rfl

/-- **The loop takes the campaigns by the products that are present.** -/
theorem promote_eq (shop : Shop) (items : List CartItem) : ∀ (l taken : List Eligible),
    (∀ e ∈ l, e.giftQuantity = e.units ∧ ¬ e.giftQuantity < 1) →
    promote shop items l (taken.flatMap (Eligible.present items)) =
      (choose (Eligible.present items) l taken).mapM (grant shop)
  | [], _, _ => rfl
  | e :: rest, taken, h => by
    obtain ⟨hunits, hsome⟩ := h e (by simp)
    have hrest := fun e' he' => h e' (List.mem_cons_of_mem e he')
    have hany := any_claimed items e taken
    rw [promote_cons, choose]
    by_cases hmeets : Meets (Eligible.present items) e taken
    · rw [if_pos (hany.2 hmeets), if_pos hmeets]
      exact promote_eq shop items rest taken hrest
    · have ih := promote_eq shop items rest (taken ++ [e]) hrest
      rw [List.flatMap_append, List.flatMap_singleton] at ih
      rw [if_neg fun hc => hmeets (hany.1 hc), if_neg hsome, if_neg hmeets, List.mapM_cons, ← ih]
      unfold grant
      rw [hunits]
      cases validateVariantStock shop (e.campaign.giftVariantId.getD "") e.units with
      | error err => rfl
      | ok gift => rfl

theorem buildPromotionItems_eq {shop : Shop} (hshop : shop.activeCampaigns = some campaigns) :
    buildPromotionItems shop items =
      (choose (Eligible.present items) (giftCampaigns items campaigns) []).mapM (grant shop) := by
  have hpromote := promote_eq shop items (giftCampaigns items campaigns) [] fun e he => giftQuantity_eq he
  unfold buildPromotionItems getActiveCampaigns
  cases items with
  | nil =>
    have hnone : giftCampaigns [] campaigns = [] := by
      rw [List.eq_nil_iff_forall_not_mem]
      intro e he
      obtain ⟨_, heq, _, hreached⟩ := mem_giftCampaigns he
      have hzero : e.eligibleQuantity = 0 := congrArg Eligible.eligibleQuantity heq
      have hpos := e.campaign.minimumPositive
      omega
    rw [hnone]
    rfl
  | cons item items =>
    rw [hshop]
    exact hpromote

/-! ## When the loop follows the rule -/

/-- The campaigns of the product service, each under its own id, with their gifts in stock. -/
structure Stocked (shop : Shop) (items : List CartItem) (campaigns : List ActiveCampaign) : Prop where
  loaded : shop.activeCampaigns = some campaigns
  ids : (campaigns.map ActiveCampaign.id).Nodup
  stock : ∀ e ∈ giftCampaigns items campaigns,
    ∃ gift, validateVariantStock shop (e.campaign.giftVariantId.getD "") e.units = .ok gift

theorem nodup_ids (h : (campaigns.map ActiveCampaign.id).Nodup) :
    ((giftCampaigns items campaigns).map fun e => e.campaign.id).Nodup := by
  rw [((giftCampaigns_perm items campaigns).map _).nodup_iff]
  have hsub : ((reached items campaigns).map fun e => e.campaign.id).Sublist (campaigns.map ActiveCampaign.id) := by
    have hfilter := (List.filter_sublist (p := ActiveCampaign.isGift) (l := campaigns)).map ActiveCampaign.id
    have hmap : ((campaigns.filter ActiveCampaign.isGift).map (eligible items)).map (fun e => e.campaign.id) =
        (campaigns.filter ActiveCampaign.isGift).map ActiveCampaign.id := by
      rw [List.map_map]
      rfl
    unfold reached
    exact (List.filter_sublist.map _).trans (hmap ▸ hfilter)
  exact h.sublist hsub

/-- What is granted is told by the campaigns' ids. -/
theorem mapM_grant {shop : Shop} : ∀ {l : List Eligible},
    (∀ e ∈ l, ∃ gift, validateVariantStock shop (e.campaign.giftVariantId.getD "") e.units = .ok gift) →
      ∃ gifts, l.mapM (grant shop) = .ok gifts ∧ gifts.map CartItem.sourceCampaignId = l.map fun e => some e.campaign.id
  | [], _ => ⟨[], rfl, rfl⟩
  | e :: rest, h => by
    obtain ⟨gift, hgift⟩ := h e (by simp)
    obtain ⟨gifts, hgifts, hids⟩ := mapM_grant fun e' he' => h e' (List.mem_cons_of_mem e he')
    refine ⟨giftItem e.campaign gift e.units :: gifts, ?_, ?_⟩
    · rw [List.mapM_cons, hgifts]
      unfold grant
      rw [hgift]
      rfl
    · rw [List.map_cons, List.map_cons, hids]
      rfl

theorem eq_of_map_eq {α β : Type} {f : α → β} {L : List α} (hL : (L.map f).Nodup) : ∀ {l l' : List α},
    l ⊆ L → l' ⊆ L → l.map f = l'.map f → l = l'
  | [], [], _, _, _ => rfl
  | [], _ :: _, _, _, h => nomatch h
  | _ :: _, [], _, _, h => nomatch h
  | a :: l, a' :: l', hl, hl', h => by
    obtain ⟨hhead, htail⟩ := List.cons.inj h
    have ha := List.inj_on_of_nodup_map hL (hl List.mem_cons_self) (hl' List.mem_cons_self) hhead
    rw [ha, eq_of_map_eq hL (List.subset_of_cons_subset hl) (List.subset_of_cons_subset hl') htail]

theorem contributing_subset (items : List CartItem) (e : Eligible) : e.contributing items ⊆ e.present items := by
  intro id hid
  unfold Eligible.contributing at hid
  unfold Eligible.present
  simp only [List.mem_filter, List.any_eq_true, Bool.and_eq_true] at hid ⊢
  obtain ⟨hmem, item, hitem, ⟨heq, _⟩, _⟩ := hid
  exact ⟨hmem, item, hitem, heq⟩

/-- A campaign that has a product in common with one that was granted before it has one in common that adds units to both. -/
def MeetsInUnits (items : List CartItem) (campaigns : List ActiveCampaign) : Prop :=
  ∀ pre e post, giftCampaigns items campaigns = pre ++ e :: post →
    Meets (Eligible.present items) e (choose (Eligible.contributing items) pre []) →
      Meets (Eligible.contributing items) e (choose (Eligible.contributing items) pre [])

theorem meetsInUnits_iff : MeetsInUnits items campaigns ↔
    Alike (Eligible.present items) (Eligible.contributing items) (giftCampaigns items campaigns) [] := by
  constructor
  · intro h pre e post hl
    refine ⟨h pre e post hl, ?_⟩
    rintro ⟨x, hx, b, hb, hxb⟩
    exact ⟨x, contributing_subset items e hx, b, hb, contributing_subset items b hxb⟩
  · exact fun h pre e post hl => (h pre e post hl).1

/-- **No product adds units to two of the campaigns that the rule grants.** -/
theorem granted_apart (items : List CartItem) (campaigns : List ActiveCampaign) :
    (choose (Eligible.contributing items) (giftCampaigns items campaigns) []).Pairwise fun a b =>
      ∀ id ∈ b.contributing items, id ∉ a.contributing items :=
  choose_apart (Eligible.contributing items) (giftCampaigns items campaigns) [] List.Pairwise.nil

/-- **The gifts are those of the rule exactly when campaigns meet in products that add units**: a product that is in the
cart and adds no unit claims a campaign's products, and blocks one, all the same. -/
theorem gifts_greedy_iff {shop : Shop} (h : Stocked shop items campaigns) :
    buildPromotionItems shop items = greedyGifts shop items campaigns ↔ MeetsInUnits items campaigns := by
  have hids := @nodup_ids items campaigns h.ids
  have hnodup : (giftCampaigns items campaigns).Nodup := List.Nodup.of_map _ hids
  have hsub (f : Eligible → List String) := (choose_sublist f (giftCampaigns items campaigns) []).subset
  rw [meetsInUnits_iff, ← choose_eq_iff _ _ _ _ hnodup, buildPromotionItems_eq h.loaded]
  unfold greedyGifts
  constructor
  · intro heq
    obtain ⟨gifts, hgifts, hsource⟩ := mapM_grant fun e he => h.stock e (hsub (Eligible.present items) he)
    obtain ⟨gifts', hgifts', hsource'⟩ := mapM_grant fun e he => h.stock e (hsub (Eligible.contributing items) he)
    rw [hgifts, hgifts'] at heq
    rw [Except.ok.inj heq, hsource'] at hsource
    have hmaps := congrArg (List.map fun o : Option String => o.getD "") hsource.symm
    rw [List.map_map, List.map_map] at hmaps
    exact eq_of_map_eq hids (hsub _) (hsub _) hmaps
  · exact fun heq => by rw [heq]

/-! ### A shirt on sale among what is bought for a gift -/

def noText : VariantText := ⟨"", none, "", none, none, none, none⟩

def noTag : CampaignTag := ⟨none, none, none, none, none⟩

/-- What is given away. -/
def socks : ProductVariantSnapshot where
  variantId := "socks"
  productId := "socks"
  text := noText
  campaign := noTag
  unitPrice := 0
  isOnSale := false
  stockQuantity := 10
  reservedQuantity := 0
  isActive := true

/-- Buy some of the products and get a pair of socks. -/
def socksCampaign (id : String) (productIds : List String) (minimum : {n : ℕ // 0 < n}) (stackable : Bool) (priority : ℤ) :
    ActiveCampaign where
  id := id
  name := id
  productIds := productIds
  discountType := .gift
  badgeText := none
  priorityOrder := priority
  minimumPurchaseQuantity := minimum
  giftVariantId := some "socks"
  giftQuantity := 1
  giftUnitPrice := 0
  repeatable := false
  maxApplications := none
  stackableWithSale := stackable
  minimumPositive := minimum.2
  maxPositive := nofun

/-- Two caps or shirts that are not on sale; one shirt, on sale or not. -/
def socksCampaigns : List ActiveCampaign :=
  [socksCampaign "pair" ["shirt", "cap"] ⟨2, by decide⟩ false 10, socksCampaign "shirt" ["shirt"] ⟨1, by decide⟩ true 5]

def socksShop : Shop where
  variants := fun id => if canonicalId id = "socks" then some socks else none
  activeCampaigns := some socksCampaigns
  baseFees := none
  named := by
    intro id variant h
    split at h
    · rename_i hid
      cases h
      exact hid.symm
    · cases h

def bought (productId : String) (quantity : ℕ) (isOnSale : Bool) : CartItem where
  variantId := productId
  productId := productId
  text := noText
  campaign := noTag
  unitPrice := 100
  isOnSale := isOnSale
  quantity := quantity
  subtotal := 100 * quantity
  isPromotionReward := false
  sourceCampaignId := none

theorem socks_stocked (items : List CartItem) : Stocked socksShop items socksCampaigns where
  loaded := rfl
  ids := by decide
  stock := by
    intro e he
    obtain ⟨hmem, heq, _⟩ := mem_giftCampaigns he
    refine ⟨socks, ?_⟩
    rw [heq]
    simp only [socksCampaigns, List.mem_cons, List.not_mem_nil, or_false] at hmem
    have hfound : socksShop.variants "socks" = some socks := by decide
    rcases hmem with h | h <;>
    · rw [h]
      change validateVariantStock socksShop "socks" 1 = .ok socks
      unfold validateVariantStock getVariantSnapshot
      rw [hfound]
      rfl

/-- Two caps earn a pair of socks. -/
theorem caps_earn_socks :
    buildPromotionItems socksShop [bought "cap" 2 false] = greedyGifts socksShop [bought "cap" 2 false] socksCampaigns :=
  (gifts_greedy_iff (socks_stocked _)).2 fun pre e post hl => by
    have hone : giftCampaigns [bought "cap" 2 false] socksCampaigns =
        [eligible [bought "cap" 2 false] (socksCampaign "pair" ["shirt", "cap"] ⟨2, by decide⟩ false 10)] := rfl
    rw [hone] at hl
    cases pre with
    | nil =>
      rintro ⟨x, _, b, hb, _⟩
      cases hb
    | cons a pre => cases pre <;> cases hl

/-- With two caps and a shirt on sale, the shirt adds nothing to the first campaign and earns nothing from the second. -/
theorem shirt_on_sale_blocks : Stocked socksShop [bought "shirt" 1 true, bought "cap" 2 false] socksCampaigns ∧
    buildPromotionItems socksShop [bought "shirt" 1 true, bought "cap" 2 false] ≠
      greedyGifts socksShop [bought "shirt" 1 true, bought "cap" 2 false] socksCampaigns := by
  refine ⟨socks_stocked _, ?_⟩
  decide +kernel

end Balii.Carts
