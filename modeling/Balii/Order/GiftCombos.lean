import Balii.Order.ReturnQuantities
import Balii.Payment.Settlement
import Balii.Voucher.Preview
/-!
# Order.GiftCombos — which selections of an order's items a return may name

A gift combo comes back whole.  The check goes over all gift campaigns of the order, the ones nobody selects from included:
what is left of those has to come back with anything else.  The check is behind a query that orders by a column the
migrations do not make, and the request fails there.
-/
namespace Balii

open Rowdb Tx Sql

/-- Whether `createReturnRequest` takes the request, with nobody else about. -/
def acceptsReturn (cfg : Config) (n : NewReturn) (s : Db) : Bool :=
  match parseReturnItems n.selected with
  | .error _ => false
  | .ok selected => (accepted (createReturnRequestTransaction cfg { n with selected }) s).isSome

/-- How many of an item can still be returned. -/
def returnable (s : Db) (i : OrderItem) : ℤ := i.quantity - previousQuantity i.id s

/-! ## What is asked, and of what -/

/-- **The customer may return the order now**: it was delivered to them, within the window, and no return of it is active.
Earlier returns took no more than was bought. -/
structure Open (cfg : Config) (n : NewReturn) (order : Order) (s : Db) : Prop where
  found : s.find Tab.orders n.orderId = some order
  user : order.userId = n.userId
  delivered : order.status = .delivered
  window : (n.now : ℤ) - cfg.getReturnWindowDays * 86400000 ≤ ((deliveredAt n.orderId s).getD order.updatedAt : ℤ)
  inactive : ∀ k r, s.find Tab.returnRequests k = some r → r.orderId = n.orderId → r.status.active = false
  fresh : s.find Tab.returnRequests n.id = none
  prices : ∀ i ∈ order.items, 0 ≤ i.unitPrice
  within : ∀ i ∈ order.items, 0 ≤ returnable s i

/-- **A selection of the order's items**, each in a quantity between one and what can still be returned. -/
structure Selects (n : NewReturn) (order : Order) (s : Db) : Prop where
  distinct : (n.selected.map fun e => e.1).Nodup
  known : ∀ e ∈ n.selected, ∃ i ∈ order.items, i.id = e.1
  quantity : ∀ e ∈ n.selected, 1 ≤ e.2 ∧ ∀ i ∈ order.items, i.id = e.1 → e.2 ≤ returnable s i

/-- Something of the campaign is selected. -/
def NewReturn.Touches (n : NewReturn) (order : Order) (campaignId : Uuid) : Prop :=
  ∃ i ∈ order.items, i.campaignId = some campaignId ∧ ∃ e ∈ n.selected, e.1 = i.id

/-- All remaining units of all items of the campaign are selected. -/
def NewReturn.Whole (n : NewReturn) (order : Order) (s : Db) (campaignId : Uuid) : Prop :=
  ∀ i ∈ order.items, i.campaignId = some campaignId → selectedQuantity n.selected i.id = returnable s i

/-- What a selection has to be: the gift combos it touches come back whole. -/
def NewReturn.TouchedWhole (n : NewReturn) (order : Order) (s : Db) : Prop :=
  ∀ id ∈ giftCampaignIds order.items, n.Touches order id → n.Whole order s id

/-- Of the gift combos that the selection leaves alone, nothing is left to return; and the form has between one and a hundred
entries. -/
def NewReturn.RestGone (n : NewReturn) (order : Order) (s : Db) : Prop :=
  (n.selected ≠ [] ∧ n.selected.length ≤ 100) ∧ ∀ id ∈ giftCampaignIds order.items, ¬ n.Touches order id →
    ∀ i ∈ order.items, i.campaignId = some id → returnable s i = 0

/-! ## What the code checks -/

variable {cfg : Config} {n : NewReturn} {order : Order} {s : Db}

theorem find_selected {selected : List (Uuid × ℤ)} {id : Uuid} {q : ℤ} (h : (selected.map fun e => e.1).Nodup)
    (hmem : (id, q) ∈ selected) : selectedQuantity selected id = q := by
  unfold selectedQuantity
  have hfind : selected.find? (fun e => e.1 == id) = some (id, q) := by
    induction selected with
    | nil => cases hmem
    | cons e selected ih =>
      rw [List.map_cons, List.nodup_cons] at h
      rw [List.find?_cons]
      rcases List.mem_cons.1 hmem with rfl | hmem
      · rw [beq_self_eq_true]
      · have hne : (e.1 == id) = false := by
          rw [beq_eq_false_iff_ne]
          rintro rfl
          exact h.1 (List.mem_map.2 ⟨_, hmem, rfl⟩)
        rw [hne]
        exact ih h.2 hmem
  rw [hfind]
  rfl

theorem selectedQuantity_of_not_mem {selected : List (Uuid × ℤ)} {id : Uuid} (h : ¬ ∃ e ∈ selected, e.1 = id) :
    selectedQuantity selected id = 0 := by
  unfold selectedQuantity
  have hfind : selected.find? (fun e => e.1 == id) = none := by
    refine List.find?_eq_none.2 fun e he heq => h ⟨e, he, ?_⟩
    exact beq_iff_eq.1 heq
  rw [hfind]
  rfl

/-- **The transaction goes through** on what is selected when the query over the items has its column, the items are the order's,
no quantity is too large, and every gift campaign of the order comes back whole. -/
theorem isSome_createReturn (h : Open cfg n order s) :
    (accepted (createReturnRequestTransaction cfg n) s).isSome = true ↔ cfg.columns.orderItemsCreatedAt = true ∧
      (∀ e ∈ n.selected, ∃ i ∈ order.items, i.id = e.1) ∧
      (∀ i ∈ order.items, selectedQuantity n.selected i.id ≤ returnable s i) ∧
      (∀ id ∈ giftCampaignIds order.items,
        returnsWholeCampaign order.items (returnable s) n.selected id = true) ∧
      ∀ i ∈ (n.row order).items, 0 < i.requestedQuantity ∧ 0 ≤ i.grossAmount := by
  have hfree : ((s.rows Tab.returnRequests).find fun _ r => r.orderId == n.orderId && r.status.active) = none := by
    refine AList.find_eq_none.2 fun k r hr => ?_
    by_cases hid : r.orderId = n.orderId
    · rw [h.inactive k r hr hid, Bool.and_false]
    · simp [hid]
  rw [Option.isSome_iff_exists]
  simp only [accepted_eq_some, createReturnRequestTransaction, exec_bind, exec_ensure, exec_select, exec_pure]
  constructor
  · rintro ⟨_, _, ⟨_, ⟨_, rfl, rfl⟩, _, hfetch, _, ⟨_, rfl⟩, _, ⟨_, rfl, rfl⟩, _, ⟨_, rfl⟩, _, ⟨hcolumn, rfl⟩, _,
      ⟨_, rfl, rfl⟩, _, ⟨hknown, rfl⟩, _, ⟨hroom, rfl⟩, _, ⟨hwhole, rfl⟩, _, ⟨hitems, rfl⟩, _⟩, _⟩
    obtain ⟨order', hfound, rfl⟩ := exec_fetchJoin hfetch
    obtain rfl := Option.some.inj (h.found.symm.trans hfound)
    exact ⟨hcolumn, hknown, hroom, hwhole, hitems⟩
  · rintro ⟨hcolumn, hknown, hroom, hwhole, hitems⟩
    refine ⟨n.id, _, ⟨_, ⟨s, rfl, rfl⟩, _, exec_fetchJoin_alone.2 ⟨order, h.found, rfl⟩, _,
      ⟨⟨h.user, h.delivered, h.window⟩, rfl⟩, _, ⟨s, rfl, rfl⟩, _, ⟨?_, rfl⟩, _, ⟨hcolumn, rfl⟩, _, ⟨s, rfl, rfl⟩, _, ⟨hknown, rfl⟩, _,
      ⟨hroom, rfl⟩, _, ⟨hwhole, rfl⟩, _, ⟨hitems, rfl⟩, _, exec_unique_alone.2 ⟨hfree, rfl⟩, _,
      exec_insert_iff.2 ⟨h.fresh, rfl⟩, rfl⟩, rfl⟩
    exact Option.isNone_iff_eq_none.2 hfree

theorem returnsWholeCampaign_iff {id : Uuid} :
    returnsWholeCampaign order.items (returnable s) n.selected id = true ↔ n.Whole order s id := by
  unfold returnsWholeCampaign NewReturn.Whole
  rw [List.all_eq_true]
  constructor
  · intro h i hi hid
    exact beq_iff_eq.1 (h i (List.mem_filter.2 ⟨hi, beq_iff_eq.2 hid⟩))
  · intro h i hi
    obtain ⟨hi, hid⟩ := List.mem_filter.1 hi
    exact beq_iff_eq.2 (h i hi (beq_iff_eq.1 hid))

section Selected
variable (h : Open cfg n order s) (hs : Selects n order s)
include h hs

theorem selected_le_returnable {i : OrderItem} (hi : i ∈ order.items) : selectedQuantity n.selected i.id ≤ returnable s i := by
  by_cases hsel : ∃ e ∈ n.selected, e.1 = i.id
  · obtain ⟨⟨id, q⟩, he, hid⟩ := hsel
    obtain rfl : id = i.id := hid
    rw [find_selected hs.distinct he]
    exact (hs.quantity _ he).2 i hi rfl
  · rw [selectedQuantity_of_not_mem hsel]
    exact h.within i hi

theorem row_checked : ∀ i ∈ (n.row order).items, 0 < i.requestedQuantity ∧ 0 ≤ i.grossAmount := by
  intro r hr
  obtain ⟨e, he, rfl⟩ := List.mem_map.1 hr
  obtain ⟨hi, hany⟩ := List.mem_filter.1 (List.fst_mem_of_mem_zipIdx he)
  obtain ⟨⟨id, q⟩, hsel, hid⟩ := List.any_eq_true.1 hany
  obtain rfl : id = e.1.id := beq_iff_eq.1 hid
  have hq : 0 < selectedQuantity n.selected e.1.id := by
    rw [find_selected hs.distinct hsel]
    exact (hs.quantity _ hsel).1
  exact ⟨hq, mul_nonneg (h.prices _ hi) hq.le⟩

/-- **A request is taken** when the query over the items has its column, the form has a size it may have, and every gift campaign
of the order comes back whole. -/
theorem acceptsReturn_iff : acceptsReturn cfg n s = true ↔ cfg.columns.orderItemsCreatedAt = true ∧
    (n.selected ≠ [] ∧ n.selected.length ≤ 100) ∧ ∀ id ∈ giftCampaignIds order.items, n.Whole order s id := by
  unfold acceptsReturn parseReturnItems
  have hpos : ¬ ∃ e ∈ n.selected, e.2 ≤ 0 := by
    rintro ⟨e, he, hle⟩
    have := (hs.quantity e he).1
    omega
  rw [if_neg hpos, if_neg (not_not.2 hs.distinct)]
  by_cases hsize : n.selected = [] ∨ 100 < n.selected.length
  · rw [if_pos hsize]
    refine ⟨fun h => (nomatch h), ?_⟩
    rintro ⟨_, ⟨hne, hlen⟩, _⟩
    rcases hsize with hnil | hlong
    · exact absurd hnil hne
    · omega
  · rw [if_neg hsize]
    obtain ⟨hne, hlen⟩ := not_or.1 hsize
    refine (isSome_createReturn h).trans ?_
    constructor
    · rintro ⟨hcolumn, _, _, hwhole, _⟩
      exact ⟨hcolumn, ⟨hne, not_lt.1 hlen⟩, fun id hid => returnsWholeCampaign_iff.1 (hwhole id hid)⟩
    · rintro ⟨hcolumn, _, hwhole⟩
      exact ⟨hcolumn, hs.known, fun i hi => selected_le_returnable h hs hi, fun id hid => returnsWholeCampaign_iff.2 (hwhole id hid),
        row_checked h hs⟩

end Selected

theorem whole_untouched {id : Uuid} (h : ¬ n.Touches order id) :
    n.Whole order s id ↔ ∀ i ∈ order.items, i.campaignId = some id → returnable s i = 0 := by
  have hzero : ∀ i ∈ order.items, i.campaignId = some id → selectedQuantity n.selected i.id = 0 := by
    intro i hi hid
    exact selectedQuantity_of_not_mem fun hsel => h ⟨i, hi, hid, hsel⟩
  unfold NewReturn.Whole
  constructor
  · intro hwhole i hi hid
    rw [← hwhole i hi hid, hzero i hi hid]
  · intro hgone i hi hid
    rw [hzero i hi hid, hgone i hi hid]

/-- **The rule for gift combos is kept exactly when** the selection breaks it; or, where the query over the items has its column,
nothing is left of the combos that the selection leaves alone. -/
theorem combos_returned_iff (h : Open cfg n order s) (hs : Selects n order s) :
    (acceptsReturn cfg n s = true ↔ n.TouchedWhole order s) ↔
      (n.TouchedWhole order s → cfg.columns.orderItemsCreatedAt = true ∧ n.RestGone order s) := by
  have hwhole : (∀ id ∈ giftCampaignIds order.items, n.Whole order s id) ↔ n.TouchedWhole order s ∧
      ∀ id ∈ giftCampaignIds order.items, ¬ n.Touches order id →
        ∀ i ∈ order.items, i.campaignId = some id → returnable s i = 0 := by
    constructor
    · intro hall
      exact ⟨fun id hid _ => hall id hid, fun id hid huntouched => (whole_untouched huntouched).1 (hall id hid)⟩
    · rintro ⟨htouched, hrest⟩ id hid
      by_cases ht : n.Touches order id
      · exact htouched id hid ht
      · exact (whole_untouched ht).2 (hrest id hid ht)
  rw [acceptsReturn_iff h hs, hwhole]
  unfold NewReturn.RestGone
  constructor
  · intro hiff htouched
    obtain ⟨hcolumn, hsize, _, hrest⟩ := hiff.2 htouched
    exact ⟨hcolumn, hsize, hrest⟩
  · intro hfits
    refine ⟨fun hall => hall.2.2.1, fun htouched => ?_⟩
    obtain ⟨hcolumn, hsize, hrest⟩ := hfits htouched
    exact ⟨hcolumn, hsize, htouched, hrest⟩

/-! ### A shirt next to a combo -/

/-- A cap of the gift combo `7` and a shirt, both delivered. -/
def capAndShirt : Order where
  userId := 1
  orderCode := "ORD"
  checkoutIdempotencyKey := 1
  status := .delivered
  inventoryState := .committed
  voucherId := none
  subtotal := 30000000
  discountAmount := 0
  shippingFee := 0
  totalAmount := 30000000
  items := [
    { id := 1, variantId := 1, productName := "Cap", unitPrice := 10000000, quantity := 1, subtotal := 10000000
      campaignId := some 7, campaignDiscountType := some "GIFT" },
    { id := 2, variantId := 2, productName := "Shirt", unitPrice := 20000000, quantity := 1, subtotal := 20000000
      campaignId := none, campaignDiscountType := none }]
  createdAt := 0
  updatedAt := 0

/-- A database with nothing but that order, as `1`. -/
def capAndShirtShop : Db where
  rows t :=
    match t with
    | .orders => (∅ : Table Uuid Order).insert 1 capAndShirt
    | _ => ∅
  log := []

/-- What the customer asks to return of it. -/
def returnOf (selected : List (Uuid × ℤ)) : NewReturn where
  id := 1
  itemId := Function.Embedding.refl ℕ
  orderId := 1
  userId := 1
  reason := "Too small"
  selected := selected
  now := 1000

theorem capAndShirt_open (columns : Columns) (selected : List (Uuid × ℤ)) :
    Open { sampleConfig with columns } (returnOf selected) capAndShirt capAndShirtShop where
  found := AList.lookup_insert _
  user := rfl
  delivered := rfl
  window := by
    show (1000 : ℤ) - 7 * 86400000 ≤ 0
    norm_num
  inactive _ _ hr := nomatch hr
  fresh := rfl
  prices := by decide
  within := by decide

theorem selects_capAndShirt : Selects (returnOf [(1, 1), (2, 1)]) capAndShirt capAndShirtShop :=
  ⟨by decide, by decide, by decide⟩

theorem selects_shirt : Selects (returnOf [(2, 1)]) capAndShirt capAndShirtShop := ⟨by decide, by decide, by decide⟩

/-- Both of them are selected, and only the missing column stands in the way. -/
theorem capAndShirt_returned :
    (acceptsReturn sampleConfig (returnOf [(1, 1), (2, 1)]) capAndShirtShop = true ↔
      (returnOf [(1, 1), (2, 1)]).TouchedWhole capAndShirt capAndShirtShop) ↔
    ((returnOf [(1, 1), (2, 1)]).TouchedWhole capAndShirt capAndShirtShop →
      sampleConfig.columns.orderItemsCreatedAt = true ∧ (returnOf [(1, 1), (2, 1)]).RestGone capAndShirt capAndShirtShop) :=
  combos_returned_iff (capAndShirt_open .migrated _) selects_capAndShirt

/-- The shirt is in no combo. -/
theorem shirt_touchedWhole : (returnOf [(2, 1)]).TouchedWhole capAndShirt capAndShirtShop := by
  intro id _ ⟨i, hi, hid, e, he, heq⟩
  obtain rfl : e = (2, 1) := List.mem_singleton.1 he
  have hfree : ∀ i ∈ capAndShirt.items, i.id = 2 → i.campaignId = none := by decide
  rw [hfree i hi heq.symm] at hid
  cases hid

/-- It does not come back without the cap, and as the tables are it does not come back at all. -/
theorem shirt_kept :
    ¬ (acceptsReturn sampleConfig (returnOf [(2, 1)]) capAndShirtShop = true ↔
      (returnOf [(2, 1)]).TouchedWhole capAndShirt capAndShirtShop) ∧
    ¬ (acceptsReturn { sampleConfig with columns := ⟨true, 20, le_rfl⟩ } (returnOf [(2, 1)]) capAndShirtShop = true ↔
      (returnOf [(2, 1)]).TouchedWhole capAndShirt capAndShirtShop) := by
  refine ⟨fun h => ?_, fun h => ?_⟩
  · have hcolumn := ((acceptsReturn_iff (capAndShirt_open .migrated _) selects_shirt).1 (h.2 shirt_touchedWhole)).1
    cases hcolumn
  · have hcap := ((acceptsReturn_iff (capAndShirt_open _ _) selects_shirt).1 (h.2 shirt_touchedWhole)).2.2 7 (by decide)
    revert hcap
    unfold NewReturn.Whole
    decide

end Balii
