import Balii.Cart.Alone
import Balii.Cart.Gifts
import Balii.Cart.Lines
import Balii.Lib.Fallible
/-!
# Calculation — when a cart can be calculated

A cart is calculated before it is answered, whatever was asked for.  Its lines need only be known to the product service, but every
gift that they earn has to be in stock, or the whole calculation fails.
-/
namespace Balii.Carts

open Rowdb Rowdb.Atomic Greedy

/-! ## What the calculation needs -/

/-- The variant is there, is active, and has these units left. -/
def InStock (shop : Shop) (variantId : String) (quantity : ℕ) : Prop :=
  ∃ variant, shop.variants variantId = some variant ∧ variant.isActive = true ∧
    (quantity : ℤ) ≤ variant.stockQuantity - variant.reservedQuantity

/-- A line as the product service prices it. -/
def CartItem.priced (shop : Shop) (item : CartItem) : CartItem :=
  match shop.variants item.variantId with
  | none => item
  | some variant =>
    { item with
      productId := variant.productId
      text := variant.text
      unitPrice := roundMoney variant.unitPrice
      isOnSale := variant.isOnSale
      subtotal := roundMoney (roundMoney variant.unitPrice * item.quantity) }

/-- The campaigns whose gifts the lines earn. -/
def earned (items : List CartItem) (campaigns : List ActiveCampaign) : List Eligible :=
  choose (Eligible.present items) (giftCampaigns items campaigns) []

/-- **What a calculation needs** of the product service and of the tables: the lines are known, the gifts they earn are in stock,
`FREE_SHIPPING_MIN_AMOUNT` is a number that is not negative, and there is a shipping method with such a fee. -/
structure Calculable (cfg : Config) (items : List CartItem) (answers : ℕ → Answer) : Prop where
  known : ∀ item ∈ items, ((answers 0).shop.variants item.variantId).isSome = true
  gifts : items ≠ [] → ∃ campaigns, (answers 1).shop.activeCampaigns = some campaigns ∧
    ∀ e ∈ earned (items.map (CartItem.priced (answers 0).shop)) campaigns,
      InStock (answers 1).shop (e.campaign.giftVariantId.getD "") e.units
  threshold : ∃ minimum, cfg.freeShippingMinimum = .ok minimum
  fee : ∃ fee, getDefaultShippingFee (answers 2).shop = .ok fee

theorem validateVariantStock_iff {shop : Shop} {variantId : String} {quantity : ℕ} :
    (∃ variant, validateVariantStock shop variantId quantity = .ok variant) ↔ InStock shop variantId quantity := by
  unfold validateVariantStock InStock getVariantSnapshot
  cases shop.variants variantId with
  | none => exact ⟨fun ⟨_, h⟩ => (nomatch h), fun ⟨_, h, _⟩ => (nomatch h)⟩
  | some variant =>
    constructor
    · rintro ⟨found, h⟩
      obtain ⟨_, hvariant, h⟩ := bind_eq_ok.1 h
      cases hvariant
      split at h
      · cases h
      · rename_i hactive
        dsimp only at h
        split at h
        · cases h
        · rename_i hstock
          exact ⟨variant, rfl, by simpa using hactive, not_lt.1 hstock⟩
    · rintro ⟨_, hvariant, hactive, hstock⟩
      cases hvariant
      refine ⟨variant, bind_eq_ok.2 ⟨variant, rfl, ?_⟩⟩
      rw [if_neg (by rw [hactive]; exact Bool.noConfusion), if_neg (not_lt.2 hstock)]

theorem priceItem_priced {shop : Shop} {items priced : List CartItem} : items.mapM (priceItem shop) = .ok priced ↔
    (∀ item ∈ items, (shop.variants item.variantId).isSome = true) ∧ priced = items.map (CartItem.priced shop) := by
  refine mapM_ok (fun item hitem => ?_) fun item hitem => ?_
  · obtain ⟨variant, hvariant⟩ := Option.isSome_iff_exists.1 hitem
    unfold priceItem getVariantSnapshot CartItem.priced
    rw [hvariant]
    rfl
  · unfold priceItem getVariantSnapshot
    rw [Option.not_isSome_iff_eq_none.1 hitem]
    exact ⟨_, rfl⟩

theorem buildPromotionItems_iff {shop : Shop} {items : List CartItem} : (∃ gifts, buildPromotionItems shop items = .ok gifts) ↔
    (items ≠ [] → ∃ campaigns, shop.activeCampaigns = some campaigns ∧
      ∀ e ∈ earned items campaigns, InStock shop (e.campaign.giftVariantId.getD "") e.units) := by
  by_cases hitems : items = []
  · subst hitems
    exact iff_of_true ⟨[], rfl⟩ fun h => absurd rfl h
  cases hcampaigns : shop.activeCampaigns with
  | none =>
    have hnone : buildPromotionItems shop items = .error (.badRequest "Unable to load active campaigns") := by
      unfold buildPromotionItems getActiveCampaigns
      rw [hcampaigns, if_neg (by simpa using hitems)]
      rfl
    rw [hnone]
    refine iff_of_false (fun ⟨_, h⟩ => (nomatch h)) fun h => ?_
    obtain ⟨_, hsome, _⟩ := h hitems
    cases hsome
  | some campaigns =>
    have hgrant : ∀ e : Eligible, (∃ gift, grant shop e = .ok gift) ↔ InStock shop (e.campaign.giftVariantId.getD "") e.units := by
      intro e
      rw [← validateVariantStock_iff]
      constructor
      · rintro ⟨_, h⟩
        obtain ⟨gift, hgift, _⟩ := bind_eq_ok.1 h
        exact ⟨gift, hgift⟩
      · rintro ⟨gift, hgift⟩
        exact ⟨_, bind_eq_ok.2 ⟨gift, hgift, rfl⟩⟩
    rw [buildPromotionItems_eq hcampaigns, exists_mapM_ok]
    simp only [hgrant]
    constructor
    · exact fun h _ => ⟨campaigns, rfl, h⟩
    · intro h
      obtain ⟨_, hsome, hstock⟩ := h hitems
      cases hsome
      exact hstock

/-- **A cart is calculated exactly where what that needs is there**; its lines stay. -/
theorem calculated_iff {cfg : Config} {cart : Cart} {answers : ℕ → Answer} {now : ℕ} :
    (∃ shown, calculated cfg cart answers now = .ok shown) ↔ Calculable cfg cart.items answers := by
  have hgifts := @buildPromotionItems_iff (answers 1).shop (cart.items.map (CartItem.priced (answers 0).shop))
  constructor
  · rintro ⟨shown, h⟩
    obtain ⟨items, hitems, h⟩ := bind_eq_ok.1 h
    obtain ⟨hknown, rfl⟩ := priceItem_priced.1 hitems
    obtain ⟨gifts, hpromotion, h⟩ := bind_eq_ok.1 h
    obtain ⟨minimum, hminimum, h⟩ := bind_eq_ok.1 h
    obtain ⟨fee, hfee, -⟩ := bind_eq_ok.1 h
    exact ⟨hknown, fun hsome => hgifts.1 ⟨gifts, hpromotion⟩ (by simpa using hsome), ⟨minimum, hminimum⟩, ⟨fee, hfee⟩⟩
  · rintro ⟨hknown, hstock, ⟨minimum, hminimum⟩, ⟨fee, hfee⟩⟩
    obtain ⟨gifts, hpromotion⟩ := hgifts.2 fun hsome => hstock (by simpa using hsome)
    exact ⟨_, bind_eq_ok.2 ⟨_, priceItem_priced.2 ⟨hknown, rfl⟩, bind_eq_ok.2 ⟨gifts, hpromotion,
      bind_eq_ok.2 ⟨minimum, hminimum, bind_eq_ok.2 ⟨fee, hfee, rfl⟩⟩⟩⟩⟩

theorem calculated_lines {cfg : Config} {cart shown : Cart} {answers : ℕ → Answer} {now : ℕ}
    (h : calculated cfg cart answers now = .ok shown) : linesOf shown.items = linesOf cart.items := by
  obtain ⟨items, hitems, h⟩ := bind_eq_ok.1 h
  obtain ⟨_, _, h⟩ := bind_eq_ok.1 h
  obtain ⟨_, _, h⟩ := bind_eq_ok.1 h
  obtain ⟨_, _, h⟩ := bind_eq_ok.1 h
  obtain rfl := Except.ok.inj h
  exact linesOf_priced hitems

/-! ## Reading and reducing -/

/-- What a customer does to read a cart, or to have less in it. -/
inductive Reduction
  | look
  | remove (variantId : String)
  | lower (variantId : String) (quantity : ℕ)

namespace Reduction

def call (owner : Owner) : Reduction → Call
  | look => .getCart owner
  | remove variantId => .removeItem owner variantId
  | lower variantId quantity => .updateItem owner variantId quantity

/-- The lines that are left; a line is lowered only to a quantity that is in stock. -/
def edit (shop : Shop) (items : List CartItem) : Reduction → Except Err (List CartItem)
  | look => .ok items
  | remove variantId => .ok (items.filter fun item => item.variantId != variantId)
  | lower variantId quantity => do
    let _ ← (findItem variantId items).elim (.error (.notFound "Cart item not found")) .ok
    let variant ← validateVariantStock shop variantId quantity
    pure (changeItem variantId (fun item => { item.refreshed variant with quantity := quantity }) items)

/-- The answers that the calculation gets. -/
def rest (answers : ℕ → Answer) : Reduction → ℕ → Answer
  | lower _ _ => fun n => answers (n + 1)
  | _ => answers

end Reduction

section Plays
variable {cfg : Config} {owner : Owner} {key : String} {s : State} {answers : ℕ → Answer} {items : List CartItem}

theorem play_reply {p : Procedure Cart} : (play (A := carts cfg) (p >>= fun cart => pure (Reply.cart cart)) answers s).result =
    (play (A := carts cfg) p answers s).result.map Reply.cart := by
  rw [play_bind]
  obtain ⟨result, answers', s'⟩ := play (A := carts cfg) p answers s
  cases result <;> rfl

theorem play_removeItem {variantId : String} (hkey : getCartKey owner = .ok key) (hfree : s.held (lockKey key) = none) :
    (play (A := carts cfg) (removeItem cfg owner variantId) answers s).result =
      editedCart cfg s key (.ok ((s.rawCart key).items.filter fun item => item.variantId != variantId)) answers :=
  (@play_editCart cfg key answers s owner (fun items => pure (items.filter fun item => item.variantId != variantId)) _ _ hkey hfree
    rfl).1

theorem play_updateItem {variantId : String} {quantity : ℕ} (hkey : getCartKey owner = .ok key)
    (hfree : s.held (lockKey key) = none)
    (hedit : Reduction.edit (answers 0).shop (s.rawCart key).items (.lower variantId quantity) = .ok items) :
    (play (A := carts cfg) (updateItem cfg owner variantId quantity) answers s).result =
      editedCart cfg s key (.ok items) fun n => answers (n + 1) := by
  obtain ⟨item, hitem, hedit⟩ := bind_eq_ok.1 hedit
  obtain ⟨variant, hvariant, hedit⟩ := bind_eq_ok.1 hedit
  cases hedit
  refine (play_editCart hkey hfree ?_).1
  rw [play_bind, play_need, hitem, andThen_ok, play_bind, play_askShop, andThen_ok, play_bind, play_ofExcept, hvariant, andThen_ok]
  rfl

/-- **Reading and reducing are one calculation** of the lines that are left. -/
theorem play_reduction (reduction : Reduction) (hkey : getCartKey owner = .ok key) (hfree : s.held (lockKey key) = none)
    (hedit : reduction.edit (answers 0).shop (s.rawCart key).items = .ok items) :
    (play (A := carts cfg) (Call.proc cfg (reduction.call owner)) answers s).result =
      (calculated cfg { s.rawCart key with items := items } (reduction.rest answers) s.now).map Reply.cart := by
  cases reduction with
  | look =>
    cases hedit
    exact play_reply.trans (congrArg _ (play_getCart hkey hfree))
  | remove variantId =>
    cases hedit
    exact play_reply.trans (congrArg _ (play_removeItem hkey hfree))
  | lower variantId quantity => exact play_reply.trans (congrArg _ (play_updateItem hkey hfree hedit))

end Plays

/-- **A customer about to read or reduce a cart**: whose it is, what is stored, and what the product service and the tables answer.
Nobody has the lock; a line is lowered to less than it is, and to a quantity in stock. -/
structure Visit (cfg : Config) where
  owner : Owner
  key : String
  hasKey : getCartKey owner = .ok key
  state : State
  free : state.held (lockKey key) = none
  answers : ℕ → Answer
  campaigns : ∀ n, (answers n).shop.activeCampaigns.isSome = true
  methods : ∀ n, (answers n).shop.baseFees.isSome = true
  reduction : Reduction
  items : List CartItem
  edited : reduction.edit (answers 0).shop (state.rawCart key).items = .ok items
  lower : ∀ variantId quantity, reduction = .lower variantId quantity →
    ∀ item, findItem variantId (state.rawCart key).items = some item → quantity < item.quantity

namespace Visit

variable {cfg : Config} (v : Visit cfg)

/-- **The customer gets the cart**, with the lines that are left. -/
def Served : Prop :=
  ∃ cart, (play (A := carts cfg) (Call.proc cfg (v.reduction.call v.owner)) v.answers v.state).result = .ok (.cart cart) ∧
    linesOf cart.items = linesOf v.items

theorem result_eq : (play (A := carts cfg) (Call.proc cfg (v.reduction.call v.owner)) v.answers v.state).result =
    (calculated cfg { v.state.rawCart v.key with items := v.items } (v.reduction.rest v.answers) v.state.now).map Reply.cart :=
  play_reduction v.reduction v.hasKey v.free v.edited

/-- **A cart can be read and reduced exactly when it can be calculated**: when the product service knows the lines that are left, and
has all the gifts in stock that they earn, and the settings of shipping are as they should be. -/
theorem served_iff : v.Served ↔ Calculable cfg v.items (v.reduction.rest v.answers) := by
  have hcalculated := @calculated_iff cfg { v.state.rawCart v.key with items := v.items } (v.reduction.rest v.answers) v.state.now
  unfold Served
  rw [v.result_eq, ← hcalculated]
  constructor
  · rintro ⟨cart, h, -⟩
    obtain ⟨shown, hshown, -⟩ := map_eq_ok.1 h
    exact ⟨shown, hshown⟩
  · rintro ⟨shown, hshown⟩
    refine ⟨shown, ?_, calculated_lines hshown⟩
    rw [hshown]
    rfl

end Visit

/-! ### A gift that has run out -/

/-- Shirts are in stock, and the socks that a shirt earns are not. -/
def outOfSocks : Answer where
  shop :=
    { variants := fun id => some { socks with
        variantId := canonicalId id, productId := id, stockQuantity := if id = "shirt" then 10 else 0 }
      activeCampaigns := some socksCampaigns
      baseFees := some [.num 30000]
      named := fun _ _ h => by cases h; rfl }
  ordered := true

/-- The customer has a shirt in the cart. -/
def shirtKept : State where
  carts := (∅ : Table String Cart).insert "cart:7" ⟨"cart:7", [bought "shirt" 1 false], [], 0, 0, 0, 0, 0⟩
  expires := (∅ : Table String ℕ).insert "cart:7" cartTtlMs
  locks := ∅
  nextToken := 0
  now := 0

def lookAtShirt : Visit ⟨none⟩ where
  owner := ⟨some "7", none⟩
  key := "cart:7"
  hasKey := rfl
  state := shirtKept
  free := rfl
  answers := fun _ => outOfSocks
  campaigns := fun _ => rfl
  methods := fun _ => rfl
  reduction := .look
  items := [bought "shirt" 1 false]
  edited := rfl
  lower := fun _ _ h => (nomatch h)

/-- **A cart that has earned a gift cannot be read when the gift has run out.** -/
theorem shirt_unreadable : ¬ ∀ (cfg : Config) (v : Visit cfg), v.Served := by
  intro h
  obtain ⟨cart, hcart, -⟩ := h _ lookAtShirt
  rw [lookAtShirt.result_eq] at hcart
  obtain ⟨shown, hshown, -⟩ := map_eq_ok.1 hcart
  have hfails : (calculated ⟨none⟩ { lookAtShirt.state.rawCart lookAtShirt.key with items := lookAtShirt.items }
      (lookAtShirt.reduction.rest lookAtShirt.answers) lookAtShirt.state.now).isOk = false := by decide
  rw [hshown] at hfails
  cases hfails

end Balii.Carts
