import Balii.Cart.Updates
/-!
# Discounts — no cart has one

A cart is stored with the discount that was read, and an empty cart has none: so in every run from such carts no cart ever gets one.
-/
namespace Balii.Carts

open Rowdb Rowdb.Atomic List

section Discounts
variable {cfg : Config} {key : String} {l : Log cfg} {α : Type}

/-- No stored cart has a discount. -/
def Undiscounted (s : State) : Prop := ∀ key cart, s.carts.lookup key = some cart → cart.discountAmount = 0

/-- All that was done was done on such carts. -/
def Plain (l : Log cfg) : Prop := ∀ x ∈ l, Undiscounted x.before

/-- **Nobody gives a discount**: what is written has none, if nothing that was read had one. -/
def WritesPlain (l : Log cfg) (op : Op) (_ : State) : Prop := ∀ key cart, op = .set key cart → Plain l → cart.discountAmount = 0

theorem Plain.left {l₂ : Log cfg} (h : Plain (l ++ l₂)) : Plain l := fun x hx => h x (List.mem_append_left _ hx)

theorem logs_getRawCart_plain :
    Logs (A := carts cfg) WritesPlain (getRawCart key) (fun l cart => Plain l → cart.discountAmount = 0) l := by
  refine logs_bind (logs_trans fun n b found b' hperf => ⟨fun _ _ h => (nomatch h), ?_⟩)
  cases hperf
  split
  · exact logs_bind (logs_trans fun n b now b' _ => ⟨fun _ _ h => (nomatch h), fun _ => rfl⟩)
  · rename_i cart hsome
    exact fun hplain => hplain ⟨n, .get key, b⟩ (by simp) key cart hsome

theorem logs_saveCart_plain {cart : Cart} (h : Plain l → cart.discountAmount = 0) :
    Logs (A := carts cfg) WritesPlain (saveCart cfg key cart) (fun _ _ => True) l := by
  refine logs_bind (logs_bind (logs_bind (logs_answer fun variants => logs_bind (logs_ofExcept fun items _ => ?_))))
  refine logs_bind (logs_bind (logs_answer fun promotions => logs_bind (logs_ofExcept fun promotionItems _ => ?_)))
  refine logs_bind (logs_ofExcept fun minimum _ => logs_bind (logs_bind (logs_answer fun methods => ?_)))
  refine logs_bind (logs_ofExcept fun fee _ => logs_bind (logs_trans fun n b now b' _ => ⟨fun _ _ h => (nomatch h), ?_⟩))
  refine logs_bind (logs_trans fun _ _ _ _ _ => ⟨fun key' cart' hset hplain => ?_, trivial⟩)
  cases hset
  change ((roundMoney cart.discountAmount : ℤ) : ℚ) = 0
  rw [h hplain.left]
  exact_mod_cast roundMoney_intCast 0

theorem logs_withCartLock_plain {operation : Procedure α} {post : Log cfg → α → Prop}
    (h : ∀ l₂, Logs (A := carts cfg) WritesPlain operation (fun l' a => ∀ z, post (l' ++ [z]) a) (l ++ l₂)) :
    Logs (A := carts cfg) WritesPlain (withCartLock key operation) post l :=
  logs_withCartLock (fun _ _ _ h => (nomatch h)) (fun _ _ _ _ _ _ _ h => (nomatch h)) (fun _ _ _ _ _ _ _ h => (nomatch h))
    fun l₂ y _ _ => (h (l₂ ++ [y])).mono fun _ _ hpost z _ => hpost z

/-- An edit that only asks. -/
def OnlyAsks (cfg : Config) (edit : List CartItem → Procedure (List CartItem)) : Prop :=
  ∀ items (l : Log cfg), Logs (A := carts cfg) WritesPlain (edit items) (fun l' _ => l' = l) l

theorem logs_editCart_plain {owner : Owner} {edit : List CartItem → Procedure (List CartItem)} (hedit : OnlyAsks cfg edit) :
    Logs (A := carts cfg) WritesPlain (editCart cfg owner edit) (fun _ _ => True) l := by
  refine logs_bind (logs_ofExcept fun key _ => logs_withCartLock_plain fun l₂ => logs_bind (logs_getRawCart_plain.mono ?_))
  intro l' cart hcart
  refine logs_bind ((hedit cart.items l').mono ?_)
  rintro _ items rfl
  refine (logs_saveCart_plain fun hplain => ?_).mono fun _ _ _ _ => trivial
  exact hcart hplain

theorem OnlyAsks.pure (f : List CartItem → List CartItem) : OnlyAsks cfg fun items => Pure.pure (f items) := fun _ _ => rfl

theorem addItem_asks (variantId : String) (quantity : ℕ) : OnlyAsks cfg fun items => (do
    match findItem variantId items with
    | some existedItem => do
      let newQuantity := existedItem.quantity + quantity
      let shop ← askShop
      let variant ← Proc.ofExcept (validateVariantStock shop variantId newQuantity)
      pure (changeItem variantId (fun item => { item.refreshed variant with quantity := newQuantity }) items)
    | none => do
      Proc.ensure (items.length < 50) tooManyItems
      let shop ← askShop
      let variant ← Proc.ofExcept (validateVariantStock shop variantId quantity)
      pure (items ++ [newItem variant quantity]) : Procedure (List CartItem)) := by
  intro items l
  beta_reduce
  cases findItem variantId items with
  | some item =>
    refine logs_bind (logs_bind (logs_answer fun answer => logs_bind (logs_ofExcept fun variant _ => ?_)))
    exact (rfl : l = l)
  | none =>
    refine logs_bind (logs_ensure fun _ => logs_bind (logs_bind (logs_answer fun answer => logs_bind (logs_ofExcept fun variant _ => ?_))))
    exact (rfl : l = l)

theorem updateItem_asks (variantId : String) (quantity : ℕ) : OnlyAsks cfg fun items => (do
    let _ ← Proc.need (findItem variantId items) (.notFound "Cart item not found")
    let shop ← askShop
    let variant ← Proc.ofExcept (validateVariantStock shop variantId quantity)
    pure (changeItem variantId (fun item => { item.refreshed variant with quantity := quantity }) items) :
      Procedure (List CartItem)) := by
  intro items l
  refine logs_bind (logs_need fun item _ => logs_bind (logs_bind (logs_answer fun answer => logs_bind (logs_ofExcept fun variant _ => ?_))))
  exact (rfl : l = l)

theorem validateCart_asks : OnlyAsks cfg fun items => (do
    Proc.ensure (items ≠ []) (.badRequest "Cart is empty")
    let shop ← askShop
    Proc.ofExcept (refreshItems shop items) : Procedure (List CartItem)) := fun _ _ =>
  logs_bind (logs_ensure fun _ => logs_bind (logs_bind (logs_answer fun _ => logs_ofExcept fun _ _ => rfl)))

theorem logs_clearCart_plain {owner : Owner} {expectedUpdatedAt : Option ℕ} :
    Logs (A := carts cfg) WritesPlain (clearCart owner expectedUpdatedAt) (fun _ _ => True) l := by
  refine logs_bind (logs_ofExcept fun key _ => logs_withCartLock_plain fun l₂ => ?_)
  cases expectedUpdatedAt with
  | none => exact logs_bind (logs_trans fun _ _ _ _ _ => ⟨fun _ _ h => (nomatch h), fun _ => trivial⟩)
  | some expected =>
    refine logs_bind (logs_getRawCart_plain.mono fun l' cart _ => ?_)
    split
    · exact logs_bind (logs_trans fun _ _ _ _ _ => ⟨fun _ _ h => (nomatch h), fun _ => trivial⟩)
    · exact fun _ => trivial

theorem logs_mergeCarts_plain {guestKey userKey : String} :
    Logs (A := carts cfg) WritesPlain (mergeCarts cfg guestKey userKey) (fun _ _ => True) l := by
  refine logs_bind (logs_getRawCart_plain.mono fun l₁ guestCart _ => logs_bind (logs_getRawCart_plain.mono fun l₂ userCart hplain => ?_))
  refine logs_bind (logs_ofExcept fun items _ => logs_bind (logs_bind (logs_answer fun _ => logs_bind (logs_ofExcept fun _ _ => ?_))))
  refine logs_bind (logs_trans fun _ _ _ _ _ => ⟨fun _ _ h => (nomatch h), ?_⟩)
  exact logs_saveCart_plain fun h => hplain h.left

/-- **No call gives a discount.** -/
theorem proc_logs_plain (call : Call) : Logs (A := carts cfg) WritesPlain (Call.proc cfg call) (fun _ _ => True) [] := by
  cases call with
  | getCart owner => exact logs_bind ((logs_editCart_plain (.pure id)).mono fun _ _ _ => trivial)
  | addItem owner variantId quantity => exact logs_bind ((logs_editCart_plain (addItem_asks variantId quantity)).mono fun _ _ _ => trivial)
  | updateItem owner variantId quantity =>
    exact logs_bind ((logs_editCart_plain (updateItem_asks variantId quantity)).mono fun _ _ _ => trivial)
  | removeItem owner variantId => exact logs_bind ((logs_editCart_plain (.pure _)).mono fun _ _ _ => trivial)
  | clearCart owner expectedUpdatedAt => exact logs_bind (logs_clearCart_plain.mono fun _ _ _ => trivial)
  | mergeGuestCartToUserCart userId sessionId =>
    refine logs_bind (logs_bind (logs_ensure fun _ => logs_bind (logs_ensure fun _ => logs_bind (logs_ensure fun _ => ?_))))
    exact logs_withCartLock_plain fun _ => logs_withCartLock_plain fun _ => logs_mergeCarts_plain.mono fun _ _ _ _ _ => trivial
  | validateCart owner => exact logs_bind ((logs_editCart_plain validateCart_asks).mono fun _ _ _ => trivial)
  | createOrder owner =>
    refine logs_bind ((logs_editCart_plain validateCart_asks).mono fun _ _ _ => logs_bind (logs_answer fun _ => ?_))
    refine logs_bind (logs_ensure fun _ => logs_bind (logs_catching ?_ fun _ _ => trivial))
    exact logs_bind (logs_clearCart_plain.mono fun _ _ _ => trivial)
  | pass ms => exact logs_bind (logs_trans fun _ _ _ _ _ => ⟨fun _ _ h => (nomatch h), trivial⟩)

end Discounts

/-- Every operation leaves such carts if it writes one. -/
theorem undiscounted_perform {op : Op} {s s' : State} {a : op.Res} (h : perform op s = .ok (a, s')) (hs : Undiscounted s)
    (hset : ∀ key cart, op = .set key cart → cart.discountAmount = 0) : Undiscounted s' := by
  intro key cart hlookup
  by_cases hop : Changes key op s
  · rcases hop with hop | ⟨ms, rfl, hrunsOut⟩
    · cases op with
      | set key' cart' =>
        obtain rfl := Option.some.inj hop
        cases h
        obtain rfl := Option.some.inj ((AList.lookup_insert s.carts).symm.trans hlookup)
        exact hset _ _ rfl
      | del key' =>
        obtain rfl := Option.some.inj hop
        cases h
        cases (AList.lookup_erase _ s.carts).symm.trans hlookup
      | _ => cases hop
    · cases h
      rw [lookup_later, if_pos hrunsOut] at hlookup
      cases hlookup
  · rw [lookup_perform h hop] at hlookup
    exact hs key cart hlookup

/-- **In every state of a run no cart has a discount.** -/
theorem undiscounted_state {cfg : Config} (r : (carts cfg).Run Undiscounted) (n : ℕ) : Undiscounted (r.state n) := by
  induction n using Nat.strong_induction_on with
  | _ n ih =>
    cases n with
    | zero => exact r.starts
    | succ n =>
      rcases stateAt_succ r.lawful n with ⟨i, call, op, b, a, hdoes, rfl, hperf⟩ | hsame
      · obtain ⟨l, hl, hwrites⟩ := (meets_all r.traced fun call => proc_logs_plain call).1 _ _ _ _ _ hdoes
        refine undiscounted_perform hperf (ih n n.lt_succ_self) fun key cart hset => hwrites key cart hset fun x hx => ?_
        rw [((hl.does hx).at r.lawful).1]
        exact ih _ ((hl.lt x hx).trans n.lt_succ_self)
      · unfold Run.state
        rw [hsame]
        exact ih n n.lt_succ_self

end Balii.Carts
