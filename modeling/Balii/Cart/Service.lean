import Balii.Cart.Store
/-!
# Service — `CartService`, and the checkout of the order service

Each operation runs under the lock of its cart: it reads the cart, asks the product service as long as it takes, and writes the
cart whole.  `createOrder` takes a validated cart as its snapshot and clears the cart afterwards.
-/
namespace Balii.Carts

open Rowdb Rowdb.Atomic List

inductive Reply
  | cart (cart : Cart)
  | cleared (success : Bool)
  /-- What `createOrder` does to the cart: none if clearing it failed. -/
  | ordered (cleared : Option Bool)
  deriving DecidableEq

/-- The headers that say whose cart it is. -/
structure Owner where
  userId : Option String
  sessionId : Option String
  deriving DecidableEq

inductive Call
  | getCart (owner : Owner)
  | addItem (owner : Owner) (variantId : String) (quantity : ℕ)
  | updateItem (owner : Owner) (variantId : String) (quantity : ℕ)
  | removeItem (owner : Owner) (variantId : String)
  /-- `expectedUpdatedAt`; a text that is no time is as good as a time nobody has. -/
  | clearCart (owner : Owner) (expectedUpdatedAt : Option ℕ)
  | mergeGuestCartToUserCart (userId sessionId : String)
  | validateCart (owner : Owner)
  | createOrder (owner : Owner)
  | pass (ms : ℕ)
  deriving DecidableEq

/-- What comes from outside: the answers of the other services, and whether the order is made. -/
structure Answer where
  shop : Shop
  ordered : Bool

abbrev Procedure (α : Type) : Type := Proc Op Op.Res Call Reply Answer Err α

def act (op : Op) : Procedure op.Res := Proc.trans op

/-! ## Keys -/

def isHex (c : Char) : Bool := ('0' ≤ c && c ≤ '9') || ('a' ≤ c.toLower && c.toLower ≤ 'f')

/-- `UUID_PATTERN`: groups of 8, 4, 4, 4 and 12 digits, the third begun by `1` to `8`, the fourth by `8`, `9`, `a` or `b`. -/
def isUuid (value : String) : Bool :=
  match value.toList.splitOn '-' with
  | [g₁, g₂, g₃, g₄, g₅] =>
    [g₁, g₂, g₃, g₄, g₅].all (fun g => g.all isHex) && [g₁, g₂, g₃, g₄, g₅].map List.length == [8, 4, 4, 4, 12] &&
      g₃.head?.any (fun c => '1' ≤ c && c ≤ '8') && g₄.head?.any fun c => ['8', '9', 'a', 'b'].contains c.toLower
  | _ => false

/-- `if (value)`. -/
def given (value : Option String) : Option String := value.filter (· ≠ "")

def getCartKey (owner : Owner) : Except Err String :=
  match given owner.userId, given owner.sessionId with
  | some userId, _ => .ok ("cart:" ++ userId)
  | none, some sessionId =>
    if isUuid sessionId then .ok ("cart:guest:" ++ sessionId) else .error (.badRequest "x-session-id must be a valid UUID")
  | none, none => .error (.badRequest "Missing x-user-id or x-session-id")

def lockKey (key : String) : String := "lock:" ++ key

/-! ## The lock -/

def lockTtlMs : ℕ := 5000

/-- The attempts to get the lock that are left.  The 25 ms between two of them are a `pass` that may come there, or may not: there
are more runs here, none less. -/
def acquire (key : String) (token : ℕ) : ℕ → Procedure Bool
  | 0 => pure false
  | attempts + 1 => do
    let acquired ← act (.acquireLock (lockKey key) token lockTtlMs)
    if acquired = true then pure true else acquire key token attempts

/-- `finally`, on the way of an error. -/
def releaseWith {α : Type} (key : String) (token : ℕ) (e : Err) : Procedure α := do
  act (.releaseLock (lockKey key) token)
  Proc.fail e

def withCartLock {α : Type} (key : String) (operation : Procedure α) : Procedure α := do
  let token ← act .randomUUID
  let acquired ← acquire key token 20
  Proc.ensure (acquired = true) (.serviceUnavailable "Giỏ hàng đang được cập nhật, vui lòng thử lại.")
  let result ← operation.catching (releaseWith key token)
  act (.releaseLock (lockKey key) token)
  pure result

/-! ## The cart -/

def createEmptyCart (key : String) : Procedure Cart := do
  let now ← act .readClock
  pure ⟨key, [], [], 0, 0, 0, 0, now⟩

def getRawCart (key : String) : Procedure Cart := do
  let data ← act (.get key)
  match data with
  | none => createEmptyCart key
  | some cart => pure cart

def askShop : Procedure Shop := do
  let answer ← Proc.answer
  pure answer.shop

def calculateCart (cfg : Config) (cart : Cart) : Procedure Cart := do
  let variants ← askShop
  let items ← Proc.ofExcept (cart.items.mapM (priceItem variants))
  let promotions ← askShop
  let promotionItems ← Proc.ofExcept (buildPromotionItems promotions items)
  let freeShippingMinimum ← Proc.ofExcept cfg.freeShippingMinimum
  let methods ← askShop
  let baseShippingFee ← Proc.ofExcept (getDefaultShippingFee methods)
  let now ← act .readClock
  pure (totalCart cart items promotionItems freeShippingMinimum baseShippingFee now)

def saveCart (cfg : Config) (key : String) (cart : Cart) : Procedure Cart := do
  let calculated ← calculateCart cfg cart
  act (.set key calculated)
  pure calculated

/-! ## The operations -/

/-- An operation on one cart: what it makes of the lines, then the cart is saved. -/
def editCart (cfg : Config) (owner : Owner) (edit : List CartItem → Procedure (List CartItem)) : Procedure Cart := do
  let key ← Proc.ofExcept (getCartKey owner)
  withCartLock key do
    let cart ← getRawCart key
    let items ← edit cart.items
    saveCart cfg key { cart with items := items }

def getCart (cfg : Config) (owner : Owner) : Procedure Cart := editCart cfg owner fun items => pure items

def addItem (cfg : Config) (owner : Owner) (variantId : String) (quantity : ℕ) : Procedure Cart :=
  editCart cfg owner fun items => do
    match findItem variantId items with
    | some existedItem => do
      let newQuantity := existedItem.quantity + quantity
      let shop ← askShop
      let variant ← Proc.ofExcept (validateVariantStock shop variantId newQuantity)
      pure (changeItem variantId (fun item => { item.refreshed variant with quantity := newQuantity }) items)
    | none => do
      Proc.ensure (items.length < 50) tooManyItems
      let shop ← askShop
      let variant ← Proc.ofExcept (validateVariantStock shop variantId quantity)
      pure (items ++ [newItem variant quantity])

def updateItem (cfg : Config) (owner : Owner) (variantId : String) (quantity : ℕ) : Procedure Cart :=
  editCart cfg owner fun items => do
    let _ ← Proc.need (findItem variantId items) (.notFound "Cart item not found")
    let shop ← askShop
    let variant ← Proc.ofExcept (validateVariantStock shop variantId quantity)
    pure (changeItem variantId (fun item => { item.refreshed variant with quantity := quantity }) items)

def removeItem (cfg : Config) (owner : Owner) (variantId : String) : Procedure Cart :=
  editCart cfg owner fun items => pure (items.filter fun item => item.variantId != variantId)

def validateCart (cfg : Config) (owner : Owner) : Procedure Cart :=
  editCart cfg owner fun items => do
    Proc.ensure (items ≠ []) (.badRequest "Cart is empty")
    let shop ← askShop
    Proc.ofExcept (refreshItems shop items)

/-- The body of `clearCart`, under the lock. -/
def clearIfUnchanged (key : String) (expectedUpdatedAt : Option ℕ) : Procedure Bool := do
  match expectedUpdatedAt with
  | none => do
    act (.del key)
    pure true
  | some expected => do
    let cart ← getRawCart key
    if cart.updatedAt = expected then do
      act (.del key)
      pure true
    else pure false

def clearCart (owner : Owner) (expectedUpdatedAt : Option ℕ) : Procedure Bool := do
  let key ← Proc.ofExcept (getCartKey owner)
  withCartLock key (clearIfUnchanged key expectedUpdatedAt)

/-- The body of the merge, under both locks. -/
def mergeCarts (cfg : Config) (guestKey userKey : String) : Procedure Cart := do
  let guestCart ← getRawCart guestKey
  let userCart ← getRawCart userKey
  let items ← Proc.ofExcept (mergeItems userCart.items guestCart.items)
  let shop ← askShop
  Proc.ofExcept (checkStock shop items)
  act (.del guestKey)
  saveCart cfg userKey { userCart with items := items, ownerKey := userKey }

def mergeGuestCartToUserCart (cfg : Config) (userId sessionId : String) : Procedure Cart := do
  Proc.ensure (userId ≠ "") (.badRequest "Missing x-user-id")
  Proc.ensure (sessionId ≠ "") (.badRequest "Missing sessionId")
  Proc.ensure (isUuid sessionId = true) (.badRequest "sessionId must be a valid UUID")
  let guestKey := "cart:guest:" ++ sessionId
  let userKey := "cart:" ++ userId
  let keys := if userKey < guestKey then (userKey, guestKey) else (guestKey, userKey)
  withCartLock keys.1 (withCartLock keys.2 (mergeCarts cfg guestKey userKey))

/-- `createOrder`, as far as the cart is concerned. -/
def createOrder (cfg : Config) (owner : Owner) : Procedure Reply := do
  let cart ← validateCart cfg owner
  let answer ← Proc.answer
  Proc.ensure (answer.ordered = true) (.badRequest "order not created")
  let cleared ← (do
    let success ← clearCart owner (some cart.updatedAt)
    pure (some success) : Procedure (Option Bool)).catching fun _ => pure none
  pure (.ordered cleared)

def Call.proc (cfg : Config) : Call → Procedure Reply
  | .getCart owner => do
    let cart ← Carts.getCart cfg owner
    pure (.cart cart)
  | .addItem owner variantId quantity => do
    let cart ← Carts.addItem cfg owner variantId quantity
    pure (.cart cart)
  | .updateItem owner variantId quantity => do
    let cart ← Carts.updateItem cfg owner variantId quantity
    pure (.cart cart)
  | .removeItem owner variantId => do
    let cart ← Carts.removeItem cfg owner variantId
    pure (.cart cart)
  | .clearCart owner expectedUpdatedAt => do
    let success ← Carts.clearCart owner expectedUpdatedAt
    pure (.cleared success)
  | .mergeGuestCartToUserCart userId sessionId => do
    let cart ← Carts.mergeGuestCartToUserCart cfg userId sessionId
    pure (.cart cart)
  | .validateCart owner => do
    let cart ← Carts.validateCart cfg owner
    pure (.cart cart)
  | .createOrder owner => Carts.createOrder cfg owner
  | .pass ms => do
    act (.pass ms)
    pure (.cleared true)

/-- **The carts and their services.** -/
@[reducible] def carts (cfg : Config) : Atomic where
  State := State
  Err := Err
  Op := Op
  Res := Op.Res
  Call := Call
  Reply := Reply
  Answer := Answer
  perform := perform
  proc := Call.proc cfg
  lost := .lost

end Balii.Carts
