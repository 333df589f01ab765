import Balii.Cart.Locking
/-!
# Logs — what each call does to the carts

Every `SET` writes the edit of its operation, made of what was read under the lock; every `DEL` is that of a merge, or of a clearing.
-/
namespace Balii.Carts

open Rowdb Rowdb.Atomic List

variable {cfg : Config}

def guestKey (sessionId : String) : String := "cart:guest:" ++ sessionId

def userKey (userId : String) : String := "cart:" ++ userId

/-! ## What a call may do -/

/-- The cart is what the edit makes of the cart that was read. -/
def Saved (key : String) (cart : Cart) (e : Edit) (l : Log cfg) : Prop :=
  ∃ read, Read key read l ∧ linesOf cart.items = e.apply (linesOf read.items) ∧ Clean key l

/-- The cart is that of the user with the lines of the guest, whose cart has been deleted. -/
def Merged (guest user : String) (cart : Cart) (l : Log cfg) : Prop :=
  (guest = user → Regranted user l) ∧ ∃ l₁ z l₂ guestCart userCart, l = l₁ ++ z :: l₂ ∧ z.op = .del guest ∧ Read guest guestCart l₁ ∧
    (guest ≠ user → Read user userCart l ∧ Clean user l) ∧
    linesOf cart.items = mergeLines (linesOf userCart.items) (linesOf guestCart.items)

/-- The cart has been read under the lock again, after the snapshot was written. -/
def Compares (key : String) (snapshot cart : Cart) (l : Log cfg) : Prop :=
  ∃ l₁ z l₂ y l₃, l = (l₁ ++ z :: l₂) ++ y :: l₃ ∧ z.op = .set key snapshot ∧ y.op = .get key ∧ Holding key (l₁ ++ z :: l₂) ∧
    (∀ w ∈ l₁, w.op.written = none) ∧ (∀ w ∈ l₂, w.op.written = none) ∧ (∀ w ∈ l₃, w.op = .readClock) ∧ l₃.length ≤ 1 ∧
    Found key y.before l₃ cart

def Saves (call : Call) (l : Log cfg) (key : String) (cart : Cart) : Prop :=
  match call with
  | .getCart owner => getCartKey owner = .ok key ∧ Saved key cart .keep l
  | .addItem owner variantId quantity => getCartKey owner = .ok key ∧ Saved key cart (.add variantId quantity) l
  | .updateItem owner variantId quantity => getCartKey owner = .ok key ∧ Saved key cart (.set variantId quantity) l
  | .removeItem owner variantId => getCartKey owner = .ok key ∧ Saved key cart (.remove variantId) l
  | .validateCart owner => getCartKey owner = .ok key ∧ Saved key cart .keep l
  | .createOrder owner => getCartKey owner = .ok key ∧ Saved key cart .keep l
  | .mergeGuestCartToUserCart userId sessionId => key = userKey userId ∧ Merged (guestKey sessionId) key cart l
  | .clearCart .. | .pass _ => False

def Deletes (call : Call) (l : Log cfg) (key : String) : Prop :=
  match call with
  | .clearCart owner _ => getCartKey owner = .ok key ∧ Holding key l ∧ Clean key l
  | .createOrder owner =>
    getCartKey owner = .ok key ∧ ∃ snapshot cart, Compares key snapshot cart l ∧ cart.updatedAt = snapshot.updatedAt
  | .mergeGuestCartToUserCart userId sessionId =>
    key = guestKey sessionId ∧ (key = userKey userId → Regranted key l) ∧ (∃ guestCart, Read key guestCart l) ∧ Clean key l
  | _ => False

/-- **The rule of a call.** -/
def Allowed (call : Call) (l : Log cfg) (op : Op) (_ : State) : Prop :=
  match op with
  | .acquireLock _ token ttlMs => ttlMs = lockTtlMs ∧ Drawn token l
  | .releaseLock _ token => Drawn token l
  | .set key cart => Saves call l key cart
  | .del key => Deletes call l key
  | _ => True

/-- The carts that a call has written when it succeeds. -/
def Call.edited : Call → List String
  | .getCart owner | .addItem owner _ _ | .updateItem owner _ _ | .removeItem owner _ | .validateCart owner | .createOrder owner =>
    (getCartKey owner).toOption.toList
  | .mergeGuestCartToUserCart userId sessionId => [guestKey sessionId, userKey userId]
  | .clearCart .. | .pass _ => []

/-- What a call answers after having done `l`. -/
def Answers (call : Call) (l : Log cfg) (reply : Reply) : Prop :=
  (∀ key ∈ call.edited, ∃ x ∈ l, x.op.written = some key) ∧
    ∀ owner, call = .createOrder owner → reply = .ordered (some false) → ∃ key l' w snapshot cart, getCartKey owner = .ok key ∧
      l = l' ++ [w] ∧ Releases key w.op ∧ Compares key snapshot cart l' ∧ cart.updatedAt ≠ snapshot.updatedAt

/-! ## The cart -/

section Programs
variable {call : Call} {key : String} {l : Log cfg} {α : Type}

theorem quiet_append {l₂ : Log cfg} (h : ∀ x ∈ l, Quiet x.op) (h₂ : ∀ x ∈ l₂, Quiet x.op) : ∀ x ∈ l ++ l₂, Quiet x.op := by
  intro x hx
  rcases List.mem_append.1 hx with hx | hx
  · exact h x hx
  · exact h₂ x hx

theorem quiet_cons {y : (carts cfg).Act} (hy : Quiet y.op) (h : ∀ x ∈ l, Quiet x.op) : ∀ x ∈ y :: l, Quiet x.op := by
  intro x hx
  rcases List.mem_cons.1 hx with rfl | hx
  · exact hy
  · exact h x hx

theorem quiet_get {y : (carts cfg).Act} (hget : y.op = .get key) : Quiet y.op := by
  rw [hget]
  trivial

theorem clean_of_quiet (h : ∀ x ∈ l, Quiet x.op) : Clean key l := by
  intro x hx
  rw [(h x hx).written]
  exact fun h => (by cases h)

theorem kept_of_quiet (h : ∀ x ∈ l, Quiet x.op) : ∀ z ∈ l, z.op.written ≠ some key ∧ ¬ Releases key z.op :=
  fun z hz => ⟨clean_of_quiet h z hz, (h z hz).not_releases key⟩

theorem quiet_of_clock (h : ∀ x ∈ l, x.op = .readClock) : ∀ x ∈ l, Quiet x.op := by
  intro x hx
  rw [h x hx]
  trivial

theorem logs_withLock {operation : Procedure α} {post : Log cfg → α → Prop} (h : ∀ l₂ y, (∀ x ∈ l₂, Quiet x.op) → Grants key y.op y.before →
      Logs (A := carts cfg) (Allowed call) operation (fun l' a => ∀ z, Releases key z.op → post (l' ++ [z]) a) (l ++ (l₂ ++ [y]))) :
    Logs (A := carts cfg) (Allowed call) (withCartLock key operation) post l :=
  logs_withCartLock (fun _ => trivial) (fun _ _ _ _ hdrawn => ⟨rfl, hdrawn⟩) (fun _ _ _ _ hdrawn => hdrawn) h

theorem logs_getRawCart {post : Log cfg → Cart → Prop}
    (h : ∀ y l₂ cart, y.op = .get key → (∀ z ∈ l₂, z.op = .readClock) → l₂.length ≤ 1 → Found key y.before l₂ cart →
      post (l ++ y :: l₂) cart) :
    Logs (A := carts cfg) (Allowed call) (getRawCart key) post l := by
  refine logs_bind (logs_trans fun n b found b' hperf => ⟨trivial, ?_⟩)
  cases hperf
  split
  · rename_i hnone
    refine logs_bind (logs_trans fun n' b' now b'' hperf => ⟨trivial, ?_⟩)
    cases hperf
    have hempty := h ⟨n, .get key, b⟩ [⟨n', .readClock, b'⟩] ⟨key, [], [], 0, 0, 0, 0, b'.now⟩ rfl
      (fun z hz => by obtain rfl := List.mem_singleton.1 hz; rfl) le_rfl (.inr ⟨hnone, rfl, _, List.mem_cons_self, rfl, rfl⟩)
    rwa [List.append_cons] at hempty
  · rename_i cart hsome
    exact h ⟨n, .get key, b⟩ [] cart rfl (fun z hz => (nomatch hz)) (Nat.zero_le _) (.inl hsome)

theorem logs_saveCart {cart : Cart} {post : Log cfg → Cart → Prop}
    (h : ∀ w calculated, Quiet w.op → linesOf calculated.items = linesOf cart.items →
      Saves call (l ++ [w]) key calculated ∧ ∀ z, z.op = .set key calculated → post (l ++ [w] ++ [z]) calculated) :
    Logs (A := carts cfg) (Allowed call) (saveCart cfg key cart) post l := by
  refine logs_bind (logs_bind (logs_bind (logs_answer fun variants => ?_)))
  refine logs_bind (logs_ofExcept fun items hitems => ?_)
  refine logs_bind (logs_bind (logs_answer fun promotions => ?_))
  refine logs_bind (logs_ofExcept fun promotionItems _ => ?_)
  refine logs_bind (logs_ofExcept fun freeShippingMinimum _ => ?_)
  refine logs_bind (logs_bind (logs_answer fun methods => ?_))
  refine logs_bind (logs_ofExcept fun baseShippingFee _ => ?_)
  refine logs_bind (logs_trans fun n b now b' _ => ⟨trivial, ?_⟩)
  obtain ⟨hsaves, hpost⟩ := h ⟨n, .readClock, b⟩ (totalCart cart items promotionItems freeShippingMinimum baseShippingFee now) trivial
    (linesOf_priced hitems)
  exact logs_bind (logs_trans fun n' b' _ _ _ => ⟨hsaves, hpost _ rfl⟩)

/-- The rule of an operation on one cart. -/
theorem logs_editCart {owner : Owner} {edit : List CartItem → Procedure (List CartItem)} {post : Log cfg → Cart → Prop}
    (P : Edit → Prop)
    (hedit : ∀ items (l : Log cfg), Logs (A := carts cfg) (Allowed call) (edit items)
      (fun l' items' => l' = l ∧ ∃ e, P e ∧ linesOf items' = e.apply (linesOf items)) l)
    (hsaves : ∀ key (l : Log cfg) cart e, getCartKey owner = .ok key → P e → Saved key cart e l → Saves call l key cart)
    (hpost : ∀ key (l₁ l₂ : Log cfg) z cart, getCartKey owner = .ok key → z.op = .set key cart → (∀ w ∈ l₁, w.op.written = none) →
      (∀ w ∈ l₂, w.op.written = none) → post (l₁ ++ z :: l₂) cart) :
    Logs (A := carts cfg) (Allowed call) (editCart cfg owner edit) post [] := by
  refine logs_bind (logs_ofExcept fun key hkey => logs_withLock fun l₂ y hquiet hgrants => ?_)
  refine logs_bind (logs_getRawCart fun g l₃ read hget hclock _ hfound => ?_)
  have hquiet' := quiet_of_clock hclock
  refine logs_bind ((hedit read.items _).mono ?_)
  rintro l' items' ⟨rfl, e, hP, hlines⟩
  refine logs_saveCart fun w calculated hw hcalculated => ?_
  have hunwritten : ∀ x ∈ [] ++ (l₂ ++ [y]) ++ g :: l₃ ++ [w], x.op.written = none := by
    intro x hx
    simp only [List.nil_append, List.mem_append, List.mem_cons, List.not_mem_nil, or_false] at hx
    rcases hx with ((hx | rfl) | rfl | hx) | rfl
    · exact (hquiet x hx).written
    · exact hgrants.quiet.written
    · rw [hget]
      rfl
    · exact (hquiet' x hx).written
    · exact hw.written
  refine ⟨hsaves key _ calculated e hkey hP ⟨read, ⟨[] ++ (l₂ ++ [y]), g, l₃ ++ [w], by simp, hget, ?_, ?_, ?_⟩, hcalculated.trans hlines, ?_⟩, ?_⟩
  · exact ⟨l₂, y, [], by simp, hgrants, fun x hx => (by cases hx)⟩
  · intro z hz
    have hz' : Quiet z.op := by
      rcases List.mem_append.1 hz with hz | hz
      · exact hquiet' z hz
      · obtain rfl := List.mem_singleton.1 hz
        exact hw
    rw [hz'.written]
    exact ⟨fun h => (by cases h), hz'.not_releases key⟩
  · exact hfound.mono fun x hx => List.mem_append_left _ hx
  · intro x hx
    rw [hunwritten x hx]
    exact fun h => (by cases h)
  · intro z hz z' hz'
    have hfree : ∀ x ∈ [z'], x.op.written = none := by
      intro x hx
      obtain rfl := List.mem_singleton.1 hx
      obtain ⟨token, htoken⟩ := hz'
      rw [htoken]
      rfl
    have := hpost key _ [z'] z calculated hkey hz hunwritten hfree
    rwa [List.append_cons] at this

/-! ## The calls -/

/-- An operation on one cart has written it. -/
theorem answers_edited {owner : Owner} {l₁ l₂ : Log cfg} {z : (carts cfg).Act} {cart : Cart} {reply : Reply}
    (hedited : call.edited = (getCartKey owner).toOption.toList) (hkey : getCartKey owner = .ok key) (hz : z.op = .set key cart)
    (hcall : ∀ owner, call ≠ .createOrder owner) : Answers call (l₁ ++ z :: l₂) reply := by
  refine ⟨fun key' hkey' => ⟨z, List.mem_append_right _ List.mem_cons_self, ?_⟩, fun owner hcreate => absurd hcreate (hcall owner)⟩
  rw [hedited, hkey] at hkey'
  obtain rfl := List.mem_singleton.1 hkey'
  rw [hz]
  rfl

theorem getCart_logs (owner : Owner) :
    Logs (A := carts cfg) (Allowed (.getCart owner)) (Call.proc cfg (.getCart owner)) (Answers (.getCart owner)) [] := by
  refine logs_bind (logs_editCart (· = .keep) (fun items l => ⟨rfl, .keep, rfl, rfl⟩) ?_ ?_)
  · rintro key l cart _ hkey rfl hsaved
    exact ⟨hkey, hsaved⟩
  · intro key l₁ l₂ z cart hkey hz _ _
    exact answers_edited rfl hkey hz fun _ => (nomatch ·)

theorem addItem_logs (owner : Owner) (variantId : String) (quantity : ℕ) :
    Logs (A := carts cfg) (Allowed (.addItem owner variantId quantity)) (Call.proc cfg (.addItem owner variantId quantity))
      (Answers (.addItem owner variantId quantity)) [] := by
  refine logs_bind (logs_editCart (· = .add variantId quantity) (fun items l => ?_) ?_ ?_)
  · cases hfound : findItem variantId items with
    | some item =>
      refine logs_bind (logs_bind (logs_answer fun answer => logs_bind (logs_ofExcept fun variant _ => ?_)))
      exact ⟨rfl, _, rfl, linesOf_addMore hfound (canonicalId variantId) fun x => ⟨rfl, rfl⟩⟩
    | none =>
      refine logs_bind (logs_ensure fun _ => logs_bind (logs_bind (logs_answer fun answer => logs_bind (logs_ofExcept fun variant hvariant => ?_))))
      have hname : variant.variantId = canonicalId variantId := answer.shop.named _ _ (validateVariantStock_found hvariant)
      exact ⟨rfl, _, rfl, (linesOf_addNew hfound).trans (congrArg (fun id => addLine variantId id quantity (linesOf items)) hname)⟩
  · rintro key l cart _ hkey rfl hsaved
    exact ⟨hkey, hsaved⟩
  · intro key l₁ l₂ z cart hkey hz _ _
    exact answers_edited rfl hkey hz fun _ => (nomatch ·)

theorem updateItem_logs (owner : Owner) (variantId : String) (quantity : ℕ) :
    Logs (A := carts cfg) (Allowed (.updateItem owner variantId quantity)) (Call.proc cfg (.updateItem owner variantId quantity))
      (Answers (.updateItem owner variantId quantity)) [] := by
  refine logs_bind (logs_editCart (· = .set variantId quantity) (fun items l => ?_) ?_ ?_)
  · refine logs_bind (logs_need fun item _ => logs_bind (logs_bind (logs_answer fun answer => logs_bind (logs_ofExcept fun variant _ => ?_))))
    exact ⟨rfl, _, rfl, linesOf_changeItem fun x => ⟨rfl, rfl⟩⟩
  · rintro key l cart _ hkey rfl hsaved
    exact ⟨hkey, hsaved⟩
  · intro key l₁ l₂ z cart hkey hz _ _
    exact answers_edited rfl hkey hz fun _ => (nomatch ·)

theorem removeItem_logs (owner : Owner) (variantId : String) :
    Logs (A := carts cfg) (Allowed (.removeItem owner variantId)) (Call.proc cfg (.removeItem owner variantId))
      (Answers (.removeItem owner variantId)) [] := by
  refine logs_bind (logs_editCart (· = .remove variantId) (fun items l => ⟨rfl, _, rfl, linesOf_filter⟩) ?_ ?_)
  · rintro key l cart _ hkey rfl hsaved
    exact ⟨hkey, hsaved⟩
  · intro key l₁ l₂ z cart hkey hz _ _
    exact answers_edited rfl hkey hz fun _ => (nomatch ·)

theorem validateCart_edit (items : List CartItem) (l : Log cfg) :
    Logs (A := carts cfg) (Allowed call) (do
      Proc.ensure (items ≠ []) (.badRequest "Cart is empty")
      let shop ← askShop
      Proc.ofExcept (refreshItems shop items) : Procedure (List CartItem))
      (fun l' items' => l' = l ∧ ∃ e, e = Edit.keep ∧ linesOf items' = e.apply (linesOf items)) l := by
  refine logs_bind (logs_ensure fun _ => logs_bind (logs_bind (logs_answer fun answer => ?_)))
  exact logs_ofExcept fun items' hitems' => ⟨rfl, .keep, rfl, linesOf_refreshItems hitems'⟩

theorem validateCart_logs (owner : Owner) :
    Logs (A := carts cfg) (Allowed (.validateCart owner)) (Call.proc cfg (.validateCart owner)) (Answers (.validateCart owner)) [] := by
  refine logs_bind (logs_editCart (· = .keep) validateCart_edit ?_ ?_)
  · rintro key l cart _ hkey rfl hsaved
    exact ⟨hkey, hsaved⟩
  · intro key l₁ l₂ z cart hkey hz _ _
    exact answers_edited rfl hkey hz fun _ => (nomatch ·)

theorem clearCart_logs (owner : Owner) (expectedUpdatedAt : Option ℕ) :
    Logs (A := carts cfg) (Allowed (.clearCart owner expectedUpdatedAt)) (Call.proc cfg (.clearCart owner expectedUpdatedAt))
      (Answers (.clearCart owner expectedUpdatedAt)) [] := by
  have hanswers : ∀ (l : Log cfg) reply, Answers (.clearCart owner expectedUpdatedAt) l reply :=
    fun l reply => ⟨fun key hkey => (by cases hkey), fun owner hcall => (by cases hcall)⟩
  refine logs_bind (logs_bind (logs_ofExcept fun key hkey => logs_withLock fun l₂ y hquiet hgrants => ?_))
  have hclean : Clean key (l₂ ++ [y] : Log cfg) := by
    intro x hx
    have hx' : Quiet x.op := by
      rcases List.mem_append.1 hx with hx | hx
      · exact hquiet x hx
      · obtain rfl := List.mem_singleton.1 hx
        exact hgrants.quiet
    rw [hx'.written]
    exact fun h => (by cases h)
  have hholding : Holding key (l₂ ++ [y] : Log cfg) := ⟨l₂, y, [], rfl, hgrants, fun x hx => (by cases hx)⟩
  cases expectedUpdatedAt with
  | none => exact logs_bind (logs_trans fun n b _ _ _ => ⟨⟨hkey, hholding, hclean⟩, fun _ _ => hanswers _ _⟩)
  | some expected =>
    refine logs_bind (logs_getRawCart fun g l₃ cart hget hclock _ hfound => ?_)
    have hquiet' := quiet_of_clock hclock
    have hread : ∀ z ∈ g :: l₃, z.op.written = none ∧ ¬ Releases key z.op := by
      intro z hz
      rcases List.mem_cons.1 hz with rfl | hz
      · rw [hget]
        refine ⟨rfl, ?_⟩
        rintro ⟨_, h⟩
        cases h
      · exact ⟨(hquiet' z hz).written, (hquiet' z hz).not_releases key⟩
    split
    · refine logs_bind (logs_trans fun n b _ _ _ => ⟨⟨hkey, ?_, ?_⟩, fun _ _ => hanswers _ _⟩)
      · exact hholding.append fun z hz => (hread z hz).2
      · exact hclean.append fun z hz => by
          rw [(hread z hz).1]
          exact fun h => (by cases h)
    · exact fun _ _ => hanswers _ _

/-- The body of the merge, under both locks. -/
theorem mergeCarts_logs {userId sessionId : String} {post : Log cfg → Cart → Prop} (hquiet : ∀ x ∈ l, Quiet x.op)
    (hguest : Holding (guestKey sessionId) l) (huser : Holding (userKey userId) l)
    (hsame : guestKey sessionId = userKey userId → Regranted (userKey userId) l)
    (hpost : ∀ l₁ l₂ l₃ z z' cart, z.op = .del (guestKey sessionId) → z'.op = .set (userKey userId) cart → post (l₁ ++ z :: l₂ ++ z' :: l₃) cart) :
    Logs (A := carts cfg) (Allowed (.mergeGuestCartToUserCart userId sessionId))
      (mergeCarts cfg (guestKey sessionId) (userKey userId)) post l := by
  refine logs_bind (logs_getRawCart fun g₁ m₁ guestCart hget₁ hclock₁ _ hfound₁ => ?_)
  refine logs_bind (logs_getRawCart fun g₂ m₂ userCart hget₂ hclock₂ _ hfound₂ => ?_)
  have hquiet₁ := quiet_of_clock hclock₁
  have hquiet₂ := quiet_of_clock hclock₂
  refine logs_bind (logs_ofExcept fun items hitems => logs_bind (logs_bind (logs_answer fun answer => ?_)))
  refine logs_bind (logs_ofExcept fun _ _ => ?_)
  have hfirst := quiet_cons (quiet_get hget₁) hquiet₁
  have hsecond := quiet_cons (quiet_get hget₂) hquiet₂
  have hall := quiet_append (quiet_append hquiet hfirst) hsecond
  have hread₁ : Read (guestKey sessionId) guestCart (l ++ g₁ :: m₁ ++ g₂ :: m₂) :=
    Read.append ⟨l, g₁, m₁, rfl, hget₁, hguest, kept_of_quiet hquiet₁, hfound₁⟩ (kept_of_quiet hsecond)
  have hread₂ : Read (userKey userId) userCart (l ++ g₁ :: m₁ ++ g₂ :: m₂) :=
    ⟨l ++ g₁ :: m₁, g₂, m₂, rfl, hget₂, huser.append fun x hx => (hfirst x hx).not_releases _, kept_of_quiet hquiet₂, hfound₂⟩
  have hagain : guestKey sessionId = userKey userId → Regranted (userKey userId) (l ++ g₁ :: m₁ ++ g₂ :: m₂) := fun heq =>
    ((hsame heq).append fun x hx => (hfirst x hx).not_releases _).append fun x hx => (hsecond x hx).not_releases _
  refine logs_bind (logs_trans fun n b _ b' _ => ⟨⟨rfl, fun heq => heq ▸ hagain heq, ⟨guestCart, hread₁⟩, clean_of_quiet hall⟩, ?_⟩)
  refine logs_saveCart fun w calculated hw hcalculated => ⟨⟨rfl, fun heq => ?_, ?_⟩, fun z' hz' => ?_⟩
  · refine ((hagain heq).append ?_).append ?_
    · intro x hx
      obtain rfl := List.mem_singleton.1 hx
      exact fun ⟨_, h⟩ => (nomatch h)
    · intro x hx
      obtain rfl := List.mem_singleton.1 hx
      exact hw.not_releases _
  · refine ⟨_, ⟨n, .del (guestKey sessionId), b⟩, [w], guestCart, userCart, by simp, rfl, hread₁, fun hne => ?_, ?_⟩
    · have hdel : ∀ x ∈ [(⟨n, .del (guestKey sessionId), b⟩ : (carts cfg).Act)],
          x.op.written ≠ some (userKey userId) ∧ ¬ Releases (userKey userId) x.op := by
        intro x hx
        obtain rfl := List.mem_singleton.1 hx
        exact ⟨fun h => hne (Option.some.inj h), fun ⟨_, h⟩ => (nomatch h)⟩
      have hclock : ∀ x ∈ [w], Quiet x.op := by
        intro x hx
        obtain rfl := List.mem_singleton.1 hx
        exact hw
      exact ⟨(hread₂.append hdel).append (kept_of_quiet hclock),
        ((clean_of_quiet hall).append fun x hx => (hdel x hx).1).append (clean_of_quiet hclock)⟩
    · exact hcalculated.trans (linesOf_mergeItems hitems)
  · have := hpost (l ++ g₁ :: m₁ ++ g₂ :: m₂) [w] [] ⟨n, .del (guestKey sessionId), b⟩ z' calculated rfl hz'
    simpa using this

/-- The merge, under the two locks in whichever order. -/
theorem locked_merge_logs {userId sessionId : String} {k₁ k₂ : String}
    (hkeys : (k₁ = guestKey sessionId ∧ k₂ = userKey userId) ∨ (k₁ = userKey userId ∧ k₂ = guestKey sessionId)) :
    Logs (A := carts cfg) (Allowed (.mergeGuestCartToUserCart userId sessionId))
      (withCartLock k₁ (withCartLock k₂ (mergeCarts cfg (guestKey sessionId) (userKey userId))))
      (fun l cart => Answers (.mergeGuestCartToUserCart userId sessionId) l (.cart cart)) [] := by
  refine logs_withLock fun l₂ y hquiet hgrants => logs_withLock fun l₃ y' hquiet' hgrants' => ?_
  rw [List.nil_append]
  have hone : ∀ {key} {x : (carts cfg).Act}, Grants key x.op x.before → ∀ w ∈ [x], Quiet w.op := by
    intro key x hx w hw
    obtain rfl := List.mem_singleton.1 hw
    exact hx.quiet
  have hfirst := quiet_append hquiet (hone hgrants)
  have hsecond := quiet_append hquiet' (hone hgrants')
  have hheld : ∀ {key} {x : (carts cfg).Act} {l : Log cfg}, Grants key x.op x.before → Holding key (l ++ [x]) :=
    fun {key x l} hx => ⟨l, x, [], rfl, hx, fun w hw => (nomatch hw)⟩
  have hholding := (hheld (l := l₂) hgrants).append fun x hx => (hsecond x hx).not_releases _
  have hholding' : Holding k₂ ((l₂ ++ [y]) ++ (l₃ ++ [y'])) := by
    rw [← List.append_assoc]
    exact hheld hgrants'
  have hagain : k₁ = k₂ → Regranted k₂ ((l₂ ++ [y]) ++ (l₃ ++ [y'])) := by
    rintro rfl
    refine ⟨(l₂ ++ [y]) ++ l₃, y', [], by simp, ?_, hgrants', fun w hw => (nomatch hw)⟩
    exact (hheld hgrants).append fun x hx => (hquiet' x hx).not_releases _
  have hpost : ∀ (l₁ l₂ l₃ : Log cfg) z z' cart, z.op = .del (guestKey sessionId) → z'.op = .set (userKey userId) cart →
      ∀ w, Releases k₂ w.op → ∀ w', Releases k₁ w'.op →
        Answers (.mergeGuestCartToUserCart userId sessionId) (l₁ ++ z :: l₂ ++ z' :: l₃ ++ [w] ++ [w']) (.cart cart) := by
    intro l₁ l₂ l₃ z z' cart hz hz' w _ w' _
    refine ⟨fun key hkey => ?_, fun owner hcall => (nomatch hcall)⟩
    rcases List.mem_cons.1 hkey with rfl | hkey
    · exact ⟨z, by simp, by rw [hz]; rfl⟩
    · obtain rfl := List.mem_singleton.1 hkey
      exact ⟨z', by simp, by rw [hz']; rfl⟩
  rcases hkeys with ⟨rfl, rfl⟩ | ⟨rfl, rfl⟩
  · refine mergeCarts_logs (quiet_append hfirst hsecond) hholding hholding' hagain ?_
    exact fun l₁ l₂ l₃ z z' cart hz hz' w hw w' hw' => hpost l₁ l₂ l₃ z z' cart hz hz' w hw w' hw'
  · refine mergeCarts_logs (quiet_append hfirst hsecond) hholding' hholding (fun heq => heq ▸ hagain heq.symm) ?_
    exact fun l₁ l₂ l₃ z z' cart hz hz' w hw w' hw' => hpost l₁ l₂ l₃ z z' cart hz hz' w hw w' hw'

theorem merge_logs (userId sessionId : String) : Logs (A := carts cfg) (Allowed (.mergeGuestCartToUserCart userId sessionId))
    (Call.proc cfg (.mergeGuestCartToUserCart userId sessionId)) (Answers (.mergeGuestCartToUserCart userId sessionId)) [] := by
  refine logs_bind (logs_bind (logs_ensure fun _ => logs_bind (logs_ensure fun _ => logs_bind (logs_ensure fun _ => ?_))))
  show Logs (A := carts cfg) _ ((fun keys : String × String => withCartLock keys.1 (withCartLock keys.2
    (mergeCarts cfg (guestKey sessionId) (userKey userId)))) (if userKey userId < guestKey sessionId then
      (userKey userId, guestKey sessionId) else (guestKey sessionId, userKey userId))) _ []
  by_cases horder : userKey userId < guestKey sessionId
  · rw [if_pos horder]
    exact locked_merge_logs (.inr ⟨rfl, rfl⟩)
  · rw [if_neg horder]
    exact locked_merge_logs (.inl ⟨rfl, rfl⟩)

theorem createOrder_logs (owner : Owner) :
    Logs (A := carts cfg) (Allowed (.createOrder owner)) (Call.proc cfg (.createOrder owner)) (Answers (.createOrder owner)) [] := by
  refine logs_bind (logs_editCart (· = .keep) validateCart_edit ?_ ?_)
  · rintro key l cart _ hkey rfl hsaved
    exact ⟨hkey, hsaved⟩
  · intro key l₁ l₂ z snapshot hkey hz hl₁ hl₂
    refine logs_bind (logs_answer fun answer => logs_bind (logs_ensure fun _ => logs_bind ?_))
    have hedited : ∀ l : Log cfg, l₁ ++ z :: l₂ <+: l → ∀ key ∈ (Call.createOrder owner).edited, ∃ x ∈ l, x.op.written = some key := by
      intro l hl key' hkey'
      simp only [Call.edited, hkey] at hkey'
      obtain rfl := List.mem_singleton.1 hkey'
      exact ⟨z, hl.subset (by simp), by rw [hz]; rfl⟩
    refine logs_catching_from ?_ (List.prefix_refl (l₁ ++ z :: l₂)) ?_
    · refine logs_bind (logs_bind (logs_ofExcept fun key' hkey' => ?_))
      obtain rfl : key = key' := Except.ok.inj (hkey.symm.trans hkey')
      refine logs_withLock fun l₃ g hquiet hgrants => logs_bind (logs_getRawCart fun y l₄ cart hget hclock hlength hfound => ?_)
      have hcompares : Compares key snapshot cart ((l₁ ++ z :: l₂) ++ (l₃ ++ [g]) ++ y :: l₄) := by
        refine ⟨l₁, z, l₂ ++ (l₃ ++ [g]), y, l₄, by simp, hz, hget, ?_, hl₁, ?_, hclock, hlength, hfound⟩
        · exact ⟨l₁ ++ z :: l₂ ++ l₃, g, [], by simp, hgrants, fun x hx => (nomatch hx)⟩
        · intro w hw
          rcases List.mem_append.1 hw with hw | hw
          · exact hl₂ w hw
          · rcases List.mem_append.1 hw with hw | hw
            · exact (hquiet w hw).written
            · obtain rfl := List.mem_singleton.1 hw
              exact hgrants.quiet.written
      have hpre : (l₁ ++ z :: l₂) <+: (l₁ ++ z :: l₂) ++ (l₃ ++ [g]) ++ y :: l₄ := ⟨l₃ ++ [g] ++ y :: l₄, by simp⟩
      split
      · rename_i hsame
        refine logs_bind (logs_trans fun n b _ _ _ => ⟨⟨hkey, snapshot, cart, hcompares, hsame⟩, fun w hw => ?_⟩)
        exact ⟨hedited _ (hpre.trans ⟨[⟨n, .del key, b⟩, w], by simp⟩), fun _ _ hreply => (nomatch hreply)⟩
      · rename_i hchanged
        refine fun w hw => ⟨hedited _ (hpre.trans ⟨[w], rfl⟩), fun owner' hcall _ => ?_⟩
        cases hcall
        exact ⟨key, _, w, snapshot, cart, hkey, rfl, hw, hcompares, hchanged⟩
    · intro l e hl
      exact ⟨hedited l hl, fun _ _ hreply => (nomatch hreply)⟩

/-- **Each call does as it may**, and answers as it should. -/
theorem proc_logs (call : Call) : Logs (A := carts cfg) (Allowed call) (Call.proc cfg call) (Answers call) [] := by
  cases call with
  | getCart owner => exact getCart_logs owner
  | addItem owner variantId quantity => exact addItem_logs owner variantId quantity
  | updateItem owner variantId quantity => exact updateItem_logs owner variantId quantity
  | removeItem owner variantId => exact removeItem_logs owner variantId
  | clearCart owner expectedUpdatedAt => exact clearCart_logs owner expectedUpdatedAt
  | mergeGuestCartToUserCart userId sessionId => exact merge_logs userId sessionId
  | validateCart owner => exact validateCart_logs owner
  | createOrder owner => exact createOrder_logs owner
  | pass ms => exact logs_bind (logs_trans fun n b _ _ _ => ⟨trivial, fun key hkey => (nomatch hkey), fun _ hcall => (nomatch hcall)⟩)

end Programs

end Balii.Carts
