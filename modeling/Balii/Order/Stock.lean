import Balii.Order.Changes
/-!
# Order.Stock — what is reserved is what the orders hold

The reserved quantity of a variant is a sum over the orders whose stock is still reserved.  A checkout adds to it line by
line, the later moves take the order's whole quantity of the variant off at once, and the two agree because a line is
never changed.  What is reserved is then always there to be moved on, and the stock is never short.
-/
namespace Balii

open Rowdb Tx Sql System

/-! ## Lines -/

/-- What some lines ask of a variant, summed. -/
def lineSum {ι : Type} (key : ι → Uuid) (q : ι → ℤ) (lines : List ι) (k : Uuid) : ℤ :=
  ((lines.filter fun e => key e = k).map q).sum

section Lines
variable {ι : Type} {key : ι → Uuid} {q : ι → ℤ}

theorem lineSum_concat (lines : List ι) (x : ι) (k : Uuid) :
    lineSum key q (lines ++ [x]) k = lineSum key q lines k + if key x = k then q x else 0 := by
  unfold lineSum
  rw [List.filter_append, List.map_append, List.sum_append]
  by_cases h : key x = k <;> simp [h]

theorem lineSum_nonneg {lines : List ι} (h : ∀ x ∈ lines, 0 < q x) (k : Uuid) : 0 ≤ lineSum key q lines k := by
  unfold lineSum
  apply List.sum_nonneg
  intro y hy
  obtain ⟨x, hx, rfl⟩ := List.mem_map.1 hy
  have := h x (List.mem_of_mem_filter hx)
  omega

/-- **Line by line or all at once**: changes that add up change a variant by their sum. -/
theorem foldLines_lineSum {g : ℤ → Variant → Variant} (hzero : ∀ v, g 0 v = v) (hadd : ∀ a b v, g b (g a v) = g (a + b) v)
    (lines : List ι) (k : Uuid) (v : Variant) :
    foldLines key (fun e => g (q e)) lines k v = g (lineSum key q lines k) v := by
  induction lines using List.reverseRecOn with
  | nil => exact (hzero v).symm
  | append_singleton lines x ih =>
    rw [foldLines_concat, lineSum_concat, ih]
    by_cases h : key x = k
    · rw [if_pos h, if_pos h, hadd]
    · rw [if_neg h, if_neg h, add_zero]

end Lines

theorem foldLines_reserve (items : List CheckoutItem) (k : Uuid) (v : Variant) :
    foldLines CheckoutItem.variantId (fun i => Variant.reserve i.quantity) items k v =
      v.reserve (lineSum CheckoutItem.variantId CheckoutItem.quantity items k) :=
  foldLines_lineSum (fun v => by simp [Variant.reserve]) (fun a b v => by simp [Variant.reserve, add_assoc]) items k v

theorem foldLines_restock (lines : List (Uuid × ℤ)) (k : Uuid) (v : Variant) :
    foldLines Prod.fst (fun e => Variant.restock e.2) lines k v = v.restock (lineSum Prod.fst Prod.snd lines k) :=
  foldLines_lineSum (fun v => by simp [Variant.restock]) (fun a b v => by simp [Variant.restock, add_assoc]) lines k v

theorem quantityOf_checkout (c : Checkout) (voucher : Option (Uuid × ℤ)) (k : Uuid) :
    quantityOf (c.order voucher).items k = lineSum CheckoutItem.variantId CheckoutItem.quantity c.items k := by
  have hfrom : ∀ (items : List CheckoutItem) (n : ℕ),
      quantityOf ((items.zipIdx n).map fun e => e.1.toOrderItem (c.itemId e.2)) k =
        lineSum CheckoutItem.variantId CheckoutItem.quantity items k := by
    intro items
    induction items with
    | nil => exact fun _ => rfl
    | cons i items ih =>
      intro n
      rw [List.zipIdx_cons, List.map_cons, quantityOf_cons, ih]
      unfold lineSum
      by_cases h : i.variantId = k <;> simp [CheckoutItem.toOrderItem, h]
  exact hfrom c.items 0

/-! ## The invariant -/

/-- How much of a variant an order holds in reserve. -/
def Order.holds (k : Uuid) (o : Order) : ℤ := if o.inventoryState = .reserved then quantityOf o.items k else 0

/-- `SUM(quantity)` of a variant over the items of all orders whose stock is reserved. -/
def reservedBy (s : Db) (k : Uuid) : ℤ := (s.rows Tab.orders).total fun _ o => o.holds k

structure StockKept (s : Db) : Prop where
  reserved : ∀ k v, s.find Tab.variants k = some v → v.reservedQuantity = reservedBy s k
  room : ∀ k v, s.find Tab.variants k = some v → v.reservedQuantity ≤ v.stockQuantity
  there : ∀ id o, s.find Tab.orders id = some o → ∀ i ∈ o.items, (s.find Tab.variants i.variantId).isSome = true
  positive : ∀ id o, s.find Tab.orders id = some o → ∀ i ∈ o.items, 0 < i.quantity
  returned : ∀ k r, s.find Tab.returnRequests k = some r → ∀ i ∈ r.items, 0 < i.requestedQuantity

/-- Variants neither come nor go. -/
def VariantsFixed (a b : Db) : Prop :=
  ∀ k, (b.find Tab.variants k).isSome = (a.find Tab.variants k).isSome

/-- No orders and no returns yet, nothing reserved, and no stock below zero, as the table's `CHECK` has it. -/
structure Shelved (s : Db) : Prop where
  orders : s.rows Tab.orders = ∅
  returnRequests : s.rows Tab.returnRequests = ∅
  variants : ∀ k v, s.find Tab.variants k = some v → v.reservedQuantity = 0 ∧ 0 ≤ v.stockQuantity

theorem Shelved.stockKept {s : Db} (h : Shelved s) : StockKept s := by
  have ho : ∀ id, s.find Tab.orders id = none := fun id => by unfold Database.find; rw [h.orders]; rfl
  have hr : ∀ k, s.find Tab.returnRequests k = none := fun k => by unfold Database.find; rw [h.returnRequests]; rfl
  refine ⟨fun k v hv => ?_, fun k v hv => ?_, fun id o hid => ?_, fun id o hid => ?_, fun k r hk => ?_⟩
  · have := (h.variants k v hv).1
    unfold reservedBy
    rw [h.orders, AList.total_empty]
    exact this
  · have := h.variants k v hv
    omega
  · rw [ho] at hid; cases hid
  · rw [ho] at hid; cases hid
  · rw [hr] at hk; cases hk

/-- The change of a variant's stock that one transaction can make. -/
inductive StockChange (op : Op) (a b : Db) (k : Uuid) (v w : Variant) : Prop
  | kept (h : w.stockQuantity = v.stockQuantity)
  | committed {id o o'} (ho : a.find Tab.orders id = some o) (hr : o.inventoryState = .reserved)
      (ho' : b.find Tab.orders id = some o') (hc : o'.inventoryState = .committed)
      (h : w.stockQuantity = v.stockQuantity - quantityOf o.items k)
  | released {id o o'} (ho : a.find Tab.orders id = some o) (hr : o.inventoryState = .committed)
      (ho' : b.find Tab.orders id = some o') (hc : o'.inventoryState = .released)
      (h : w.stockQuantity = v.stockQuantity + quantityOf o.items k)
  | restocked {rc request order} (hop : op = .receiveReturnRequest rc)
      (hr : a.find Tab.returnRequests rc.returnRequestId = some request) (hs : request.status = .approved)
      (ho : a.find Tab.orders request.orderId = some order)
      (h : w.stockQuantity = v.stockQuantity + lineSum Prod.fst Prod.snd (request.items.filterMap (rc.restockLine order)) k)
  | adjusted {dto actorId} (hop : op = .updateVariant k dto actorId) (h : dto.stockQuantity = some w.stockQuantity)

/-! ## One commit -/

section Step
variable {s b : Db}

theorem holds_nonneg {o : Order} (h : ∀ i ∈ o.items, 0 < i.quantity) (k : Uuid) : 0 ≤ o.holds k := by
  unfold Order.holds
  split
  · exact quantityOf_nonneg h k
  · exact le_refl _

/-- **What an order holds is reserved.** -/
theorem StockKept.holds_le (h : StockKept s) {id k : Uuid} {o : Order} {v : Variant} (ho : s.find Tab.orders id = some o)
    (hv : s.find Tab.variants k = some v) : o.holds k ≤ v.reservedQuantity := by
  rw [h.reserved k v hv]
  exact AList.le_total (f := fun _ o => Order.holds k o) (fun id o ho => holds_nonneg (h.positive id o ho) k) ho

theorem StockKept.nonneg (h : StockKept s) {k : Uuid} {v : Variant} (hv : s.find Tab.variants k = some v) :
    0 ≤ v.reservedQuantity := by
  rw [h.reserved k v hv]
  exact AList.total_nonneg fun id o ho => holds_nonneg (h.positive id o ho) k

/-- How the stock itself changes when a quantity is moved on: only what is committed leaves it, and comes back. -/
def InventoryTarget.stockDelta (target : InventoryTarget) (current : InventoryState) (quantity : ℤ) : ℤ :=
  match target, current with
  | .committed, .reserved => -quantity
  | .released, .committed => quantity
  | _, _ => 0

/-- What `StockMoved` does to one variant: the order's hold on it ends. -/
theorem StockMoved.variant {order : Order} {target : InventoryTarget} (h : StockMoved s b order target) {k : Uuid}
    {w : Variant} (hw : b.find Tab.variants k = some w) :
    ∃ v, s.find Tab.variants k = some v ∧ w.reservedQuantity = v.reservedQuantity - order.holds k ∧
      w.stockQuantity = v.stockQuantity + target.stockDelta order.inventoryState (quantityOf order.items k) := by
  unfold Order.holds
  rcases h with ⟨hstate, hrows⟩ | ⟨hfrom, _, hmoved⟩
  · rw [Database.find_of_rows (D := schema) hrows] at hw
    refine ⟨w, hw, ?_⟩
    rw [hstate]
    cases target <;> simp [InventoryTarget.state, InventoryTarget.stockDelta]
  · rw [hmoved k] at hw
    obtain ⟨v, hv, rfl⟩ := Option.map_eq_some_iff.1 hw
    refine ⟨v, hv, ?_⟩
    cases target <;> cases hstate : order.inventoryState <;> rw [hstate] at hfrom <;> simp [InventoryTarget.from] at hfrom
    · exact ⟨rfl, sub_eq_add_neg _ _⟩
    · exact ⟨rfl, (add_zero _).symm⟩
    · exact ⟨(sub_zero _).symm, rfl⟩

theorem reservedBy_of_rows (h : b.rows Tab.orders = s.rows Tab.orders) (k : Uuid) : reservedBy b k = reservedBy s k := by
  unfold reservedBy
  rw [h]

theorem reservedBy_of_modify {id : Uuid} {order : Order} {f : Order → Order} (ho : s.find Tab.orders id = some order)
    (h : b.rows Tab.orders = (s.rows Tab.orders).modify id f) (k : Uuid) :
    reservedBy b k = reservedBy s k + ((f order).holds k - order.holds k) := by
  unfold reservedBy
  rw [h]
  exact AList.total_modify f (fun _ o => Order.holds k o) ho

/-- The items of the orders of `b` are those of `s`, or items of a new order over variants that are there. -/
def ItemsFrom (s b : Db) : Prop :=
  ∀ id o', b.find Tab.orders id = some o' → (∃ o, s.find Tab.orders id = some o ∧ o'.items = o.items) ∨
    ∀ i ∈ o'.items, (s.find Tab.variants i.variantId).isSome = true ∧ 0 < i.quantity

def QuantitiesFrom (s b : Db) : Prop :=
  ∀ k r', b.find Tab.returnRequests k = some r' →
    (∃ r, s.find Tab.returnRequests k = some r ∧ ∀ i ∈ r'.items, ∃ j ∈ r.items, i.requestedQuantity = j.requestedQuantity) ∨
      ∀ i ∈ r'.items, 0 < i.requestedQuantity

/-- **What keeps the stock in line**: each variant's reserve goes with what the orders hold of it, and stays below its
stock. -/
theorem StockKept.step (h : StockKept s) (hfix : VariantsFixed s b) (hitems : ItemsFrom s b) (hret : QuantitiesFrom s b)
    (hvar : ∀ k w, b.find Tab.variants k = some w → ∃ v, s.find Tab.variants k = some v ∧
      w.reservedQuantity = v.reservedQuantity + (reservedBy b k - reservedBy s k) ∧ w.reservedQuantity ≤ w.stockQuantity) :
    StockKept b := by
  refine ⟨fun k w hw => ?_, fun k w hw => ?_, fun id o' ho' i hi => ?_, fun id o' ho' i hi => ?_, fun k r' hr' i hi => ?_⟩
  · obtain ⟨v, hv, hres, _⟩ := hvar k w hw
    have := h.reserved k v hv
    omega
  · obtain ⟨_, _, _, hroom⟩ := hvar k w hw
    exact hroom
  · rw [hfix]
    rcases hitems id o' ho' with ⟨o, ho, heq⟩ | hnew
    · exact h.there id o ho i (heq ▸ hi)
    · exact (hnew i hi).1
  · rcases hitems id o' ho' with ⟨o, ho, heq⟩ | hnew
    · exact h.positive id o ho i (heq ▸ hi)
    · exact (hnew i hi).2
  · rcases hret k r' hr' with ⟨r, hr, hq⟩ | hnew
    · obtain ⟨j, hj, heq⟩ := hq i hi
      rw [heq]
      exact h.returned k r hr j hj
    · exact hnew i hi

theorem itemsFrom_of_rows (h : b.rows Tab.orders = s.rows Tab.orders) : ItemsFrom s b :=
  fun id o' ho' => .inl ⟨o', (Database.find_of_rows (D := schema) h id).symm.trans ho', rfl⟩

theorem itemsFrom_of_modify {id : Uuid} {f : Order → Order} (hf : ∀ o, (f o).items = o.items)
    (h : b.rows Tab.orders = (s.rows Tab.orders).modify id f) : ItemsFrom s b := by
  intro k o' ho'
  rw [Database.find_of_modify (D := schema) h] at ho'
  split at ho'
  · obtain ⟨o, ho, rfl⟩ := Option.map_eq_some_iff.1 ho'
    exact .inl ⟨o, ho, hf o⟩
  · exact .inl ⟨o', ho', rfl⟩

/-- What a commit does to the stock: the invariant is kept, and every variant's change is one of those there are. -/
structure StockStep (op : Op) (s b : Db) : Prop where
  kept : StockKept b
  fixed : VariantsFixed s b
  changes : ∀ k v w, s.find Tab.variants k = some v → b.find Tab.variants k = some w → StockChange op s b k v w

theorem StockKept.idle (h : StockKept s) (op : Op) (hrows : b.rows Tab.variants = s.rows Tab.variants)
    (hitems : ItemsFrom s b) (hres : ∀ k, reservedBy b k = reservedBy s k) (hret : QuantitiesFrom s b) : StockStep op s b := by
  have hv := Database.find_of_rows (D := schema) hrows
  have hfix : VariantsFixed s b := fun k => by rw [hv]
  refine ⟨h.step hfix hitems hret fun k w hw => ?_, hfix, fun k v w hs hb => ?_⟩
  · rw [hv] at hw
    refine ⟨w, hw, ?_, h.room k w hw⟩
    rw [hres, sub_self, add_zero]
  · rw [hv, hs] at hb
    cases hb
    exact .kept rfl

/-- The stock of the order that goes to `status`, as it moves along. -/
theorem MovesAlong.stock {R : List (LockKey schema) → Db → Db → Prop} {id : Uuid} {order : Order} {status : OrderStatus}
    (h : MovesAlong R s b id order status) :
    (b.rows Tab.variants = s.rows Tab.variants ∧ status.inventory order.inventoryState = order.inventoryState) ∨
      ∃ target : InventoryTarget, StockMoved s b order target ∧ status.inventory order.inventoryState = target.state := by
  cases status with
  | confirmed => exact .inr ⟨.committed, h.confirmed rfl, rfl⟩
  | cancelled => exact .inr ⟨.released, (h.cancelled rfl).1, rfl⟩
  | _ => exact .inl ⟨h.variants (by decide) (by decide), rfl⟩

theorem StockMoved.fixed {order : Order} {target : InventoryTarget} (h : StockMoved s b order target) :
    VariantsFixed s b := by
  intro k
  rcases h with ⟨_, hrows⟩ | ⟨_, _, hmoved⟩
  · rw [Database.find_of_rows (D := schema) hrows]
  · rw [hmoved k, Option.isSome_map]

theorem stockDelta_room {target : InventoryTarget} {order : Order} {k : Uuid} (hq : 0 ≤ quantityOf order.items k) :
    -order.holds k ≤ target.stockDelta order.inventoryState (quantityOf order.items k) := by
  unfold Order.holds InventoryTarget.stockDelta
  cases target <;> cases order.inventoryState <;> simp <;> omega

/-- **A change of status keeps the stock.** -/
theorem StockKept.moved (h : StockKept s) (op : Op) {R : List (LockKey schema) → Db → Db → Prop} (hret : QuantitiesFrom s b)
    {To : OrderStatus → Prop} {id : Uuid} {order : Order} {now : Time} (ho : s.find Tab.orders id = some order)
    (hm : OrderMoved R To s b id order now) : StockStep op s b := by
  rcases hm with ⟨h1, h2, _, _⟩ | ⟨status, _, _, horders, halong⟩
  · exact h.idle op h2 (itemsFrom_of_rows h1) (reservedBy_of_rows h1) hret
  · have hitems := itemsFrom_of_modify (by exact fun _ => rfl) horders
    have hres := reservedBy_of_modify ho horders
    have hmoved : ∀ k, (order.moveTo status (status.inventory order.inventoryState) now).holds k =
        if status.inventory order.inventoryState = .reserved then quantityOf order.items k else 0 := fun k => rfl
    rcases halong.stock with ⟨hrows, hinv⟩ | ⟨target, hstock, hinv⟩
    · refine h.idle op hrows hitems (fun k => ?_) hret
      rw [hres, hmoved, hinv]
      unfold Order.holds
      rw [sub_self, add_zero]
    · have hnone : ∀ k, (order.moveTo status (status.inventory order.inventoryState) now).holds k = 0 := fun k => by
        rw [hmoved, hinv, if_neg (by cases target <;> decide)]
      have hafter : b.find Tab.orders id = some (order.moveTo status (status.inventory order.inventoryState) now) := by
        rw [Database.find_of_modify (D := schema) horders, if_pos rfl, ho]
        rfl
      refine ⟨h.step hstock.fixed hitems hret fun k w hw => ?_, hstock.fixed, fun k v w hs hb => ?_⟩
      · obtain ⟨v, hv, hreserved, hstocked⟩ := hstock.variant hw
        have hroom := h.room k v hv
        have hdelta : -order.holds k ≤ target.stockDelta order.inventoryState (quantityOf order.items k) :=
          stockDelta_room (quantityOf_nonneg (h.positive id order ho) k)
        refine ⟨v, hv, ?_, ?_⟩
        · rw [hres, hnone]
          omega
        · omega
      · obtain ⟨v', hv', _, hstocked⟩ := hstock.variant hb
        cases Option.some.inj (hs.symm.trans hv')
        unfold InventoryTarget.stockDelta at hstocked
        split at hstocked
        · exact .committed ho ‹_› hafter hinv (by omega)
        · exact .released ho ‹_› hafter hinv hstocked
        · exact .kept (by omega)

/-- **A checkout keeps the stock**: what its lines take is what its order holds. -/
theorem StockKept.placed (h : StockKept s) (op : Op) (hret : QuantitiesFrom s b) {c : Checkout}
    {voucher : Option (Uuid × ℤ)} (hp : Placed s b c voucher) : StockStep op s b := by
  have hmem : ∀ i ∈ (c.order voucher).items, ∃ j ∈ c.items, i.variantId = j.variantId ∧ i.quantity = j.quantity := by
    intro i hi
    obtain ⟨e, he, rfl⟩ := List.mem_map.1 hi
    exact ⟨e.1, (List.mem_zipIdx' he).2 ▸ List.getElem_mem _, rfl, rfl⟩
  have hitems : ItemsFrom s b := by
    intro k o' ho'
    rw [hp.find_orders] at ho'
    split at ho'
    · cases ho'
      refine .inr fun i hi => ?_
      obtain ⟨j, hj, hv, hq⟩ := hmem i hi
      rw [hv, hq]
      exact ⟨hp.there j hj, hp.quantities j hj⟩
    · exact .inl ⟨o', ho', rfl⟩
  have hres : ∀ k, reservedBy b k = reservedBy s k + lineSum CheckoutItem.variantId CheckoutItem.quantity c.items k := by
    intro k
    have hfresh : (s.rows Tab.orders).lookup c.orderId = none := hp.fresh
    unfold reservedBy
    rw [hp.orders, AList.insertNew_of_none _ hfresh, AList.total_insert _ _ hfresh, ← quantityOf_checkout c voucher, add_comm]
    rfl
  have hfix : VariantsFixed s b := fun k => by rw [hp.variants k, Option.isSome_map]
  -- the guard of each line leaves room for the lines so far
  have hroom : ∀ k v, s.find Tab.variants k = some v → ∀ d rest, c.items = d ++ rest →
      v.reservedQuantity + lineSum CheckoutItem.variantId CheckoutItem.quantity d k ≤ v.stockQuantity := by
    intro k v hv d
    induction d using List.reverseRecOn with
    | nil =>
      intro rest _
      have := h.room k v hv
      simpa [lineSum] using this
    | append_singleton d x ih =>
      intro rest heq
      rw [List.append_assoc] at heq
      rw [lineSum_concat]
      have hd := ih _ heq
      by_cases hk : x.variantId = k
      · subst hk
        have hx := hp.room d x rest heq v hv
        rw [foldLines_reserve] at hx
        simp only [Variant.reserve] at hx
        rw [if_pos rfl]
        omega
      · rw [if_neg hk, add_zero]
        exact hd
  have hafter : ∀ k w, b.find Tab.variants k = some w → ∃ v, s.find Tab.variants k = some v ∧
      w = v.reserve (lineSum CheckoutItem.variantId CheckoutItem.quantity c.items k) := by
    intro k w hw
    rw [hp.variants k] at hw
    obtain ⟨v, hv, rfl⟩ := Option.map_eq_some_iff.1 hw
    exact ⟨v, hv, foldLines_reserve c.items k v⟩
  refine ⟨h.step hfix hitems hret fun k w hw => ?_, hfix, fun k v w hs hb => ?_⟩
  · obtain ⟨v, hv, rfl⟩ := hafter k w hw
    have := hroom k v hv c.items [] (List.append_nil _).symm
    refine ⟨v, hv, ?_, this⟩
    rw [hres, add_sub_cancel_left]
    rfl
  · obtain ⟨v', hv', rfl⟩ := hafter k w hb
    cases Option.some.inj (hs.symm.trans hv')
    exact .kept rfl

/-- **The goods that come back keep the stock.** -/
theorem StockKept.restocked (h : StockKept s) {rc : Receipt} {request : ReturnRequest} {order : Order}
    (hret : QuantitiesFrom s b) (hrows : b.rows Tab.orders = s.rows Tab.orders)
    (hr : s.find Tab.returnRequests rc.returnRequestId = some request) (hs : request.status = .approved)
    (ho : s.find Tab.orders request.orderId = some order) (hback : Restocked s b rc order request.items) :
    StockStep (.receiveReturnRequest rc) s b := by
  have hfix : VariantsFixed s b := fun k => by rw [hback k, Option.isSome_map]
  have hafter : ∀ k w, b.find Tab.variants k = some w → ∃ v, s.find Tab.variants k = some v ∧
      w = v.restock (lineSum Prod.fst Prod.snd (request.items.filterMap (rc.restockLine order)) k) := by
    intro k w hw
    rw [hback k] at hw
    obtain ⟨v, hv, rfl⟩ := Option.map_eq_some_iff.1 hw
    exact ⟨v, hv, foldLines_restock _ k v⟩
  have hpos : ∀ e ∈ request.items.filterMap (rc.restockLine order), 0 < e.2 := by
    intro e he
    obtain ⟨i, hi, hline⟩ := List.mem_filterMap.1 he
    unfold Receipt.restockLine at hline
    split at hline
    · obtain ⟨_, _, rfl⟩ := Option.map_eq_some_iff.1 hline
      exact h.returned _ request hr i hi
    · cases hline
  refine ⟨h.step hfix (itemsFrom_of_rows hrows) hret fun k w hw => ?_, hfix, fun k v w hv hw => ?_⟩
  · obtain ⟨v, hv, rfl⟩ := hafter k w hw
    have hroom := h.room k v hv
    have hback : 0 ≤ lineSum Prod.fst Prod.snd (request.items.filterMap (rc.restockLine order)) k := lineSum_nonneg hpos k
    refine ⟨v, hv, ?_, ?_⟩
    · rw [reservedBy_of_rows hrows, sub_self, add_zero]
      rfl
    · simp only [Variant.restock]
      omega
  · obtain ⟨v', hv', rfl⟩ := hafter k w hw
    cases Option.some.inj (hv.symm.trans hv')
    exact .restocked rfl hr hs ho rfl

theorem exec_updateVariant {R : List (LockKey schema) → Db → Db → Prop} {id : Uuid} {dto : UpdateVariant} {actorId : Option Uuid}
    {o : Outcome (LockKey schema) (Write schema) Unit} (h : Exec R (updateVariant id dto actorId) s [] [] o) :
    ∃ v, s.find Tab.variants id = some v ∧ dto.reservedQuantity = none ∧ (∀ q ∈ dto.stockQuantity, v.reservedQuantity ≤ q) ∧
      ∀ k, (written o.writes s).find Tab.variants k = if k = id then some (dto.applyTo v) else s.find Tab.variants k := by
  unfold updateVariant at h
  simp only [exec_bind, exec_ensure, exec_update] at h
  obtain ⟨_, ⟨hnone, rfl⟩, _, h1, _, ⟨hroom, rfl⟩, _, rfl, ha⟩ := h
  obtain ⟨v, hv, rfl⟩ := exec_fetch h1
  have hv : s.find Tab.variants id = some v := hv
  refine ⟨v, hv, hnone, hroom, fun k => ?_⟩
  cases exec_audit.1 ha
  rw [written_append, Database.find_of_rows (D := schema) (rows_movementWrites _ id v (dto.applyTo v) _ Tab.variants),
    written_append, written_cons, written_nil, find_update]
  split
  · rename_i hk
    subst hk
    rw [written_nil, hv]
    rfl
  · rfl

/-- **The admin's update keeps the stock**: it may not touch the reserve, nor go below it. -/
theorem StockKept.adjusted (h : StockKept s) {id : Uuid} {dto : UpdateVariant} {actorId : Option Uuid}
    (hret : QuantitiesFrom s b) (hrows : b.rows Tab.orders = s.rows Tab.orders) {v : Variant}
    (hv : s.find Tab.variants id = some v) (hnone : dto.reservedQuantity = none)
    (hroom : ∀ q ∈ dto.stockQuantity, v.reservedQuantity ≤ q)
    (hafter : ∀ k, b.find Tab.variants k = if k = id then some (dto.applyTo v) else s.find Tab.variants k) :
    StockStep (.updateVariant id dto actorId) s b := by
  have hfix : VariantsFixed s b := by
    intro k
    rw [hafter]
    split
    · rename_i hk
      rw [hk, hv]
      rfl
    · rfl
  have hkeep : (dto.applyTo v).reservedQuantity = v.reservedQuantity := by
    simp [UpdateVariant.applyTo, hnone]
  refine ⟨h.step hfix (itemsFrom_of_rows hrows) hret fun k w hw => ?_, hfix, fun k u w hu hw => ?_⟩
  · rw [hafter] at hw
    rw [reservedBy_of_rows hrows, sub_self]
    split at hw
    · rename_i hk
      subst hk
      cases hw
      refine ⟨v, hv, by rw [hkeep, add_zero], ?_⟩
      rw [hkeep]
      have hbefore := h.room k v hv
      simp only [UpdateVariant.applyTo]
      cases hq : dto.stockQuantity with
      | none => exact hbefore
      | some q => exact hroom q hq
    · exact ⟨w, hw, (add_zero _).symm, h.room k w hw⟩
  · rw [hafter] at hw
    split at hw
    · rename_i hk
      subst hk
      cases Option.some.inj (hu.symm.trans hv)
      cases hw
      cases hq : dto.stockQuantity with
      | none => exact .kept (by simp [UpdateVariant.applyTo, hq])
      | some q => exact .adjusted rfl (by simp [UpdateVariant.applyTo, hq])
    · cases Option.some.inj (hu.symm.trans hw)
      exact .kept rfl

/-- An order that was refunded with a return keeps its stock. -/
theorem StockKept.paid (h : StockKept s) (op : Op) (hret : QuantitiesFrom s b) {id : Uuid} {request : ReturnRequest}
    {order : Order} {change : ReturnRequest → ReturnRequest} {now : Time} (ho : s.find Tab.orders request.orderId = some order)
    (hrows : b.rows Tab.variants = s.rows Tab.variants) (hp : ReturnPaid s b id request change now) : StockStep op s b := by
  rcases hp.orders with horders | horders
  · exact h.idle op hrows (itemsFrom_of_rows horders) (reservedBy_of_rows horders) hret
  · refine h.idle op hrows (itemsFrom_of_modify (by exact fun _ => rfl) horders) (fun k => ?_) hret
    rw [reservedBy_of_modify ho horders]
    unfold Order.holds
    rw [sub_self, add_zero]

end Step

/-! ## Every commit -/

section Commits
variable {cfg : Config}

theorem quantitiesFrom_commit {c : Commit cfg} {Inv : Db → Prop} {G : List (LockKey schema) → Db → Db → Prop}
    (hf : c.Faithful Inv G) : QuantitiesFrom c.before c.after := by
  intro k r hr
  rcases return_change hf hr with ⟨r₀, h0, hchange⟩ | ⟨_, _, _, _, _, _, _, _, hq⟩
  · exact .inl ⟨r₀, h0, hchange.items⟩
  · exact .inr hq

theorem variantsStay {Inv : Db → Prop} (s : Db) : VariantsStay (Rely (S := platform cfg) Inv fun _ => VariantsFixed) s := by
  rintro L s₀ k ⟨_, hs₀⟩
  exact (eq_of_others (f := fun s : Db => (s.find Tab.variants k).isSome) (fun _ _ _ _ hg => hg k) hs₀).symm

/-- **Every commit keeps the stock.** -/
theorem stock_commit (c : Commit cfg) (h : StockKept c.before) (hf : c.Faithful StockKept fun _ => VariantsFixed) :
    StockStep c.op c.before c.after := by
  have hret := quantitiesFrom_commit hf
  have hrows : ∀ t : Tab, t ∉ c.op.tables → c.after.rows t = c.before.rows t := fun t ht => rows_of_notMem hf ht
  have hidle : c.after.rows Tab.variants = c.before.rows Tab.variants → c.after.rows Tab.orders = c.before.rows Tab.orders →
      StockStep c.op c.before c.after := fun hv ho => h.idle c.op hv (itemsFrom_of_rows ho) (reservedBy_of_rows ho) hret
  have hsame : c.out.writes = [] → StockStep c.op c.before c.after := fun hw => by
    have hb := after_of_nil hw
    exact hidle (by rw [hb]) (by rw [hb])
  obtain ⟨call, op, s, o⟩ := c
  cases op with
  | createOrder co =>
    rcases exec_createOrder hf with hw | ⟨voucher, hp, _⟩
    · exact hsame hw
    · exact h.placed _ hret hp
  | updatePaymentStatus id payment status now =>
    obtain ⟨order, ho, _, hm, _⟩ := exec_updatePaymentStatus hf
    exact h.moved _ hret ho hm
  | updateOrderStatus id status note now =>
    obtain ⟨order, ho, _, hm⟩ := exec_updateOrderStatus hf
    exact h.moved _ hret ho hm
  | receiveReturnRequest rc =>
    obtain ⟨request, order, hreq, ho, hcases⟩ := exec_receiveReturn hf
    have horders := hrows Tab.orders (by simp [Op.tables])
    rcases hcases with ⟨_, _, hw⟩ | ⟨_, _, hw⟩ | ⟨hst, _, hback, _⟩
    · exact hsame hw
    · refine hidle ?_ horders
      change (written o.writes s).rows Tab.variants = s.rows Tab.variants
      rw [hw, written_cons, written_nil, rows_apply _ (by simp [Write.tab?])]
    · exact h.restocked hret horders hreq hst ho (hback (variantsStay s))
  | updateReturnRefundResult id result now =>
    obtain ⟨request, order, _, ho, ⟨_, hw⟩ | ⟨_, hp⟩⟩ := exec_updateReturnRefundResult hf
    · exact hsame hw
    · exact h.paid _ hret ho (hrows _ (by simp [Op.tables])) hp
  | completeManualReturnRefund m =>
    obtain ⟨request, order, _, ho, ⟨_, hw⟩ | ⟨_, _, hp⟩⟩ := exec_completeManual hf
    · exact hsame hw
    · exact h.paid _ hret ho (hrows _ (by simp [Op.tables])) hp
  | updateVariant id dto actorId =>
    obtain ⟨v, hv, hnone, hroom, hafter⟩ := exec_updateVariant hf
    exact h.adjusted hret (hrows _ (by simp [Op.tables])) hv hnone hroom hafter
  | _ => exact hidle (hrows _ (by simp [Op.tables])) (hrows _ (by simp [Op.tables]))

theorem stock_keeps : Keeps (S := platform cfg) StockKept (fun _ => VariantsFixed) (fun _ => True) fun _ => True := by
  intro c _ h hf _
  have hstep := stock_commit c h hf
  exact ⟨hstep.kept, hstep.fixed⟩

end Commits

/-! ## Every failure -/

section Failures
variable {cfg : Config} {s : Db} {L : List (LockKey schema)} {ws : List (Write schema)} {e : Err}

/-- What others do while an order's stock is moved. -/
abbrev StockRely (cfg : Config) : List (LockKey schema) → Db → Db → Prop :=
  Rely (S := platform cfg) StockKept fun _ => VariantsFixed

/-- **What an order holds can be moved on**: the guard of its variant's update is met. -/
theorem StockKept.canMove (h : StockKept s) {id : Uuid} {order : Order} {target : InventoryTarget}
    (ho : s.find Tab.orders id = some order) (hfrom : target.from order.inventoryState = true) {x : Uuid × ℤ}
    (hx : x ∈ itemsByVariant order.items) :
    (s.find Tab.variants x.1).any (Variant.canMove target order.inventoryState x.2) = true := by
  obtain ⟨k, hk, rfl⟩ := List.mem_map.1 hx
  obtain ⟨i, hi, rfl⟩ := List.mem_map.1 (List.mem_dedup.1 hk)
  obtain ⟨v, hv⟩ := Option.isSome_iff_exists.1 (h.there id order ho i hi)
  rw [hv, Option.any_some]
  have hholds := h.holds_le ho hv
  have hroom := h.room _ v hv
  unfold Order.holds at hholds
  cases target <;> cases hstate : order.inventoryState <;> rw [hstate] at hfrom hholds <;> simp [InventoryTarget.from] at hfrom
  · rw [if_pos rfl] at hholds
    simp only [Variant.canMove, Bool.and_eq_true, decide_eq_true_eq]
    omega
  · rw [if_pos rfl] at hholds
    simp only [Variant.canMove, decide_eq_true_eq]
    omega
  · rfl

theorem fails_updateVariantWhere {R : List (LockKey schema) → Db → Db → Prop} {ctx : AuditContext} {id : Uuid}
    {p : Variant → Bool} {f : Variant → Variant} : ¬ Fails R (updateVariantWhere ctx id p f) s L ws e := by
  unfold updateVariantWhere
  intro h
  rw [fails_bind] at h
  rcases h with h | ⟨m, _, h⟩
  · exact fails_updateWhere h
  · split at h
    · exact h
    · rw [fails_bind] at h
      rcases h with h | ⟨_, _, h⟩
      · unfold auditInventoryMovement at h
        split at h
        · exact h
        · exact h
      · exact h

/-- Every write to a variant is to the variant `k`. -/
def OnVariant (k : Uuid) (w : Write schema) : Prop := ∀ q, LockKey.row (D := schema) Tab.variants q ∈ w.keys → q = k

theorem writes_moveVariant_key (ctx : AuditContext) (target : InventoryTarget) (current : InventoryState) (item : Uuid × ℤ) :
    Writes (OnVariant item.1) (moveVariant ctx target current item) := by
  refine writes_bind (writes_bind (writes_updateWhere fun q hq => ?_) fun updated => ?_) fun _ => writes_ensure _ _
  · cases List.mem_singleton.1 hq
    rfl
  · cases updated with
    | none => exact writes_pure _
    | some old =>
      refine writes_bind ?_ fun _ => writes_pure _
      exact writes_if (writes_pure _) (Sql.writes_append fun q hq => nomatch hq)

/-- **`transitionInventoryInTransaction` does not find the stock inconsistent.** -/
theorem fails_transition (h : StockKept s) {id : Uuid} {target : InventoryTarget} {now : Time}
    (hf : Fails (StockRely cfg) (transitionInventoryInTransaction id target now) s L [] e) (v : Uuid) :
    e ≠ inventoryInconsistent v := by
  unfold transitionInventoryInTransaction at hf
  rw [fails_bind] at hf
  rcases hf with hf | ⟨m, hm, hf⟩
  · rw [fails_fetch hf]
    exact fun he => by cases congrArg Err.kind he
  · obtain ⟨order, ho, rfl⟩ := exec_fetch hm
    have ho : s.find Tab.orders id = some order := ho
    split at hf
    · exact hf.elim
    · simp only [fails_bind, fails_ensure, fails_update, exec_ensure] at hf
      rcases hf with ⟨_, rfl⟩ | ⟨_, ⟨hfrom, rfl⟩, hf | ⟨_, _, hf⟩⟩
      · exact fun he => by cases congrArg Err.kind he
      · -- the turns before have written other variants only
        obtain ⟨d, x, rest, L', ws', heq, ⟨hkey, _, hother⟩, hx⟩ := fails_each
          (J := fun d L' ws' => LockKey.row (D := schema) Tab.orders id ∈ L' ∧
            (∀ w ∈ ws', ∀ k ∈ w.keys, k ∈ L') ∧ ∀ w ∈ ws', ∃ y ∈ d, OnVariant y.1 w)
          (fun d x L' ws' o hinv hex => by
            obtain ⟨h1, h2, h3⟩ := hinv
            obtain ⟨hlocks, hkeys⟩ := Exec.locks _ hex h2
            obtain ⟨vs, hvs, hon⟩ := Exec.extends (P := OnVariant x.1) _ hex
            refine ⟨hlocks _ h1, hkeys, fun w hw => ?_⟩
            rw [hvs] at hw
            rcases List.mem_append.1 hw with hw | hw
            · obtain ⟨y, hy, hw⟩ := h3 w hw
              exact ⟨y, List.mem_append_left _ hy, hw⟩
            · exact ⟨x, List.mem_append_right _ List.mem_cons_self, hon (writes_moveVariant_key _ _ _ x) w hw⟩)
          _ [] ⟨List.mem_cons_self, fun _ hw => absurd hw List.not_mem_nil, fun _ hw => absurd hw List.not_mem_nil⟩ hf
        rw [List.nil_append] at heq
        have hmem : x ∈ itemsByVariant order.items := heq ▸ List.mem_append_right _ List.mem_cons_self
        have hbefore : ∀ a : Db, (written ws' a).find Tab.variants x.1 = a.find Tab.variants x.1 := by
          intro a
          show @Store.get Db _ (LockKey.Content (D := schema)) (Write schema) _ (written ws' a) (.row Tab.variants x.1) = _
          refine Tx.get_applyAll_of_notMem a fun w hw hk => ?_
          obtain ⟨y, hy, hon⟩ := hother w hw
          have hnodup : ((itemsByVariant order.items).map Prod.fst).Nodup := by
            unfold itemsByVariant
            rw [List.map_map]
            exact (List.map_id _).symm ▸ List.nodup_dedup _
          rw [heq, List.map_append, List.map_cons, List.nodup_append] at hnodup
          exact hnodup.2.2 y.1 (List.mem_map.2 ⟨y, hy, rfl⟩) x.1 List.mem_cons_self (hon _ hk).symm
        have hguard : ∀ a : Db, StockKept a → a.find Tab.orders id = some order →
            ((written ws' a).find Tab.variants x.1).any (Variant.canMove target order.inventoryState x.2) ≠ false := by
          intro a ha hao
          rw [hbefore, ha.canMove hao hfrom hmem]
          decide
        unfold moveVariant at hx
        rw [fails_bind] at hx
        rcases hx with hx | ⟨m, hm, hx⟩
        · exact (fails_updateVariantWhere hx).elim
        · rw [fails_ensure] at hx
          rcases exec_updateVariantWhere hm with ⟨hv, _⟩ | ⟨_, _, hmiss | ⟨s₀, ⟨hs₀, hothers⟩, hmiss⟩⟩
          · exact absurd hv hx.1
          · exact absurd hmiss (hguard s h ho)
          · -- the order's row was the same when the statement began
            have hrow := get_eq_of_others hothers _ hkey
            exact absurd hmiss (hguard s₀ hs₀ (Eq.trans hrow ho))
      · exact hf.elim

theorem conflict_ne (message : String) (v : Uuid) : conflict message ≠ inventoryInconsistent v := fun he => by
  cases congrArg Err.kind he

theorem notFound_ne (message : String) (v : Uuid) : notFound message ≠ inventoryInconsistent v := fun he => by
  cases congrArg Err.kind he

theorem fails_releaseVoucher {R : List (LockKey schema) → Db → Db → Prop} {id : Uuid} :
    ¬ Fails R (releaseVoucherUsageInTransaction id) s L ws e := by
  unfold releaseVoucherUsageInTransaction
  intro h
  rw [fails_bind] at h
  rcases h with h | ⟨m, _, h⟩
  · exact fails_deleteReturning h
  · split at h <;> exact h

/-- A loop of conditional updates does not fail. -/
theorem fails_updateLoop {R : List (LockKey schema) → Db → Db → Prop} {t : Tab} {p : t.Row → Bool} {f : t.Row → t.Row}
    {rows : List (t.Key × t.Row)} :
    ¬ Fails R (each (fun e : t.Key × t.Row => (do let _ ← updateRowWhere t e.1 p f; pure () : Trans Unit)) rows) s L ws e := by
  refine not_fails_each fun x L ws h => ?_
  rw [fails_bind] at h
  rcases h with h | ⟨_, _, h⟩
  · exact fails_updateWhere h
  · exact h

theorem fails_cancelPending {R : List (LockKey schema) → Db → Db → Prop} {id : Uuid} :
    ¬ Fails R (cancelPendingPaymentsInTransaction id) s L ws e := by
  unfold cancelPendingPaymentsInTransaction
  intro h
  rw [fails_bind] at h
  rcases h with h | ⟨_, _, h⟩
  · exact fails_select h
  · exact fails_updateLoop (t := Tab.payments) h

theorem fails_completeReturns {R : List (LockKey schema) → Db → Db → Prop} {id : Uuid} {now : Time} :
    ¬ Fails R (completeReturnRequests id now) s L ws e := by
  unfold completeReturnRequests
  intro h
  rw [fails_bind] at h
  rcases h with h | ⟨_, _, h⟩
  · exact fails_select h
  · exact fails_updateLoop (t := Tab.returnRequests) h

theorem fails_setOrderStatus {R : List (LockKey schema) → Db → Db → Prop} {id : Uuid} {a b : OrderStatus} {note : String}
    {now : Time} : ¬ Fails R (setOrderStatus id a b note now) s L ws e := by
  unfold setOrderStatus
  intro h
  rw [fails_bind] at h
  rcases h with h | ⟨_, _, h⟩
  · exact h
  · exact h

/-- What comes after the stock in a cancellation does not fail. -/
theorem fails_cancelled (h : StockKept s) {id : Uuid} {now : Time} {α : Type} {rest : Trans α}
    (hrest : ∀ L ws, ¬ Fails (StockRely cfg) rest s L ws e)
    (hf : Fails (StockRely cfg) (do
      transitionInventoryInTransaction id .released now
      releaseVoucherUsageInTransaction id
      rest : Trans α) s L [] e) (v : Uuid) : e ≠ inventoryInconsistent v := by
  simp only [fails_bind] at hf
  rcases hf with hf | ⟨_, _, hf | ⟨_, _, hf⟩⟩
  · exact fails_transition h hf v
  · exact (fails_releaseVoucher hf).elim
  · exact (hrest _ _ hf).elim

theorem fails_nextStatusOf (h : StockKept s) {id : Uuid} {order : Order} {payment : ReportedPayment} {now : Time}
    (hf : Fails (StockRely cfg) (nextStatusOf id order payment now) s L [] e) (v : Uuid) : e ≠ inventoryInconsistent v := by
  cases payment with
  | unpaid => exact hf.elim
  | pending => exact hf.elim
  | paid =>
    simp only [nextStatusOf, paidOrder, fails_bind, fails_ensure, exec_ensure] at hf
    rcases hf with ⟨_, rfl⟩ | ⟨_, ⟨_, rfl⟩, hf⟩
    · exact conflict_ne _ v
    · split at hf
      · rw [fails_bind] at hf
        rcases hf with hf | ⟨_, _, hf⟩
        · exact fails_transition h hf v
        · exact hf.elim
      · simp only [fails_bind, fails_ensure] at hf
        rcases hf with ⟨_, rfl⟩ | ⟨_, _, hf⟩
        · exact conflict_ne _ v
        · exact hf.elim
  | failed =>
    simp only [nextStatusOf, failedOrder] at hf
    split at hf
    · rw [fails_bind] at hf
      rcases hf with hf | ⟨_, ⟨_, _, rfl⟩, hf⟩
      · exact (fails_select hf).elim
      · split at hf
        · exact hf.elim
        · refine fails_cancelled h (fun L ws hrest => ?_) hf v
          rw [fails_bind] at hrest
          rcases hrest with hrest | ⟨_, _, hrest⟩
          · exact fails_cancelPending hrest
          · exact hrest
    · exact hf.elim
  | refunded =>
    simp only [nextStatusOf, refundedOrder, fails_bind, fails_ensure] at hf
    rcases hf with ⟨_, rfl⟩ | ⟨_, _, hf⟩
    · exact conflict_ne _ v
    · exact hf.elim

theorem fails_updatePaymentStatus (h : StockKept s) {id : Uuid} {payment : ReportedPayment} {status : Option OrderStatus}
    {now : Time} (hf : Fails (StockRely cfg) (updatePaymentStatusTransaction id payment status now) s [] [] e) (v : Uuid) :
    e ≠ inventoryInconsistent v := by
  unfold updatePaymentStatusTransaction at hf
  rw [fails_bind] at hf
  rcases hf with hf | ⟨_, hm, hf⟩
  · rw [fails_fetchJoin hf]
    exact notFound_ne _ v
  · obtain ⟨order, _, rfl⟩ := exec_fetchJoin hm
    simp only [fails_bind, fails_ensure, exec_ensure] at hf
    rcases hf with hf | ⟨m, _, ⟨_, rfl⟩ | ⟨_, ⟨_, rfl⟩, hf | ⟨_, _, hf⟩⟩⟩
    · exact fails_nextStatusOf h hf v
    · intro he
      have := congrArg (fun e => (e.message.toList.drop 1).head?) he
      simp [inventoryInconsistent, badRequest, String.toList_append] at this
    · unfold applyNextStatus at hf
      split at hf
      · exact hf.elim
      · split at hf
        · exact hf.elim
        · rw [fails_bind] at hf
          rcases hf with hf | ⟨_, _, hf⟩
          · exact (fails_setOrderStatus hf).elim
          · exact hf.elim
    · split at hf
      · rw [fails_bind] at hf
        rcases hf with hf | ⟨_, _, hf⟩
        · exact (fails_completeReturns hf).elim
        · exact hf.elim
      · exact hf.elim

theorem fails_updateOrderStatus (h : StockKept s) {id : Uuid} {status : OrderStatus} {note : Option String} {now : Time}
    (hf : Fails (StockRely cfg) (updateOrderStatusTransaction id status note now) s [] [] e) (v : Uuid) :
    e ≠ inventoryInconsistent v := by
  unfold updateOrderStatusTransaction at hf
  rw [fails_bind] at hf
  rcases hf with hf | ⟨_, hm, hf⟩
  · rw [fails_fetchJoin hf]
    exact notFound_ne _ v
  · obtain ⟨order, _, rfl⟩ := exec_fetchJoin hm
    split at hf
    · exact hf.elim
    · simp only [fails_bind, fails_ensure, exec_ensure] at hf
      rcases hf with ⟨_, rfl⟩ | ⟨_, ⟨_, rfl⟩, hf | ⟨_, ⟨_, _, rfl⟩, hf | ⟨_, _, hf | ⟨_, _, hf⟩⟩⟩⟩
      · intro he
        have := congrArg (fun e => (e.message.toList.drop 1).head?) he
        simp [inventoryInconsistent, badRequest, String.toList_append] at this
      · exact (fails_select hf).elim
      · cases status with
        | confirmed =>
          simp only [moveWithStatus, fails_bind, fails_ensure, exec_ensure] at hf
          rcases hf with ⟨_, rfl⟩ | ⟨_, ⟨_, rfl⟩, hf⟩
          · exact conflict_ne _ v
          · exact fails_transition h hf v
        | cancelled =>
          simp only [moveWithStatus] at hf
          rw [fails_bind, fails_ensure] at hf
          rcases hf with ⟨_, rfl⟩ | ⟨_, hm, hf⟩
          · exact conflict_ne _ v
          · rw [exec_ensure] at hm
            obtain ⟨_, rfl⟩ := hm
            exact fails_cancelled h (fun L ws => fails_cancelPending) hf v
        | _ => exact hf.elim
      · exact (fails_setOrderStatus hf).elim
      · exact hf.elim

end Failures

/-! ## Every run -/

/-- The transactions that go through `transitionInventoryInTransaction`. -/
def Op.movesStock : Op → Bool
  | .updatePaymentStatus .. => true
  | .updateOrderStatus .. => true
  | _ => false

/-- **Inventory is conserved.**  In every state of every run from a shop whose shelves are in order, whatever interleaves,
the reserved quantity of every variant is the sum of its quantities over the orders whose stock is reserved, it is not
negative and not above the stock; a commit changes a stock only by committing an order, by releasing a committed one, by
the items that a return puts back, or by the admin's update; and no transaction finds the inventory inconsistent. -/
theorem inventory_conservation (cfg : Config) (e : Execution (platform cfg) Shelved fun _ => True) :
    (∀ s ∈ e.history, ∀ k v, s.find Tab.variants k = some v →
      v.reservedQuantity = ((s.rows Tab.orders).total fun _ o =>
        if o.inventoryState = .reserved then quantityOf o.items k else 0) ∧
      0 ≤ v.reservedQuantity ∧ v.reservedQuantity ≤ v.stockQuantity) ∧
    (∀ c : Commit cfg, .commit c ∈ e.events → ∀ k v w, c.before.find Tab.variants k = some v →
      c.after.find Tab.variants k = some w → StockChange c.op c.before c.after k v w) ∧
    ∀ f : Failure (platform cfg), .failed f ∈ e.events → f.op.movesStock = true → ∀ k, f.err ≠ inventoryInconsistent k := by
  refine ⟨fun s hs k v hv => ?_, fun c hc k v w hv hw => ?_, fun f hf hop k => ?_⟩
  · have hinv := e.invariant stock_keeps (fun _ h => h.stockKept) (fun _ _ => trivial) hs
    exact ⟨hinv.reserved k v hv, hinv.nonneg hv, hinv.room k v hv⟩
  · obtain ⟨h1, h2, _⟩ := e.commits stock_keeps (fun _ h => h.stockKept) (fun _ _ => trivial) c hc
    exact (stock_commit c h1 h2).changes k v w hv hw
  · obtain ⟨h1, h2⟩ := e.failures stock_keeps (fun _ h => h.stockKept) (fun _ _ => trivial) f hf
    obtain ⟨call, op, s, err⟩ := f
    cases op with
    | updatePaymentStatus id payment status now => exact fails_updatePaymentStatus h1 h2 k
    | updateOrderStatus id status note now => exact fails_updateOrderStatus h1 h2 k
    | _ => cases hop

/-! ### Two sales, one of them cancelled -/

/-- A shop that opens with five pieces of its one variant. -/
def openedShop : Db where
  rows t :=
    match t with
    | .variants => (∅ : Table Uuid Variant).insert 1 { stockQuantity := 5, reservedQuantity := 0, isActive := true }
    | _ => ∅
  log := []

theorem openedShop_shelved : Shelved openedShop := by
  refine ⟨rfl, rfl, fun k v hv => ?_⟩
  change ((∅ : Table Uuid Variant).insert 1 { stockQuantity := 5, reservedQuantity := 0, isActive := true }).lookup k = some v at hv
  by_cases hk : k = 1
  · rw [hk, AList.lookup_insert] at hv
    cases hv
    decide
  · rw [AList.lookup_insert_ne hk] at hv
    cases hv

def cartLine : CheckoutItem where
  variantId := 1
  productName := "Áo thun"
  unitPrice := 10000000
  quantity := 1
  subtotal := 10000000
  campaignId := none
  campaignDiscountType := none

/-- The customer buys the piece in the cart. -/
def saleCall (orderId key : Uuid) : Call :=
  .createOrder {
    orderId, orderCode := "BL" ++ toString orderId, itemId := .refl _, userId := 1, idempotencyKey := key, voucherCode := none
    shippingAddress := ⟨1, 1, 1⟩, now := 1 }

/-- The checkout as session `i`. -/
def sold {cfg : Config} (i : ℕ) (orderId key : Uuid) : List (Cmd (platform cfg)) :=
  [.arrive (saleCall orderId key), .go i, .answer i (.cart [cartLine] 10000000)] ++ steps i 2

/-- An administrator moves the order on, as session `i`. -/
def moved {cfg : Config} (i : ℕ) (orderId : Uuid) (status : OrderStatus) : List (Cmd (platform cfg)) :=
  .arrive (.updateOrderStatus orderId status none 2) :: steps i 2

def twoSales : Execution (platform sampleConfig) Shelved fun _ => True :=
  .ofSchedule openedShop (sold 0 1 7 ++ sold 1 2 8 ++ moved 2 2 .cancelled) openedShop_shelved fun _ _ => trivial

/-- One piece is reserved, for the order that is left. -/
theorem twoSales_conserved : ∃ v, twoSales.final.db.find Tab.variants 1 = some v ∧ v.reservedQuantity = 1 ∧
    v.reservedQuantity = ((twoSales.final.db.rows Tab.orders).total fun _ o =>
      if o.inventoryState = .reserved then quantityOf o.items 1 else 0) ∧ v.reservedQuantity ≤ v.stockQuantity := by
  have hvariant : (twoSales.final.db.find Tab.variants 1).any (fun v => v.reservedQuantity == 1) = true := by decide +kernel
  obtain ⟨v, hv, hone⟩ := (Option.any_eq_true _ _).1 hvariant
  obtain ⟨hsum, -, hroom⟩ := (inventory_conservation sampleConfig twoSales).1 _ twoSales.final_mem_history 1 v hv
  exact ⟨v, hv, beq_iff_eq.1 hone, hsum, hroom⟩

end Balii
