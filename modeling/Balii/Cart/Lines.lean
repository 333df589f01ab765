import Balii.Cart.Store
/-!
# Lines — what a customer put into a cart

A cart is to its customer a list of variants with their quantities; the rest is computed.  An `Edit` is what an operation does to
these lines, and each change that the service makes to the lines of a cart is the edit of its operation.
-/
namespace Balii.Carts

/-- Variants and quantities. -/
abbrev Lines : Type := List (String × ℕ)

def linesOf (items : List CartItem) : Lines := items.map fun item => (item.variantId, item.quantity)

/-- A cart that is not there has no lines. -/
def storedLines : Option Cart → Lines
  | none => []
  | some cart => linesOf cart.items

def State.lines (s : State) (key : String) : Lines := storedLines (s.carts.lookup key)

/-! ## Edits -/

/-- The first line of the variant, with another quantity. -/
def changeQuantity (variantId : String) (f : ℕ → ℕ) : Lines → Lines
  | [] => []
  | line :: rest => if line.1 == variantId then (line.1, f line.2) :: rest else line :: changeQuantity variantId f rest

/-- More of a variant; a new line bears the name `id`. -/
def addLine (variantId id : String) (quantity : ℕ) (x : Lines) : Lines :=
  if x.any fun line => line.1 == variantId then changeQuantity variantId (· + quantity) x else x ++ [(id, quantity)]

def mergeLines : Lines → Lines → Lines
  | x, [] => x
  | x, line :: rest => mergeLines (addLine line.1 line.1 line.2 x) rest

inductive Edit
  | keep
  | add (variantId : String) (quantity : ℕ)
  | set (variantId : String) (quantity : ℕ)
  | remove (variantId : String)
  | merge (guest : Lines)
  | clear

def Edit.apply : Edit → Lines → Lines
  | .keep, x => x
  | .add variantId quantity, x => addLine variantId (canonicalId variantId) quantity x
  | .set variantId quantity, x => changeQuantity variantId (fun _ => quantity) x
  | .remove variantId, x => x.filter fun line => line.1 != variantId
  | .merge guest, x => mergeLines x guest
  | .clear, _ => []

/-- The edit changes lines of the variant. -/
def Edit.Touches (v : String) : Edit → Prop
  | .keep => False
  | .add variantId _ => variantId = v ∨ canonicalId variantId = v
  | .set variantId _ => variantId = v
  | .remove variantId => variantId = v
  | .merge guest => v ∈ guest.map Prod.fst
  | .clear => True

/-- The lines of one variant. -/
def linesFor (v : String) (x : Lines) : Lines := x.filter fun line => line.1 == v

section Frame
variable {v variantId id : String} {quantity : ℕ} {x : Lines}

theorem linesFor_changeQuantity {f : ℕ → ℕ} (h : variantId ≠ v) : linesFor v (changeQuantity variantId f x) = linesFor v x := by
  induction x with
  | nil => rfl
  | cons line rest ih =>
    unfold changeQuantity
    by_cases hline : line.1 = variantId
    · have hother : (line.1 == v) = false := by
        rw [hline]
        simp [h]
      rw [if_pos (by simp [hline])]
      simp only [linesFor, List.filter_cons, hother, Bool.false_eq_true, if_false]
    · rw [if_neg (by simp [hline])]
      unfold linesFor at ih ⊢
      rw [List.filter_cons, List.filter_cons, ih]

theorem linesFor_addLine (h : variantId ≠ v) (hid : id ≠ v) : linesFor v (addLine variantId id quantity x) = linesFor v x := by
  unfold addLine
  split
  · exact linesFor_changeQuantity h
  · have hnew : (id == v) = false := by simp [hid]
    simp [linesFor, hnew]

theorem linesFor_mergeLines {guest : Lines} (h : v ∉ guest.map Prod.fst) : linesFor v (mergeLines x guest) = linesFor v x := by
  induction guest generalizing x with
  | nil => rfl
  | cons line rest ih =>
    rw [List.map_cons, List.mem_cons, not_or] at h
    have hline : line.1 ≠ v := fun heq => h.1 heq.symm
    exact (ih h.2).trans (linesFor_addLine hline hline)

/-- **An edit leaves the lines of other variants alone.** -/
theorem linesFor_apply {e : Edit} (h : ¬ e.Touches v) : linesFor v (e.apply x) = linesFor v x := by
  cases e with
  | keep => rfl
  | add variantId quantity => exact linesFor_addLine (fun heq => h (.inl heq)) fun heq => h (.inr heq)
  | set variantId quantity => exact linesFor_changeQuantity h
  | remove variantId =>
    simp only [Edit.apply, linesFor, List.filter_filter]
    refine List.filter_congr fun line _ => ?_
    by_cases hline : line.1 = v
    · have hother : line.1 ≠ variantId := fun heq => h (heq.symm.trans hline)
      simp [hline, hline ▸ hother]
    · simp [hline]
  | merge guest => exact linesFor_mergeLines h
  | clear => exact absurd trivial h

end Frame

/-! ## The changes of the service -/

section Changes
variable {items items' guest : List CartItem} {variantId : String} {quantity : ℕ}

theorem linesOf_changeItem {f : CartItem → CartItem} {g : ℕ → ℕ}
    (h : ∀ item, (f item).variantId = item.variantId ∧ (f item).quantity = g item.quantity) :
    linesOf (changeItem variantId f items) = changeQuantity variantId g (linesOf items) := by
  induction items with
  | nil => rfl
  | cons item rest ih =>
    unfold linesOf at ih ⊢
    simp only [changeItem, List.map_cons, changeQuantity]
    split
    · simp [h item]
    · rw [List.map_cons, ih]

/-- The quantity read is that of the line that is changed. -/
theorem changeQuantity_found {item : CartItem} (h : findItem variantId items = some item) :
    changeQuantity variantId (fun _ => item.quantity + quantity) (linesOf items) = changeQuantity variantId (· + quantity) (linesOf items) := by
  induction items with
  | nil => cases h
  | cons x rest ih =>
    unfold findItem at h ih
    unfold linesOf at ih ⊢
    simp only [List.map_cons, changeQuantity]
    rw [List.find?_cons] at h
    cases hx : x.variantId == variantId with
    | true =>
      rw [hx] at h
      cases h
      rfl
    | false =>
      rw [hx] at h
      simp only [Bool.false_eq_true, if_false]
      rw [ih h]

theorem any_linesOf : ((linesOf items).any fun line => line.1 == variantId) = (findItem variantId items).isSome := by
  induction items with
  | nil => rfl
  | cons x rest ih =>
    unfold linesOf findItem at ih ⊢
    rw [List.map_cons, List.any_cons, List.find?_cons, ih]
    cases x.variantId == variantId <;> rfl

/-- A line that is there is made more of. -/
theorem linesOf_addMore {item : CartItem} {f : CartItem → CartItem} (h : findItem variantId items = some item) (id : String)
    (hf : ∀ x, (f x).variantId = x.variantId ∧ (f x).quantity = item.quantity + quantity) :
    linesOf (changeItem variantId f items) = addLine variantId id quantity (linesOf items) := by
  unfold addLine
  rw [if_pos (by rw [any_linesOf, h]; rfl), linesOf_changeItem (g := fun _ => item.quantity + quantity) hf, changeQuantity_found h]

theorem linesOf_addNew {item : CartItem} (h : findItem variantId items = none) :
    linesOf (items ++ [item]) = addLine variantId item.variantId item.quantity (linesOf items) := by
  unfold addLine
  rw [if_neg (by rw [any_linesOf, h]; exact Bool.false_ne_true)]
  simp [linesOf]

theorem linesOf_filter : linesOf (items.filter fun item => item.variantId != variantId) =
    (linesOf items).filter fun line => line.1 != variantId := by
  unfold linesOf
  rw [List.filter_map]
  rfl

theorem linesOf_mergeItems (h : mergeItems items guest = .ok items') : linesOf items' = mergeLines (linesOf items) (linesOf guest) := by
  induction guest generalizing items with
  | nil =>
    cases h
    rfl
  | cons item rest ih =>
    unfold mergeItems at h
    have hcons : linesOf (item :: rest) = (item.variantId, item.quantity) :: linesOf rest := rfl
    rw [hcons, mergeLines]
    split at h
    · rename_i found hfound
      rw [ih h]
      congr 1
      unfold addLine
      rw [if_pos (by rw [any_linesOf, hfound]; rfl)]
      exact linesOf_changeItem fun x => ⟨rfl, rfl⟩
    · rename_i hfound
      split at h
      · cases h
      · rw [ih h, linesOf_addNew hfound]

theorem linesOf_priced {shop : Shop} (h : items.mapM (priceItem shop) = .ok items') : linesOf items' = linesOf items := by
  induction items generalizing items' with
  | nil =>
    cases h
    rfl
  | cons item rest ih =>
    rw [List.mapM_cons] at h
    cases hitem : priceItem shop item with
    | error e =>
      rw [hitem] at h
      cases h
    | ok priced =>
      rw [hitem] at h
      cases hrest : rest.mapM (priceItem shop) with
      | error e =>
        rw [hrest] at h
        cases h
      | ok rest' =>
        rw [hrest] at h
        cases h
        have hline : priced.variantId = item.variantId ∧ priced.quantity = item.quantity := by
          unfold priceItem at hitem
          cases hvariant : getVariantSnapshot shop item.variantId with
          | error e =>
            rw [hvariant] at hitem
            cases hitem
          | ok variant =>
            rw [hvariant] at hitem
            cases hitem
            exact ⟨rfl, rfl⟩
        have htail := ih hrest
        unfold linesOf at htail ⊢
        rw [List.map_cons, List.map_cons, htail, hline.1, hline.2]

theorem linesOf_refreshItems {shop : Shop} (h : refreshItems shop items = .ok items') : linesOf items' = linesOf items := by
  induction items generalizing items' with
  | nil =>
    cases h
    rfl
  | cons item rest ih =>
    unfold refreshItems at h
    cases hvariant : validateVariantStock shop item.variantId item.quantity with
    | error e =>
      rw [hvariant] at h
      cases h
    | ok variant =>
      rw [hvariant] at h
      cases hrest : refreshItems shop rest with
      | error e =>
        rw [hrest] at h
        cases h
      | ok rest' =>
        rw [hrest] at h
        cases h
        have htail := ih hrest
        unfold linesOf at htail ⊢
        rw [List.map_cons, List.map_cons, htail]
        rfl

end Changes

end Balii.Carts
