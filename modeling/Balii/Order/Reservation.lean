import Balii.Order.Stock
/-!
# Order.Reservation — when the lines of a checkout can be reserved

With nobody else about, the loop of a checkout goes through exactly when the stock of each variant is enough for all its lines.
-/
namespace Balii

open Rowdb Tx Sql

variable {s : Db} {ctx : AuditContext} {items : List CheckoutItem}

theorem exec_or_fails {α : Type} (t : Trans α) (s : Db) (L : List (LockKey schema)) (ws : List (Write schema)) :
    (∃ o, Exec (fun _ a b => a = b) t s L ws o) ∨ ∃ e, Fails (fun _ a b => a = b) t s L ws e := by
  have hrun := exec_of_run (R := fun _ a b => a = b) (s := s) (fun _ => rfl) t L ws
  split at hrun
  · rename_i o _
    exact .inl ⟨o, hrun⟩
  · rename_i e _
    exact .inr ⟨e, hrun⟩

theorem fails_reserveItem {item : CheckoutItem} {L : List (LockKey schema)} {ws : List (Write schema)} {e : Err}
    (h : Fails (fun _ a b => a = b) (reserveItem ctx item) s L ws e) :
    ((written ws s).find Tab.variants item.variantId).any
      (fun v => v.isActive && decide (item.quantity ≤ v.stockQuantity - v.reservedQuantity)) = false := by
  unfold reserveItem at h
  rcases (fails_bind _ _ _ _ _).1 h with h | ⟨m, hm, h⟩
  · exact absurd h fails_updateVariantWhere
  · rcases exec_updateVariantWhere hm with ⟨hdone, _⟩ | ⟨_, _, hmiss | ⟨_, rfl, hmiss⟩⟩
    · exact absurd hdone (fails_ensure.1 h).1
    · exact hmiss
    · exact hmiss

/-- The units that the lines ask of a variant. -/
def asked (items : List CheckoutItem) (k : Uuid) : ℤ := lineSum CheckoutItem.variantId CheckoutItem.quantity items k

theorem asked_append (d rest : List CheckoutItem) (k : Uuid) : asked (d ++ rest) k = asked d k + asked rest k := by
  unfold asked lineSum
  rw [List.filter_append, List.map_append, List.sum_append]

theorem asked_cons (x : CheckoutItem) (rest : List CheckoutItem) (k : Uuid) :
    asked (x :: rest) k = (if x.variantId = k then x.quantity else 0) + asked rest k := by
  unfold asked lineSum
  rw [List.filter_cons]
  by_cases h : x.variantId = k <;> simp [h]

theorem asked_nonneg (h : ∀ x ∈ items, 0 ≤ x.quantity) (k : Uuid) : 0 ≤ asked items k := by
  induction items with
  | nil => exact le_rfl
  | cons x rest ih =>
    obtain ⟨hx, hrest⟩ := List.forall_mem_cons.1 h
    have := ih hrest
    rw [asked_cons]
    split <;> omega

theorem foldLines_asked (items : List CheckoutItem) (k : Uuid) (v : Variant) :
    foldLines CheckoutItem.variantId (fun i => Variant.reserve i.quantity) items k v = v.reserve (asked items k) :=
  foldLines_reserve items k v

/-- The stock of every variant is enough for all that the lines ask of it. -/
def EnoughFor (s : Db) (items : List CheckoutItem) : Prop :=
  ∀ k v, s.find Tab.variants k = some v → asked items k ≤ v.stockQuantity - v.reservedQuantity

theorem enough_of_exec {o : Outcome (LockKey schema) (Write schema) Unit} (hbalanced : EnoughFor s [])
    (h : Exec (fun _ a b => a = b) (each (reserveItem ctx) items) s [] [] o) : EnoughFor s items := by
  obtain ⟨-, -, hguards⟩ := exec_variantLoop (fun x L ws o => exec_reserveItem) h
  have hprefix : ∀ d rest, items = d ++ rest → EnoughFor s d := by
    intro d
    induction d using List.reverseRecOn with
    | nil => exact fun _ _ => hbalanced
    | append_singleton d x ih =>
      intro rest hitems k v hv
      rw [List.append_assoc] at hitems
      rw [asked_append]
      by_cases hx : x.variantId = k
      · subst hx
        have hguard := hguards d x rest hitems v hv
        rw [foldLines_asked] at hguard
        have hroom := of_decide_eq_true (Bool.and_eq_true_iff.1 hguard).2
        simp only [Variant.reserve] at hroom
        rw [asked_cons, if_pos rfl]
        change _ + (x.quantity + 0) ≤ _
        omega
      · rw [asked_cons, if_neg hx]
        change asked d k + 0 ≤ _
        rw [add_zero]
        exact ih _ hitems k v hv
  exact hprefix items [] (List.append_nil items).symm

/-- **The loop goes through if the stock is enough.** -/
theorem exec_of_enough (hquantity : ∀ x ∈ items, 0 ≤ x.quantity)
    (hactive : ∀ x ∈ items, ∃ v, s.find Tab.variants x.variantId = some v ∧ v.isActive = true) (h : EnoughFor s items) :
    ∃ o, Exec (fun _ a b => a = b) (each (reserveItem ctx) items) s [] [] o := by
  rcases exec_or_fails (each (reserveItem ctx) items) s [] [] with hexec | ⟨e, hfails⟩
  · exact hexec
  exfalso
  have hloop := fails_each (J := fun d _ ws => ∀ k, (written ws s).find Tab.variants k =
      (s.find Tab.variants k).map (foldLines CheckoutItem.variantId (fun i => Variant.reserve i.quantity) d k)) ?_ items [] ?_ hfails
  · obtain ⟨d, x, rest, L, ws, hitems, hreserved, hx⟩ := hloop
    rw [List.nil_append] at hitems
    subst hitems
    obtain ⟨v, hv, hactive⟩ := hactive x (by simp)
    have hmiss := fails_reserveItem hx
    rw [hreserved, hv, Option.map_some, foldLines_asked] at hmiss
    have hroom := h x.variantId v hv
    rw [asked_append, asked_cons, if_pos rfl] at hroom
    have hrest : 0 ≤ asked rest x.variantId := asked_nonneg (fun y hy => hquantity y (by simp [hy])) x.variantId
    simp only [Option.any_some, Variant.reserve, hactive, Bool.true_and, decide_eq_false_iff_not, not_le] at hmiss
    omega
  · intro d x L ws o hreserved hx k
    obtain ⟨v, hv, -, hafter⟩ := exec_reserveItem hx
    rw [hafter k]
    by_cases hk : k = x.variantId
    · subst hk
      rw [hreserved] at hv
      obtain ⟨v₀, hv₀, rfl⟩ := Option.map_eq_some_iff.1 hv
      rw [if_pos rfl, hv₀, Option.map_some, foldLines_concat, if_pos rfl]
    · have hother : foldLines CheckoutItem.variantId (fun i => Variant.reserve i.quantity) (d ++ [x]) k =
          foldLines CheckoutItem.variantId (fun i => Variant.reserve i.quantity) d k := by
        funext v
        rw [foldLines_concat, if_neg (Ne.symm hk)]
      rw [if_neg hk, hreserved k, hother]
  · exact fun k => Option.map_id'.symm

/-- **The lines can be reserved exactly when the stock is enough for them.** -/
theorem reserved_iff (hbalanced : EnoughFor s []) (hquantity : ∀ x ∈ items, 0 ≤ x.quantity)
    (hactive : ∀ x ∈ items, ∃ v, s.find Tab.variants x.variantId = some v ∧ v.isActive = true) :
    (∃ o, Exec (fun _ a b => a = b) (each (reserveItem ctx) items) s [] [] o) ↔ EnoughFor s items :=
  ⟨fun ⟨_, h⟩ => enough_of_exec hbalanced h, exec_of_enough hquantity hactive⟩

end Balii
