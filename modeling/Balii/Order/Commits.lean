import Balii.Footprint
import Mathlib.Data.List.Dedup
/-!
# Order.Commits — what the transactions of the order service commit to

An order moves with its stock, its voucher and its payments.  `StatusMove` says once, for both transactions that change an
order's status, what such a move does to all four tables; the transactions are then one case each.
-/
namespace Balii

open Rowdb Tx Sql

variable {R : List (LockKey schema) → Db → Db → Prop} {s : Db} {L : List (LockKey schema)} {ws : List (Write schema)}

/-! ## Stock -/

/-- A conditional update of a variant that took place. -/
theorem exec_updateVariantWhere {ctx : AuditContext} {id : Uuid} {p : Variant → Bool} {f : Variant → Variant}
    {o : Outcome (LockKey schema) (Write schema) Bool} (h : Exec R (updateVariantWhere ctx id p f) s L ws o) :
    (o.val = true ∧ ∃ v, (written ws s).find Tab.variants id = some v ∧ p v = true ∧
        ∀ k, (written o.writes s).find Tab.variants k =
          if k = id then some (f v) else (written ws s).find Tab.variants k) ∨
      (o.val = false ∧ o.writes = ws ∧ (((written ws s).find Tab.variants id).any p = false ∨
        ∃ s₀, R L s₀ s ∧ ((written ws s₀).find Tab.variants id).any p = false)) := by
  unfold updateVariantWhere at h
  rw [exec_bind] at h
  obtain ⟨m, hm, h⟩ := h
  rcases exec_updateWhere hm with ⟨hv, hw, _, hmiss⟩ | ⟨v, hv, hp, rfl⟩
  · rw [hv] at h
    cases h
    exact .inr ⟨rfl, hw, hmiss⟩
  · simp only [exec_bind, exec_pure] at h
    obtain ⟨a, ha, rfl⟩ := h
    cases exec_audit.1 ha
    refine .inl ⟨rfl, v, hv, hp, fun k => ?_⟩
    rw [written_append, Database.find_of_rows (D := schema) (rows_movementWrites ctx id v (f v) _ Tab.variants), written_append,
      written_cons, written_nil, find_update]
    split
    · rename_i hk
      subst hk
      rw [hv]
      rfl
    · rfl

/-- The changes of a list of lines to one variant. -/
def foldLines {ι : Type} (key : ι → Uuid) (f : ι → Variant → Variant) (lines : List ι) (k : Uuid) (v : Variant) : Variant :=
  lines.foldl (fun v e => if key e = k then f e v else v) v

theorem foldLines_concat {ι : Type} (key : ι → Uuid) (f : ι → Variant → Variant) (d : List ι) (x : ι) (k : Uuid) (v : Variant) :
    foldLines key f (d ++ [x]) k v = if key x = k then f x (foldLines key f d k v) else foldLines key f d k v := by
  unfold foldLines
  rw [List.foldl_append]
  rfl

/-- **A loop of conditional updates**, one for each line: every variant goes through its own lines, each under its guard. -/
theorem exec_variantLoop {ι : Type} {body : ι → Trans Unit} {key : ι → Uuid} {p : ι → Variant → Bool} {f : ι → Variant → Variant}
    (hbody : ∀ (x : ι) (L : List (LockKey schema)) (ws : List (Write schema)) (o : Outcome (LockKey schema) (Write schema) Unit),
      Exec R (body x) s L ws o → ∃ v, (written ws s).find Tab.variants (key x) = some v ∧ p x v = true ∧
        ∀ k, (written o.writes s).find Tab.variants k =
          if k = key x then some (f x v) else (written ws s).find Tab.variants k)
    {lines : List ι} {o : Outcome (LockKey schema) (Write schema) Unit} (h : Exec R (each body lines) s L ws o) :
    (∀ k, (written o.writes s).find Tab.variants k = ((written ws s).find Tab.variants k).map (foldLines key f lines k)) ∧
      (∀ x ∈ lines, ((written ws s).find Tab.variants (key x)).isSome = true) ∧
      ∀ d x rest, lines = d ++ x :: rest → ∀ v, (written ws s).find Tab.variants (key x) = some v →
        p x (foldLines key f d (key x) v) = true := by
  have hloop := exec_each (f := body) (s := s) (R := R) (J := fun d _ ws' =>
      (∀ k, (written ws' s).find Tab.variants k = ((written ws s).find Tab.variants k).map (foldLines key f d k)) ∧
      (∀ x ∈ d, ((written ws s).find Tab.variants (key x)).isSome = true) ∧
      ∀ d' x rest, d = d' ++ x :: rest → ∀ v, (written ws s).find Tab.variants (key x) = some v →
        p x (foldLines key f d' (key x) v) = true) ?_ lines [] ?_ h
  · exact hloop
  · rintro d x L' ws' o' ⟨h1, h2, h3⟩ ho'
    obtain ⟨v, hv, hp, hafter⟩ := hbody x L' ws' o' ho'
    rw [h1] at hv
    obtain ⟨v₀, hv₀, rfl⟩ := Option.map_eq_some_iff.1 hv
    refine ⟨fun k => ?_, fun y hy => ?_, fun d' y rest heq u hu => ?_⟩
    · rw [hafter k]
      by_cases hk : k = key x
      · subst hk
        rw [if_pos rfl, hv₀, Option.map_some, foldLines_concat, if_pos rfl]
      · have heq : foldLines key f (d ++ [x]) k = foldLines key f d k := by
          funext v
          rw [foldLines_concat, if_neg (Ne.symm hk)]
        rw [if_neg hk, h1 k, heq]
    · rcases List.mem_append.1 hy with hy | hy
      · exact h2 y hy
      · cases List.mem_singleton.1 hy
        rw [hv₀]
        rfl
    · rcases List.eq_nil_or_concat rest with rfl | ⟨rest', z, rfl⟩
      · obtain ⟨rfl, hxy⟩ := List.append_inj' heq rfl
        cases hxy
        rw [hv₀] at hu
        cases hu
        exact hp
      · have heq' : d ++ [x] = (d' ++ y :: rest') ++ [z] := by rw [heq]; simp
        obtain ⟨rfl, _⟩ := List.append_inj' heq' rfl
        exact h3 d' y rest' rfl u hu
  · refine ⟨fun k => ?_, fun x hx => (nomatch hx), fun d x rest heq => ?_⟩
    · cases (written ws s).find Tab.variants k <;> rfl
    · exact absurd heq (by simp)

theorem foldLines_nodup (g : ℤ → Variant → Variant) (q : Uuid → ℤ) (k : Uuid) : ∀ (l : List Uuid), l.Nodup → ∀ v,
    foldLines Prod.fst (fun e : Uuid × ℤ => g e.2) (l.map fun i => (i, q i)) k v = if k ∈ l then g (q k) v else v
  | [], _, v => rfl
  | i :: l, h, v => by
    rw [List.nodup_cons] at h
    show foldLines _ _ (l.map fun i => (i, q i)) k (if i = k then g (q i) v else v) = _
    rw [foldLines_nodup g q k l h.2]
    by_cases hk : i = k
    · subst hk
      rw [if_pos rfl, if_neg h.1, if_pos List.mem_cons_self]
    · rw [if_neg hk]
      simp [Ne.symm hk]

/-! ### Quantities -/

theorem quantityOf_of_notMem {items : List OrderItem} {k : Uuid} (h : k ∉ items.map fun i => i.variantId) :
    quantityOf items k = 0 := by
  have hnil : (items.filter fun i => i.variantId = k) = [] := by
    rw [List.filter_eq_nil_iff]
    intro i hi hik
    exact h (List.mem_map.2 ⟨i, hi, of_decide_eq_true hik⟩)
  unfold quantityOf
  rw [hnil]
  rfl

theorem quantityOf_cons (i : OrderItem) (items : List OrderItem) (k : Uuid) :
    quantityOf (i :: items) k = (if i.variantId = k then i.quantity else 0) + quantityOf items k := by
  unfold quantityOf
  by_cases h : i.variantId = k <;> simp [h]

theorem quantityOf_nonneg {items : List OrderItem} (h : ∀ i ∈ items, 0 < i.quantity) (k : Uuid) : 0 ≤ quantityOf items k := by
  induction items with
  | nil => exact le_refl _
  | cons i items ih =>
    have hi := h i List.mem_cons_self
    have := ih fun j hj => h j (List.mem_cons_of_mem _ hj)
    rw [quantityOf_cons]
    split <;> omega

theorem move_zero (target : InventoryTarget) (current : InventoryState) (v : Variant) : v.move target current 0 = v := by
  cases target <;> cases current <;> simp [Variant.move]

/-- Moving an order's lines variant by variant moves each variant by the order's whole quantity of it. -/
theorem foldLines_itemsByVariant (target : InventoryTarget) (current : InventoryState) (items : List OrderItem) (k : Uuid)
    (v : Variant) : foldLines Prod.fst (fun e => Variant.move target current e.2) (itemsByVariant items) k v =
      v.move target current (quantityOf items k) := by
  unfold itemsByVariant
  rw [foldLines_nodup (Variant.move target current) (quantityOf items) k _ (List.nodup_dedup _)]
  split
  · rfl
  · rename_i hk
    rw [List.mem_dedup] at hk
    rw [quantityOf_of_notMem hk, move_zero]

/-! ### Moving an order's stock -/

/-- The stock of the order was where it should go, or every variant moved by the order's quantity of it. -/
def StockMoved (a b : Db) (order : Order) (target : InventoryTarget) : Prop :=
  (order.inventoryState = target.state ∧ b.rows Tab.variants = a.rows Tab.variants) ∨
    (target.from order.inventoryState = true ∧
      (∀ i ∈ order.items, (a.find Tab.variants i.variantId).isSome = true) ∧
      ∀ k, b.find Tab.variants k =
        (a.find Tab.variants k).map (Variant.move target order.inventoryState (quantityOf order.items k)))

def Order.withInventory (state : InventoryState) (now : Time) (o : Order) : Order :=
  if o.inventoryState = state then o else { o with inventoryState := state, updatedAt := now }

theorem exec_moveVariant {ctx : AuditContext} {target : InventoryTarget} {current : InventoryState} {item : Uuid × ℤ}
    {o : Outcome (LockKey schema) (Write schema) Unit} (h : Exec R (moveVariant ctx target current item) s L ws o) :
    ∃ v, (written ws s).find Tab.variants item.1 = some v ∧ Variant.canMove target current item.2 v = true ∧
      ∀ k, (written o.writes s).find Tab.variants k =
        if k = item.1 then some (Variant.move target current item.2 v) else (written ws s).find Tab.variants k := by
  unfold moveVariant at h
  simp only [exec_bind, exec_ensure] at h
  obtain ⟨m, hm, hv, rfl⟩ := h
  rcases exec_updateVariantWhere hm with ⟨_, hmoved⟩ | ⟨hno, _⟩
  · exact hmoved
  · rw [hv] at hno
    cases hno

/-- **`transitionInventoryInTransaction` commits** to the whole move of the order's stock, and notes it in the order. -/
theorem exec_transition {id : Uuid} {target : InventoryTarget} {now : Time}
    {o : Outcome (LockKey schema) (Write schema) Unit} (h : Exec R (transitionInventoryInTransaction id target now) s L ws o) :
    ∃ order, (written ws s).find Tab.orders id = some order ∧ StockMoved (written ws s) (written o.writes s) order target ∧
      (written o.writes s).rows Tab.orders = ((written ws s).rows Tab.orders).modify id (Order.withInventory target.state now) := by
  unfold transitionInventoryInTransaction at h
  rw [exec_bind] at h
  obtain ⟨_, h1, h⟩ := h
  obtain ⟨order, ho, rfl⟩ := exec_fetch h1
  refine ⟨order, ho, ?_⟩
  split at h
  · rename_i hstate
    cases h
    refine ⟨.inl ⟨hstate, rfl⟩, (AList.modify_eq_self fun r hr => ?_).symm⟩
    cases Option.some.inj (ho.symm.trans hr)
    exact if_pos hstate
  · rename_i hstate
    simp only [exec_bind, exec_ensure, exec_update] at h
    obtain ⟨_, ⟨hfrom, rfl⟩, m, hm, rfl⟩ := h
    obtain ⟨hmoved, hthere, _⟩ := exec_variantLoop (fun x L ws o => exec_moveVariant) hm
    have horders := rows_of_exec (t := Tab.orders) hm (writes_each fun item _ => writes_moveVariant _ _ _ item) (by decide)
    refine ⟨.inr ⟨hfrom, fun i hi => ?_, fun k => ?_⟩, ?_⟩
    · have hmem : (i.variantId, quantityOf order.items i.variantId) ∈ itemsByVariant order.items :=
        List.mem_map.2 ⟨_, List.mem_dedup.2 (List.mem_map.2 ⟨i, hi, rfl⟩), rfl⟩
      exact hthere _ hmem
    · rw [written_append, written_cons, written_nil, find_apply _ _ (by simp [Write.tab?]), hmoved k]
      congr 1
      funext v
      exact foldLines_itemsByVariant _ _ _ _ _
    · rw [written_append, written_cons, written_nil, rows_update, horders]
      refine AList.modify_congr fun r hr => ?_
      cases Option.some.inj (ho.symm.trans hr)
      exact (if_neg hstate).symm

/-! ## Rows updated one by one -/

/-- A loop of conditional updates of single rows, by one change and under one condition: a row keeps its value, or it met
the condition and changed once. -/
theorem exec_updateLoop {t : Tab} {p : t.Row → Bool} {f : t.Row → t.Row} (honce : ∀ r, p r = true → p (f r) = false)
    {rows : List (t.Key × t.Row)} {o : Outcome (LockKey schema) (Write schema) Unit}
    (h : Exec R (each (fun e : t.Key × t.Row => (do let _ ← updateRowWhere t e.1 p f; pure () : Trans Unit)) rows) s L ws o)
    (k : t.Key) :
    (written o.writes s).find t k = (written ws s).find t k ∨
      ∃ r, (written ws s).find t k = some r ∧ p r = true ∧ (written o.writes s).find t k = some (f r) := by
  refine exec_each (J := fun _ _ ws' => (written ws' s).find t k = (written ws s).find t k ∨
      ∃ r, (written ws s).find t k = some r ∧ p r = true ∧ (written ws' s).find t k = some (f r)) ?_ rows [] (.inl rfl) h
  intro d e L' ws' o' hJ ho'
  simp only [exec_bind, exec_pure] at ho'
  obtain ⟨m, hm, rfl⟩ := ho'
  rcases exec_updateWhere hm with ⟨_, hw, _⟩ | ⟨r, hr, hp, rfl⟩
  · rwa [hw]
  · simp only [written_append, written_cons, written_nil]
    rw [find_update]
    by_cases hk : k = e.1
    · subst hk
      rw [if_pos rfl, hr]
      rcases hJ with hJ | ⟨r₀, _, hp₀, hJ⟩
      · exact .inr ⟨r, by rw [← hJ, hr], hp, rfl⟩
      · rw [hr] at hJ
        cases hJ
        rw [honce r₀ hp₀] at hp
        cases hp
    · rw [if_neg hk]
      exact hJ

theorem exec_cancelPending {id : Uuid} {o : Outcome (LockKey schema) (Write schema) Unit}
    (h : Exec R (cancelPendingPaymentsInTransaction id) s L ws o) (k : Uuid) :
    (written o.writes s).find Tab.payments k = (written ws s).find Tab.payments k ∨
      ∃ p, (written ws s).find Tab.payments k = some p ∧ (p.orderId = id ∧ p.status = .pending) ∧
        (written o.writes s).find Tab.payments k = some p.cancel := by
  unfold cancelPendingPaymentsInTransaction at h
  rw [exec_bind] at h
  obtain ⟨_, ⟨_, _, rfl⟩, h⟩ := h
  have hloop := exec_updateLoop (t := Tab.payments) (fun p _ => by simp [Payment.cancel]) h k
  simpa using hloop

/-- A cancellation reaches the payments of the order that are pending, if whatever it peeks at with the order locked has them pending
too. -/
def PaymentsReached (R : List (LockKey schema) → Db → Db → Prop) (s b : Db) (id : Uuid) : Prop :=
  ∀ k p, s.find Tab.payments k = some p → p.orderId = id → p.status = .pending →
    (∀ L s₀, LockKey.row (D := schema) Tab.orders id ∈ L → R L s₀ s →
      ∃ p₀, s₀.find Tab.payments k = some p₀ ∧ p₀.orderId = id ∧ p₀.status = .pending) →
    b.find Tab.payments k = some p.cancel

/-- Along the loop of a cancellation: the order stays locked; before the turn of a payment nothing is written to it, and from then on
it is cancelled. -/
structure PaymentTurn (s : Db) (id k : Uuid) (p : Payment) (d : List (Uuid × Payment)) (L : List (LockKey schema))
    (ws : List (Write schema)) : Prop where
  locked : LockKey.row (D := schema) Tab.orders id ∈ L
  cancelled : ∀ e ∈ d, e.1 = k → (written ws s).find Tab.payments k = some p.cancel
  untouched : (∀ e ∈ d, e.1 ≠ k) → ∀ w ∈ ws, LockKey.row (D := schema) Tab.payments k ∉ w.keys

/-- **One turn of the loop.** -/
theorem paymentTurn_step {id k : Uuid} {p : Payment} {d : List (Uuid × Payment)} {e : Uuid × Payment}
    {m : Outcome (LockKey schema) (Write schema) (Option Payment)}
    (h : PaymentTurn s id k p d L ws) (hp : s.find Tab.payments k = some p) (hid : p.orderId = id) (hpend : p.status = .pending)
    (hseen : ∀ L s₀, LockKey.row (D := schema) Tab.orders id ∈ L → R L s₀ s →
      ∃ p₀, s₀.find Tab.payments k = some p₀ ∧ p₀.orderId = id ∧ p₀.status = .pending)
    (hm : Exec R (updateRowWhere .payments e.1 (fun p => p.orderId == id && p.status == .pending) Payment.cancel) s L ws m) :
    PaymentTurn s id k p (d ++ [e]) m.locks m.writes := by
  have hbefore : (∀ x ∈ d ++ [e], x.1 ≠ k) → ∀ x ∈ d, x.1 ≠ k := fun hx x hd => hx x (List.mem_append_left _ hd)
  rcases exec_updateWhere hm with ⟨_, hw, ⟨K, hK⟩, hskipped⟩ | ⟨r, hr, hmet, rfl⟩
  · refine ⟨hK ▸ List.mem_append_right K h.locked, fun x hx hk => ?_, fun hx => hw ▸ h.untouched (hbefore hx)⟩
    rw [hw]
    rcases List.mem_append.1 hx with hx | hx
    · exact h.cancelled x hx hk
    obtain rfl := List.mem_singleton.1 hx
    by_contra hmissed
    -- it has not been written to, and it is pending now and whenever it was peeked at
    have hfirst : ∀ y ∈ d, y.1 ≠ k := fun y hy heq => hmissed (h.cancelled y hy heq)
    have hsame : ∀ a : Db, (written ws a).find Tab.payments x.1 = a.find Tab.payments k := fun a =>
      hk ▸ find_written_of_notMem a (hk ▸ h.untouched hfirst)
    rcases hskipped with hskipped | ⟨s₁, hs₁, hskipped⟩
    · rw [hsame, hp] at hskipped
      simp [hid, hpend] at hskipped
    · obtain ⟨p₁, hp₁, hid₁, hpend₁⟩ := hseen L s₁ h.locked hs₁
      rw [hsame, hp₁] at hskipped
      simp [hid₁, hpend₁] at hskipped
  · refine ⟨List.mem_cons_of_mem _ (List.mem_cons_of_mem _ h.locked), fun x hx hk => ?_, fun hx v hv => ?_⟩
    · rw [written_append, written_cons, written_nil, find_update]
      by_cases hke : k = e.1
      · rw [if_pos hke, hke, hr]
        by_cases hd : ∃ y ∈ d, y.1 = k
        · obtain ⟨y, hy, heq⟩ := hd
          have hcancelled := h.cancelled y hy heq
          rw [hke, hr] at hcancelled
          rw [Option.some.inj hcancelled] at hmet
          simp [Payment.cancel] at hmet
        · have hfirst := find_written_of_notMem s (h.untouched fun y hy heq => hd ⟨y, hy, heq⟩)
          rw [hke, hr, ← hke, hp] at hfirst
          rw [Option.some.inj hfirst]
          rfl
      · rw [if_neg hke]
        rcases List.mem_append.1 hx with hx | hx
        · exact h.cancelled x hx hk
        · obtain rfl := List.mem_singleton.1 hx
          exact absurd hk.symm hke
    · rcases List.mem_append.1 hv with hv | hv
      · exact h.untouched (hbefore hx) v hv
      · obtain rfl := List.mem_singleton.1 hv
        intro hk
        obtain heq := List.mem_singleton.1 hk
        cases heq
        exact hx e (List.mem_append_right _ (List.mem_singleton_self e)) rfl

/-- **A cancellation reaches the pending payments of an order that is locked before its snapshot.** -/
theorem exec_cancelPending_reached {id : Uuid} {o : Outcome (LockKey schema) (Write schema) Unit}
    (h : Exec R (cancelPendingPaymentsInTransaction id) s L ws o) (hL : LockKey.row (D := schema) Tab.orders id ∈ L)
    (hws : ∀ w ∈ ws, w.tab? ≠ some Tab.payments) : PaymentsReached R s (written o.writes s) id := by
  intro k p hp hid hpend hseen
  unfold cancelPendingPaymentsInTransaction at h
  rw [exec_bind] at h
  obtain ⟨_, ⟨s₀, hs₀, rfl⟩, h⟩ := h
  obtain ⟨p₀, hp₀, hid₀, hpend₀⟩ := hseen L s₀ hL hs₀
  have hlisted : (k, p₀) ∈ ((written ws s₀).rows Tab.payments).select fun _ p => p.orderId == id && p.status == .pending := by
    refine AList.mem_select.2 ⟨(find_written s₀ k hws).trans hp₀, ?_⟩
    rw [hid₀, hpend₀]
    simp
  have hstart : PaymentTurn s id k p [] L ws :=
    ⟨hL, List.forall_mem_nil _, fun _ w hw hk => hws w hw (Write.tab_of_mem_keys hk)⟩
  refine (exec_each (PaymentTurn s id k p) ?_ _ [] hstart h).cancelled _ hlisted rfl
  intro d e L' ws' o' hturn ho'
  simp only [exec_bind, exec_pure] at ho'
  obtain ⟨m, hm, rfl⟩ := ho'
  exact paymentTurn_step hturn hp hid hpend hseen hm

theorem exec_completeReturns {id : Uuid} {now : Time} {o : Outcome (LockKey schema) (Write schema) Unit}
    (h : Exec R (completeReturnRequests id now) s L ws o) (k : Uuid) :
    (written o.writes s).find Tab.returnRequests k = (written ws s).find Tab.returnRequests k ∨
      ∃ r, (written ws s).find Tab.returnRequests k = some r ∧ (r.orderId = id ∧ r.awaitsRefund = true) ∧
        (written o.writes s).find Tab.returnRequests k = some (r.complete now) := by
  unfold completeReturnRequests at h
  rw [exec_bind] at h
  obtain ⟨_, ⟨_, _, rfl⟩, h⟩ := h
  have hloop := exec_updateLoop (t := Tab.returnRequests)
    (fun r _ => by simp [ReturnRequest.complete, ReturnRequest.awaitsRefund]) h k
  simpa using hloop

/-! ## Vouchers -/

/-- The order's use of a voucher is gone, or was already when it was looked for; no other use is touched. -/
def UsageReleased (R : List (LockKey schema) → Db → Db → Prop) (L : List (LockKey schema)) (s b : Db) (id : Uuid) : Prop :=
  (b.find Tab.voucherUsages id = none ∨
    (b.find Tab.voucherUsages id = s.find Tab.voucherUsages id ∧ ∃ L' s₀, (∀ k ∈ L, k ∈ L') ∧ R L' s₀ s ∧
      s₀.find Tab.voucherUsages id = none)) ∧
  ∀ k, k ≠ id → b.find Tab.voucherUsages k = s.find Tab.voucherUsages k

theorem exec_releaseVoucher {id : Uuid} {K : List (LockKey schema)} {o : Outcome (LockKey schema) (Write schema) Unit}
    (h : Exec R (releaseVoucherUsageInTransaction id) s L ws o) (hL : ∀ k ∈ K, k ∈ L)
    (hws : ∀ w ∈ ws, w.tab? ≠ some Tab.voucherUsages) : UsageReleased R K s (written o.writes s) id := by
  have hbefore : ∀ (a : Db) k, (written ws a).find Tab.voucherUsages k = a.find Tab.voucherUsages k :=
    fun a k => find_written a k hws
  unfold releaseVoucherUsageInTransaction at h
  rw [exec_bind] at h
  obtain ⟨m, hm, h⟩ := h
  rcases exec_deleteReturning hm with ⟨hv, hw, _, hgone⟩ | ⟨u, hu, rfl⟩
  · rw [hv] at h
    cases h
    rw [hw]
    refine ⟨?_, fun k _ => hbefore s k⟩
    rcases hgone with hgone | ⟨s₀, hs₀, hgone⟩
    · exact .inl hgone
    · rw [hbefore] at hgone
      exact .inr ⟨hbefore s id, L, s₀, hL, hs₀, hgone⟩
  · simp only [exec_update] at h
    cases h
    simp only [written_append, written_cons, written_nil]
    refine ⟨.inl ?_, fun k hk => ?_⟩
    · rw [find_apply _ _ (by simp [Write.tab?]), find_delete, if_pos rfl]
    · rw [find_apply _ _ (by simp [Write.tab?]), find_delete, if_neg hk, hbefore]

/-! ## Changing an order's status -/

def OrderStatus.inventory (status : OrderStatus) (current : InventoryState) : InventoryState :=
  match status with
  | .confirmed => .committed
  | .cancelled => .released
  | _ => current

def Order.moveTo (status : OrderStatus) (state : InventoryState) (now : Time) (o : Order) : Order :=
  { o with status := status, inventoryState := state, updatedAt := now }

/-- With the order locked, none of its payments was seen to be settled. -/
def SeenUnsettled (R : List (LockKey schema) → Db → Db → Prop) (s : Db) (id : Uuid) : Prop :=
  ∃ L s₀, LockKey.row (D := schema) Tab.orders id ∈ L ∧ R L s₀ s ∧
    ∀ k p, s₀.find Tab.payments k = some p → p.orderId = id → p.status.settled = false

/-- The order's payments were cancelled, as far as they were pending; the others are as they were. -/
def PaymentsCancelled (s b : Db) (id : Uuid) : Prop :=
  ∀ k, b.find Tab.payments k = s.find Tab.payments k ∨
    ∃ p, s.find Tab.payments k = some p ∧ (p.orderId = id ∧ p.status = .pending) ∧ b.find Tab.payments k = some p.cancel

/-- What moves along with an order that goes to `status`. -/
structure MovesAlong (R : List (LockKey schema) → Db → Db → Prop) (s b : Db) (id : Uuid) (order : Order)
    (status : OrderStatus) : Prop where
  confirmed : status = .confirmed → StockMoved s b order .committed
  cancelled : status = .cancelled → StockMoved s b order .released ∧ SeenUnsettled R s id ∧ PaymentsCancelled s b id ∧
    ∃ L, LockKey.row (D := schema) Tab.orders id ∈ L ∧ UsageReleased R L s b id
  reached : status = .cancelled → PaymentsReached R s b id
  variants : status ≠ .confirmed → status ≠ .cancelled → b.rows Tab.variants = s.rows Tab.variants
  usages : status ≠ .cancelled → b.rows Tab.voucherUsages = s.rows Tab.voucherUsages
  payments : status ≠ .cancelled → b.rows Tab.payments = s.rows Tab.payments

/-- **An order goes to `status`**, with everything that moves along. -/
structure StatusMove (R : List (LockKey schema) → Db → Db → Prop) (s b : Db) (id : Uuid) (order : Order)
    (status : OrderStatus) (now : Time) : Prop where
  orders : b.rows Tab.orders =
    (s.rows Tab.orders).modify id (Order.moveTo status (status.inventory order.inventoryState) now)
  along : MovesAlong R s b id order status

theorem MovesAlong.congr {b b' : Db} {id : Uuid} {order : Order} {status : OrderStatus} (h : MovesAlong R s b id order status)
    (hv : b'.rows Tab.variants = b.rows Tab.variants) (hu : b'.rows Tab.voucherUsages = b.rows Tab.voucherUsages)
    (hp : b'.rows Tab.payments = b.rows Tab.payments) : MovesAlong R s b' id order status := by
  have hvf : ∀ k, b'.find Tab.variants k = b.find Tab.variants k := fun k => by unfold Database.find; rw [hv]
  have huf : ∀ k, b'.find Tab.voucherUsages k = b.find Tab.voucherUsages k := fun k => by unfold Database.find; rw [hu]
  have hpf : ∀ k, b'.find Tab.payments k = b.find Tab.payments k := fun k => by unfold Database.find; rw [hp]
  have hstock : ∀ target, StockMoved s b order target → StockMoved s b' order target := by
    rintro target (⟨h1, h2⟩ | ⟨h1, h2, h3⟩)
    · exact .inl ⟨h1, hv.trans h2⟩
    · exact .inr ⟨h1, h2, fun k => (hvf k).trans (h3 k)⟩
  constructor
  · exact fun hs => hstock _ (h.confirmed hs)
  · intro hs
    obtain ⟨h1, h2, h3, L, hL, h4, h5⟩ := h.cancelled hs
    refine ⟨hstock _ h1, h2, fun k => by rw [hpf]; exact h3 k, L, hL, ?_, fun k hk => (huf k).trans (h5 k hk)⟩
    rw [huf]
    exact h4
  · exact fun hs k p hp hid hpend hseen => (hpf k).trans (h.reached hs k p hp hid hpend hseen)
  · exact fun h1 h2 => hv.trans (h.variants h1 h2)
  · exact fun h1 => hu.trans (h.usages h1)
  · exact fun h1 => hp.trans (h.payments h1)

/-- A status that takes nothing along. -/
theorem movesAlong_none {b : Db} {id : Uuid} {order : Order} {status : OrderStatus} (h1 : status ≠ .confirmed)
    (h2 : status ≠ .cancelled) (hv : b.rows Tab.variants = s.rows Tab.variants)
    (hu : b.rows Tab.voucherUsages = s.rows Tab.voucherUsages) (hp : b.rows Tab.payments = s.rows Tab.payments) :
    MovesAlong R s b id order status :=
  ⟨fun h => absurd h h1, fun h => absurd h h2, fun h => absurd h h2, fun _ _ => hv, fun _ => hu, fun _ => hp⟩

/-- The stock's move that confirms an order. -/
theorem movesAlong_confirmed {id : Uuid} {order : Order} {now : Time} {o : Outcome (LockKey schema) (Write schema) Unit}
    (ho : s.find Tab.orders id = some order) (h : Exec R (transitionInventoryInTransaction id .committed now) s L [] o) :
    MovesAlong R s (written o.writes s) id order .confirmed ∧
      (written o.writes s).rows Tab.orders = (s.rows Tab.orders).modify id (Order.withInventory .committed now) := by
  obtain ⟨order', ho', hstock, horders⟩ := exec_transition h
  cases Option.some.inj (ho.symm.trans ho')
  have hfoot := writes_transition id .committed now
  refine ⟨⟨fun _ => hstock, fun h => (nomatch h), fun h => (nomatch h), fun h => absurd rfl h, fun _ => ?_, fun _ => ?_⟩, horders⟩
  · exact rows_of_exec h hfoot (by decide)
  · exact rows_of_exec h hfoot (by decide)

theorem movesAlong_cancelled {id : Uuid} {order : Order} {now : Time} {o : Outcome (LockKey schema) (Write schema) Unit}
    (ho : s.find Tab.orders id = some order) (hL : LockKey.row (D := schema) Tab.orders id ∈ L) (hseen : SeenUnsettled R s id)
    (h : Exec R (do
      transitionInventoryInTransaction id .released now
      releaseVoucherUsageInTransaction id
      cancelPendingPaymentsInTransaction id : Trans Unit) s L [] o) :
    MovesAlong R s (written o.writes s) id order .cancelled ∧
      (written o.writes s).rows Tab.orders = (s.rows Tab.orders).modify id (Order.withInventory .released now) := by
  simp only [exec_bind] at h
  obtain ⟨m, hm, m', hm', h⟩ := h
  obtain ⟨order', ho', hstock, horders⟩ := exec_transition hm
  cases Option.some.inj (ho.symm.trans ho')
  have hlocks := (Exec.locks _ hm fun _ h => nomatch h).1
  have hfoot := writes_transition id .released now
  obtain ⟨vs, hvs, hin⟩ := Exec.extends (P := Into [.orders, .variants]) _ hm
  rw [List.nil_append] at hvs
  -- the voucher is released after writes to orders and variants only
  have husage := exec_releaseVoucher (K := L) hm' hlocks fun w hw ht => by
    rw [hvs] at hw
    exact absurd ((hin hfoot w hw).table _ ht) (by decide)
  have hcancel := exec_cancelPending h
  have hrelease := writes_releaseVoucher id
  have hpending := writes_cancelPending id
  have hpay : ∀ k, (written m'.writes s).find Tab.payments k = s.find Tab.payments k := fun k =>
    (find_of_exec (t := Tab.payments) hm' hrelease (by decide) k).trans
      (find_of_exec (t := Tab.payments) hm hfoot (by decide) k)
  have hvar : (written o.writes s).rows Tab.variants = (written m.writes s).rows Tab.variants :=
    (rows_of_exec (t := Tab.variants) h hpending (by decide)).trans (rows_of_exec hm' hrelease (by decide))
  have huse : ∀ k, (written o.writes s).find Tab.voucherUsages k = (written m'.writes s).find Tab.voucherUsages k :=
    fun k => find_of_exec (t := Tab.voucherUsages) h hpending (by decide) k
  refine ⟨⟨fun h => (nomatch h), fun _ => ⟨?_, hseen, fun k => ?_, L, hL, ?_, fun k hk => ?_⟩, fun _ => ?_, fun _ h => absurd rfl h,
    fun h => absurd rfl h, fun h => absurd rfl h⟩, ?_⟩
  · rcases hstock with ⟨h1, h2⟩ | ⟨h1, h2, h3⟩
    · exact .inl ⟨h1, hvar.trans h2⟩
    · refine .inr ⟨h1, h2, fun k => Eq.trans ?_ (h3 k)⟩
      unfold Database.find
      rw [hvar]
  · have := hcancel k
    rwa [hpay] at this
  · rw [huse]
    exact husage.1
  · exact (huse k).trans (husage.2 k hk)
  · obtain ⟨vs', hvs', hin'⟩ := Exec.extends (P := Into [.voucherUsages, .vouchers]) _ hm'
    refine exec_cancelPending_reached h ((Exec.locks _ hm' (Exec.locks _ hm fun _ h => nomatch h).2).1 _ (hlocks _ hL)) fun w hw ht => ?_
    rw [hvs', hvs] at hw
    rcases List.mem_append.1 hw with hw | hw
    · exact absurd ((hin hfoot w hw).table _ ht) (by decide)
    · exact absurd ((hin' hrelease w hw).table _ ht) (by decide)
  · rw [rows_of_exec (t := Tab.orders) h hpending (by decide), rows_of_exec (t := Tab.orders) hm' hrelease (by decide)]
    exact horders

/-! ### The two transactions -/

/-- Where an order may go from a status. -/
def OrderStatus.next : OrderStatus → List OrderStatus
  | .pending => [.confirmed, .cancelled]
  | .confirmed => [.processing, .cancelled]
  | .processing => [.shipping, .cancelled]
  | .shipping => [.delivered]
  | .delivered => [.refunded]
  | .cancelled => [.refunded]
  | .refunded => []

theorem exec_hasSettled {id : Uuid} {s₀ : Db} (h : hasSettledPayment id s₀ = false) :
    ∀ k p, s₀.find Tab.payments k = some p → p.orderId = id → p.status.settled = false := by
  unfold hasSettledPayment at h
  rw [Option.isSome_eq_false_iff, Option.isNone_iff_eq_none, AList.find_eq_none] at h
  intro k p hp hid
  simpa [hid] using h k p hp

theorem withInventory_moveTo {status : OrderStatus} {state : InventoryState} {now : Time} (t : Table Uuid Order) (id : Uuid) :
    (t.modify id (Order.withInventory state now)).modify id (fun o => { o with status := status, updatedAt := now }) =
      t.modify id (Order.moveTo status state now) := by
  rw [AList.modify_modify]
  refine AList.modify_congr fun r _ => ?_
  unfold Order.withInventory Order.moveTo
  split
  · rename_i h
    rw [h]
  · rfl

/-- `setOrderStatus` completes a move. -/
theorem exec_setOrderStatus {id : Uuid} {order : Order} {status : OrderStatus} {note : String} {now : Time}
    {o : Outcome (LockKey schema) (Write schema) Unit} (h : Exec R (setOrderStatus id order.status status note now) s L ws o)
    (horders : (written ws s).rows Tab.orders =
      (s.rows Tab.orders).modify id (Order.withInventory (status.inventory order.inventoryState) now))
    (halong : MovesAlong R s (written ws s) id order status) : StatusMove R s (written o.writes s) id order status now := by
  have hfoot := writes_setOrderStatus id order.status status note now
  refine ⟨?_, halong.congr (rows_of_exec h hfoot (by decide)) (rows_of_exec h hfoot (by decide)) (rows_of_exec h hfoot (by decide))⟩
  unfold setOrderStatus at h
  simp only [exec_bind, exec_update, exec_append] at h
  obtain ⟨_, rfl, rfl⟩ := h
  simp only [written_append, written_cons, written_nil, rows_append, rows_update]
  rw [horders, withInventory_moveTo]

theorem withInventory_self {id : Uuid} {order : Order} {now : Time} (ho : s.find Tab.orders id = some order) :
    (s.rows Tab.orders).modify id (Order.withInventory order.inventoryState now) = s.rows Tab.orders := by
  refine AList.modify_eq_self fun r hr => ?_
  cases Option.some.inj (ho.symm.trans hr)
  exact if_pos rfl

/-- What `nextStatusOf` decides: no move, or a move to a status that is next, everything but the status itself done. -/
theorem exec_nextStatusOf {id : Uuid} {order : Order} {payment : ReportedPayment} {now : Time}
    {o : Outcome (LockKey schema) (Write schema) (Option OrderStatus)} (ho : s.find Tab.orders id = some order)
    (hL : LockKey.row (D := schema) Tab.orders id ∈ L) (h : Exec R (nextStatusOf id order payment now) s L [] o) :
    (o.val = none ∧ o.writes = []) ∨
      ∃ status, o.val = some status ∧ payment.target = some status ∧
        (status ∈ order.status.next ∨ (status = .refunded ∧ order.status = .refunded)) ∧
        MovesAlong R s (written o.writes s) id order status ∧
        (written o.writes s).rows Tab.orders =
          (s.rows Tab.orders).modify id (Order.withInventory (status.inventory order.inventoryState) now) := by
  cases payment with
  | unpaid => cases h; exact .inl ⟨rfl, rfl⟩
  | pending => cases h; exact .inl ⟨rfl, rfl⟩
  | paid =>
    simp only [nextStatusOf, paidOrder, exec_bind, exec_ensure] at h
    obtain ⟨_, ⟨_, rfl⟩, h⟩ := h
    split at h
    · rename_i hpend
      simp only [exec_bind, exec_pure] at h
      obtain ⟨m, hm, rfl⟩ := h
      obtain ⟨halong, horders⟩ := movesAlong_confirmed ho hm
      exact .inr ⟨.confirmed, rfl, rfl, .inl (by rw [hpend]; decide), halong, horders⟩
    · simp only [exec_bind, exec_ensure, exec_pure] at h
      obtain ⟨_, ⟨_, rfl⟩, rfl⟩ := h
      exact .inl ⟨rfl, rfl⟩
  | failed =>
    simp only [nextStatusOf, failedOrder] at h
    split at h
    · rename_i hpend
      rw [exec_bind] at h
      obtain ⟨_, ⟨s₀, hs₀, rfl⟩, h⟩ := h
      split at h
      · cases h
        exact .inl ⟨rfl, rfl⟩
      · rename_i hset
        rw [Bool.not_eq_true] at hset
        have hseen : SeenUnsettled R s id := ⟨L, s₀, hL, hs₀, exec_hasSettled hset⟩
        simp only [exec_bind, exec_pure] at h
        obtain ⟨m₁, h1, m₂, h2, m₃, h3, rfl⟩ := h
        obtain ⟨halong, horders⟩ := movesAlong_cancelled (o := m₃) ho hL hseen
          (by simp only [exec_bind]; exact ⟨m₁, h1, m₂, h2, h3⟩)
        exact .inr ⟨.cancelled, rfl, rfl, .inl (by rw [hpend]; decide), halong, horders⟩
    · cases h
      exact .inl ⟨rfl, rfl⟩
  | refunded =>
    simp only [nextStatusOf, refundedOrder, exec_bind, exec_ensure, exec_pure] at h
    obtain ⟨_, ⟨hstatus, rfl⟩, rfl⟩ := h
    refine .inr ⟨.refunded, rfl, rfl, ?_, movesAlong_none (by decide) (by decide) rfl rfl rfl, (withInventory_self ho).symm⟩
    rcases hstatus with hs | hs | hs
    · exact .inl (by rw [hs]; decide)
    · exact .inl (by rw [hs]; decide)
    · exact .inr ⟨rfl, hs⟩

/-- The order and all that moves with it are as they were. -/
def Untouched (s b : Db) : Prop :=
  b.rows Tab.orders = s.rows Tab.orders ∧ b.rows Tab.variants = s.rows Tab.variants ∧
    b.rows Tab.voucherUsages = s.rows Tab.voucherUsages ∧ b.rows Tab.payments = s.rows Tab.payments

/-- An order that is left alone, or that goes to a next status, to which the transaction takes it. -/
def OrderMoved (R : List (LockKey schema) → Db → Db → Prop) (To : OrderStatus → Prop) (s b : Db) (id : Uuid) (order : Order)
    (now : Time) : Prop :=
  Untouched s b ∨ ∃ status ∈ order.status.next, To status ∧ StatusMove R s b id order status now

theorem OrderMoved.congr {To : OrderStatus → Prop} {b b' : Db} {id : Uuid} {order : Order} {now : Time}
    (h : OrderMoved R To s b id order now)
    (ho : b'.rows Tab.orders = b.rows Tab.orders) (hv : b'.rows Tab.variants = b.rows Tab.variants)
    (hu : b'.rows Tab.voucherUsages = b.rows Tab.voucherUsages) (hp : b'.rows Tab.payments = b.rows Tab.payments) :
    OrderMoved R To s b' id order now := by
  rcases h with ⟨h1, h2, h3, h4⟩ | ⟨status, hmem, hto, h1, h2⟩
  · exact .inl ⟨ho.trans h1, hv.trans h2, hu.trans h3, hp.trans h4⟩
  · exact .inr ⟨status, hmem, hto, ho.trans h1, h2.congr hv hu hp⟩

/-- `applyNextStatus` completes what `nextStatusOf` prepared. -/
theorem exec_applyNextStatus {id : Uuid} {order : Order} {payment : ReportedPayment} {next : Option OrderStatus} {now : Time}
    {o : Outcome (LockKey schema) (Write schema) Bool} (h : Exec R (applyNextStatus id order payment next now) s L ws o)
    (ho : s.find Tab.orders id = some order)
    (hnext : (next = none ∧ ws = []) ∨
      ∃ status, next = some status ∧ payment.target = some status ∧
        (status ∈ order.status.next ∨ (status = .refunded ∧ order.status = .refunded)) ∧
        MovesAlong R s (written ws s) id order status ∧
        (written ws s).rows Tab.orders =
          (s.rows Tab.orders).modify id (Order.withInventory (status.inventory order.inventoryState) now)) :
    OrderMoved R (fun status => payment.target = some status) s (written o.writes s) id order now := by
  rcases hnext with ⟨rfl, rfl⟩ | ⟨status, rfl, hto, hmem, halong, horders⟩
  · cases h
    exact .inl ⟨rfl, rfl, rfl, rfl⟩
  · simp only [applyNextStatus] at h
    split at h
    · rename_i hsame
      cases h
      -- an order that is refunded already
      rcases hmem with hmem | ⟨rfl, hs⟩
      · rw [hsame] at hmem
        cases hst : order.status <;> rw [hst] at hmem <;> simp [OrderStatus.next] at hmem
      · refine .inl ⟨?_, halong.variants (by decide) (by decide), halong.usages (by decide), halong.payments (by decide)⟩
        rw [horders]
        exact withInventory_self ho
    · rename_i hdiff
      simp only [exec_bind, exec_pure] at h
      obtain ⟨m, hm, rfl⟩ := h
      rcases hmem with hmem | ⟨rfl, hs⟩
      · exact .inr ⟨status, hmem, hto, exec_setOrderStatus hm horders halong⟩
      · exact absurd hs.symm hdiff

/-- A return request that is left alone, or closed together with its order. -/
def ReturnClosed (s b : Db) (orderId : Uuid) (now : Time) (k : Uuid) : Prop :=
  b.find Tab.returnRequests k = s.find Tab.returnRequests k ∨
    ∃ r, s.find Tab.returnRequests k = some r ∧ (r.orderId = orderId ∧ r.awaitsRefund = true) ∧
      b.find Tab.returnRequests k = some (r.complete now)

/-- **`updatePaymentStatus` commits** to a move of its order or to none, and to the end of the order's returns. -/
theorem exec_updatePaymentStatus {id : Uuid} {payment : ReportedPayment} {status : Option OrderStatus} {now : Time}
    {o : Outcome (LockKey schema) (Write schema) (Uuid × Bool)}
    (h : Exec R (updatePaymentStatusTransaction id payment status now) s [] [] o) :
    ∃ order, s.find Tab.orders id = some order ∧ LockKey.row (D := schema) Tab.orders id ∈ o.locks ∧
      OrderMoved R (fun status => payment.target = some status) s (written o.writes s) id order now ∧
      ∀ k, ReturnClosed s (written o.writes s) id now k := by
  unfold updatePaymentStatusTransaction at h
  rw [exec_bind] at h
  obtain ⟨_, h1, h⟩ := h
  obtain ⟨order, ho, rfl⟩ := exec_fetchJoin h1
  refine ⟨order, ho, (Exec.locks _ h fun _ h => nomatch h).1 _ List.mem_cons_self, ?_⟩
  rw [exec_bind] at h
  obtain ⟨m, hm, h⟩ := h
  have hnext := exec_nextStatusOf ho List.mem_cons_self hm
  have hreturns : ∀ k, (written m.writes s).find Tab.returnRequests k = s.find Tab.returnRequests k := fun k =>
    find_of_exec (t := Tab.returnRequests) hm (writes_nextStatus id order payment now) (by decide) k
  simp only [exec_bind, exec_ensure] at h
  obtain ⟨_, ⟨_, rfl⟩, m', hm', h⟩ := h
  have hmoved := exec_applyNextStatus hm' ho hnext
  have hreturns' : ∀ k, (written m'.writes s).find Tab.returnRequests k = s.find Tab.returnRequests k := fun k =>
    (find_of_exec (t := Tab.returnRequests) hm' (writes_applyNextStatus id order payment m.val now) (by decide) k).trans
      (hreturns k)
  split at h
  · simp only [exec_bind, exec_pure] at h
    obtain ⟨m'', hm'', rfl⟩ := h
    have hfoot := writes_completeReturns id now
    have hrows : ∀ t : Tab, t ∉ [Tab.returnRequests] → (written m''.writes s).rows t = (written m'.writes s).rows t :=
      fun t ht => rows_of_exec hm'' hfoot ht
    refine ⟨hmoved.congr (hrows _ (by decide)) (hrows _ (by decide)) (hrows _ (by decide)) (hrows _ (by decide)), fun k => ?_⟩
    have := exec_completeReturns hm'' k
    rwa [hreturns'] at this
  · cases h
    exact ⟨hmoved, fun k => .inl (hreturns' k)⟩

theorem exec_moveWithStatus {id : Uuid} {order : Order} {status : OrderStatus} {payments : List (Uuid × Payment)} {now : Time}
    {o : Outcome (LockKey schema) (Write schema) Unit} (ho : s.find Tab.orders id = some order)
    (hL : LockKey.row (D := schema) Tab.orders id ∈ L)
    (hseen : (payments.any fun e => e.2.status.settled) = false → SeenUnsettled R s id)
    (h : Exec R (moveWithStatus id status payments now) s L [] o) :
    MovesAlong R s (written o.writes s) id order status ∧
      (written o.writes s).rows Tab.orders =
        (s.rows Tab.orders).modify id (Order.withInventory (status.inventory order.inventoryState) now) := by
  cases status with
  | confirmed =>
    simp only [moveWithStatus, exec_bind, exec_ensure] at h
    obtain ⟨_, ⟨_, rfl⟩, h⟩ := h
    exact movesAlong_confirmed ho h
  | cancelled =>
    simp only [moveWithStatus] at h
    rw [exec_bind] at h
    obtain ⟨_, h1, h⟩ := h
    rw [exec_ensure] at h1
    obtain ⟨hset, rfl⟩ := h1
    exact movesAlong_cancelled ho hL (hseen hset) h
  | _ =>
    cases h
    exact ⟨movesAlong_none (by decide) (by decide) rfl rfl rfl, (withInventory_self ho).symm⟩

theorem mem_next_of_allowed {a b : OrderStatus} (h : b ∈ allowedTransitions a) : b ∈ a.next := by
  cases a <;> simp [allowedTransitions, OrderStatus.next] at h ⊢ <;> exact h

/-- **`updateOrderStatus` commits** to a move of its order, or to none. -/
theorem exec_updateOrderStatus {id : Uuid} {status : OrderStatus} {note : Option String} {now : Time}
    {o : Outcome (LockKey schema) (Write schema) Uuid} (h : Exec R (updateOrderStatusTransaction id status note now) s [] [] o) :
    ∃ order, s.find Tab.orders id = some order ∧ LockKey.row (D := schema) Tab.orders id ∈ o.locks ∧
      OrderMoved R (· = status) s (written o.writes s) id order now := by
  unfold updateOrderStatusTransaction at h
  rw [exec_bind] at h
  obtain ⟨_, h1, h⟩ := h
  obtain ⟨order, ho, rfl⟩ := exec_fetchJoin h1
  refine ⟨order, ho, (Exec.locks _ h fun _ h => nomatch h).1 _ List.mem_cons_self, ?_⟩
  split at h
  · cases h
    exact .inl ⟨rfl, rfl, rfl, rfl⟩
  · simp only [exec_bind, exec_ensure, exec_select, exec_pure] at h
    obtain ⟨_, ⟨hallowed, rfl⟩, _, ⟨s₀, hs₀, rfl⟩, m, hm, m', hm', rfl⟩ := h
    have hseen : ((paymentsOf id s₀).any fun e => e.2.status.settled) = false → SeenUnsettled R s id := by
      intro hset
      refine ⟨_, s₀, List.mem_cons_self, hs₀, fun k p hp hid => ?_⟩
      have hmem : (k, p) ∈ paymentsOf id s₀ := mem_newestFirst.2 (AList.mem_select.2 ⟨hp, by simp [hid]⟩)
      rw [List.any_eq_false] at hset
      simpa using hset _ hmem
    obtain ⟨halong, horders⟩ := exec_moveWithStatus ho List.mem_cons_self hseen hm
    exact .inr ⟨status, mem_next_of_allowed hallowed, rfl, exec_setOrderStatus hm' horders halong⟩

/-! ## Checkout -/

/-- **A checkout placed its order**: a new order, its lines reserved one after another, and no other voucher use. -/
structure Placed (s b : Db) (c : Checkout) (voucher : Option (Uuid × ℤ)) : Prop where
  fresh : s.find Tab.orders c.orderId = none
  quantities : ∀ i ∈ c.items, 0 < i.quantity
  orders : b.rows Tab.orders = (s.rows Tab.orders).insertNew c.orderId (c.order voucher)
  there : ∀ i ∈ c.items, (s.find Tab.variants i.variantId).isSome = true
  variants : ∀ k, b.find Tab.variants k =
    (s.find Tab.variants k).map (foldLines CheckoutItem.variantId (fun i => Variant.reserve i.quantity) c.items k)
  room : ∀ d x rest, c.items = d ++ x :: rest → ∀ v, s.find Tab.variants x.variantId = some v →
    x.quantity ≤ (foldLines CheckoutItem.variantId (fun i => Variant.reserve i.quantity) d x.variantId v).stockQuantity -
      (foldLines CheckoutItem.variantId (fun i => Variant.reserve i.quantity) d x.variantId v).reservedQuantity
  usages : ∀ k, k ≠ c.orderId → b.find Tab.voucherUsages k = s.find Tab.voucherUsages k

theorem Placed.find_orders {b : Db} {c : Checkout} {voucher : Option (Uuid × ℤ)} (h : Placed s b c voucher) (k : Uuid) :
    b.find Tab.orders k = if k = c.orderId then some (c.order voucher) else s.find Tab.orders k := by
  have hfresh := h.fresh
  unfold Database.find at hfresh ⊢
  rw [h.orders, AList.lookup_insertNew]
  by_cases hk : k = c.orderId
  · subst hk
    rw [if_pos rfl, if_pos rfl, hfresh]
    rfl
  · rw [if_neg hk, if_neg hk]

theorem exec_reserveItem {ctx : AuditContext} {item : CheckoutItem} {o : Outcome (LockKey schema) (Write schema) Unit}
    (h : Exec R (reserveItem ctx item) s L ws o) :
    ∃ v, (written ws s).find Tab.variants item.variantId = some v ∧
      (v.isActive && decide (item.quantity ≤ v.stockQuantity - v.reservedQuantity)) = true ∧
      ∀ k, (written o.writes s).find Tab.variants k =
        if k = item.variantId then some (Variant.reserve item.quantity v) else (written ws s).find Tab.variants k := by
  unfold reserveItem at h
  simp only [exec_bind, exec_ensure] at h
  obtain ⟨m, hm, hv, rfl⟩ := h
  rcases exec_updateVariantWhere hm with ⟨_, hmoved⟩ | ⟨hno, _⟩
  · exact hmoved
  · rw [hv] at hno
    cases hno

theorem exec_insertOrder {id : Uuid} {order : Order} {o : Outcome (LockKey schema) (Write schema) Unit}
    (h : Exec R (insertOrder id order) s L ws o) :
    (∀ i ∈ order.items, 0 < i.quantity) ∧ (written ws s).find Tab.orders id = none ∧
      LockKey.row (D := schema) Tab.orders id ∈ o.locks ∧ o.writes = ws ++ [.insert Tab.orders id order] := by
  unfold insertOrder at h
  simp only [exec_bind, exec_ensure] at h
  obtain ⟨_, ⟨_, rfl⟩, m₁, h1, m₂, h2, _, ⟨hq, rfl⟩, h3⟩ := h
  obtain ⟨_, rfl⟩ := exec_unique h1
  obtain ⟨_, rfl⟩ := exec_unique h2
  obtain ⟨hnone, rfl⟩ := exec_insert h3
  exact ⟨hq, hnone, List.mem_cons_self, rfl⟩

theorem exec_recordVoucherUse {c : Checkout} {voucher : Option (Uuid × ℤ)} {o : Outcome (LockKey schema) (Write schema) Unit}
    (h : Exec R (recordVoucherUse c voucher) s L ws o) (k : Uuid) (hk : k ≠ c.orderId) :
    (written o.writes s).find Tab.voucherUsages k = (written ws s).find Tab.voucherUsages k := by
  cases voucher with
  | none => cases h; rfl
  | some v =>
    simp only [recordVoucherUse, useVoucher, exec_bind, exec_update] at h
    obtain ⟨_, rfl, h⟩ := h
    obtain ⟨_, rfl⟩ := exec_insert h
    simp only [written_append, written_cons, written_nil]
    rw [find_insert, if_neg hk, find_apply _ _ (by simp [Write.tab?])]

/-- **`createOrder` commits** to a placed order, or it found the order that carries its key. -/
theorem exec_createOrder {cfg : Config} {c : Checkout} {o : Outcome (LockKey schema) (Write schema) Uuid}
    (h : Exec R (createOrderTransaction cfg c) s [] [] o) :
    o.writes = [] ∨ ∃ voucher, Placed s (written o.writes s) c voucher ∧ LockKey.row (D := schema) Tab.orders c.orderId ∈ o.locks := by
  unfold createOrderTransaction at h
  rw [exec_bind] at h
  obtain ⟨_, ⟨s₀, _, rfl⟩, h⟩ := h
  split at h
  · cases h
    exact .inl rfl
  · simp only [placeOrder, exec_bind, exec_ensure, exec_pure] at h
    obtain ⟨_, ⟨_, rfl⟩, m₁, h1, m₂, h2, m₃, h3, m₄, h4, rfl⟩ := h
    have hw1 := h1.writes_eq (writes_checkoutVoucher cfg c)
    rw [hw1] at h2
    obtain ⟨hvariants, hthere, hroom⟩ := exec_variantLoop (fun x L ws o => exec_reserveItem) h2
    obtain ⟨hq, hnone, hkey, hw3⟩ := exec_insertOrder h3
    have hloop : Writes (Into [.variants]) (each (reserveItem {
        eventType := "order_reserved", referenceType := some "checkout", referenceId := some c.idempotencyKey.text
        actorId := some c.userId }) c.items) := writes_each fun x _ => writes_reserveItem _ x
    have hvoucher := writes_recordVoucherUse c m₁.val
    have horders := rows_of_exec (t := Tab.orders) h2 hloop (by decide)
    refine .inr ⟨m₁.val, ⟨?_, fun i hi => ?_, ?_, hthere, fun k => ?_, fun d x rest heq v hv => ?_, fun k hk => ?_⟩,
      (Exec.locks _ h4 fun w hw => ?_).1 _ hkey⟩
    · unfold Database.find at hnone
      rwa [horders] at hnone
    · obtain ⟨n, hn, rfl⟩ := List.getElem_of_mem hi
      refine hq (c.items[n].toOrderItem (c.itemId n)) (List.mem_map.2 ⟨(c.items[n], n), ?_, rfl⟩)
      exact List.mk_mem_zipIdx_iff_getElem?.2 (List.getElem?_eq_getElem hn)
    · rw [rows_of_exec (t := Tab.orders) h4 hvoucher (by decide), hw3, written_append, written_cons, written_nil, rows_insert,
        horders]
      rfl
    · rw [find_of_exec (t := Tab.variants) h4 hvoucher (by decide), hw3, written_append, written_cons, written_nil,
        find_apply _ _ (by simp [Write.tab?]), hvariants k]
      rfl
    · have := hroom d x rest heq v hv
      rw [Bool.and_eq_true, decide_eq_true_eq] at this
      exact this.2
    · rw [exec_recordVoucherUse h4 k hk, hw3, written_append, written_cons, written_nil,
        find_apply _ _ (by simp [Write.tab?]), find_of_exec (t := Tab.voucherUsages) h2 hloop (by decide)]
      rfl
    · exact (Exec.locks _ h3 fun w hw => (Exec.locks _ h2 fun _ h => by cases h).2 w hw).2 w hw

end Balii
