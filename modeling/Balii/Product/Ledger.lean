import Balii.Lib.Sequence
import Balii.Order.Stock
import Balii.Product.Balances
/-!
# Product.Ledger — the movements of a variant account for its balances

The trigger runs inside the transaction that changes a variant, under the variant's lock.  So a line carries on from the line
before, whoever wrote it, and the lines of a variant are numbered in the order they were committed.
-/
namespace Balii

open Rowdb Tx Sql System

/-- A line of the ledger, if it is one of the variant. -/
def Log.lineOf? (id : Uuid) : Log → Option Movement
  | .movement m => if m.variantId = id then some m else none
  | .status _ => none

/-- The movements of a variant, oldest first. -/
def ledgerOf (id : Uuid) (s : Db) : List Movement := s.log.filterMap (Log.lineOf? id)

/-- From one pair of balances the lines lead to another, each from where the one before ended. -/
def Continues : ℤ × ℤ → List Movement → ℤ × ℤ → Prop
  | b, [], b' => b = b'
  | b, m :: ms, b' => m.stockAfter = b.1 + m.stockDelta ∧ m.reservedAfter = b.2 + m.reservedDelta ∧
      Continues (m.stockAfter, m.reservedAfter) ms b'

theorem Continues.trans {ms ms' : List Movement} {b b' b'' : ℤ × ℤ} (h : Continues b ms b') (h' : Continues b' ms' b'') :
    Continues b (ms ++ ms') b'' := by
  induction ms generalizing b with
  | nil =>
    cases h
    exact h'
  | cons m ms ih => exact ⟨h.1, h.2.1, ih h.2.2⟩

theorem Continues.sums {ms : List Movement} {b b' : ℤ × ℤ} (h : Continues b ms b') :
    b'.1 = b.1 + (ms.map Movement.stockDelta).sum ∧ b'.2 = b.2 + (ms.map Movement.reservedDelta).sum := by
  induction ms generalizing b with
  | nil =>
    cases h
    simp
  | cons m ms ih =>
    obtain ⟨h1, h2, h3⟩ := h
    obtain ⟨hs, hr⟩ := ih h3
    rw [List.map_cons, List.map_cons, List.sum_cons, List.sum_cons]
    dsimp only at hs hr
    omega

/-- A line and the one before it. -/
theorem Continues.carries {pre post : List Movement} {m : Movement} {b b' : ℤ × ℤ} (h : Continues b (pre ++ m :: post) b') :
    m.stockAfter = pre.getLast?.elim b.1 Movement.stockAfter + m.stockDelta ∧
      m.reservedAfter = pre.getLast?.elim b.2 Movement.reservedAfter + m.reservedDelta := by
  induction pre generalizing b with
  | nil => exact ⟨h.1, h.2.1⟩
  | cons e pre ih =>
    obtain ⟨h1, h2⟩ := ih h.2.2
    cases pre with
    | nil => exact ⟨h1, h2⟩
    | cons e' pre =>
      rw [List.getLast?_cons_cons]
      rw [List.getLast?_eq_getLast_of_ne_nil (List.cons_ne_nil _ _)] at h1 h2 ⊢
      exact ⟨h1, h2⟩

/-- The balances of a row; a variant that is not there has none. -/
def balanceOf (id : Uuid) (s : Db) : ℤ × ℤ := (s.find Tab.variants id).elim (0, 0) Variant.balance

/-- **The lines between two states account for what became of the balances.** -/
def Booked (id : Uuid) (a b : Db) : Prop :=
  ∃ lines, ledgerOf id b = ledgerOf id a ++ lines ∧ Continues (balanceOf id a) lines (balanceOf id b)

theorem Booked.of_kept {id : Uuid} {a b : Db} (hrow : b.find Tab.variants id = a.find Tab.variants id)
    (hledger : ledgerOf id b = ledgerOf id a) : Booked id a b := by
  refine ⟨[], by rw [hledger, List.append_nil], ?_⟩
  unfold balanceOf
  rw [hrow]
  rfl

theorem Booked.trans {id : Uuid} {a b c : Db} (h : Booked id a b) (h' : Booked id b c) : Booked id a c := by
  obtain ⟨lines, h1, h2⟩ := h
  obtain ⟨lines', h3, h4⟩ := h'
  exact ⟨lines ++ lines', by rw [h3, h1, List.append_assoc], h2.trans h4⟩

/-- The lines the trigger adds. -/
def movementLines (ctx : AuditContext) (k : Uuid) (old new : Variant) : List Movement :=
  if new.stockQuantity - old.stockQuantity = 0 ∧ new.reservedQuantity - old.reservedQuantity = 0 then []
  else [{
    variantId := k, eventType := ctx.eventType, referenceType := ctx.referenceType, referenceId := ctx.referenceId
    actorId := ctx.actorId
    stockDelta := new.stockQuantity - old.stockQuantity
    reservedDelta := new.reservedQuantity - old.reservedQuantity
    stockAfter := new.stockQuantity, reservedAfter := new.reservedQuantity }]

theorem ledgerOf_movementWrites (id : Uuid) (ctx : AuditContext) (k : Uuid) (old new : Variant) (a : Db) :
    ledgerOf id (written (movementWrites ctx k old new) a) =
      ledgerOf id a ++ if k = id then movementLines ctx k old new else [] := by
  unfold movementWrites movementLines ledgerOf
  split
  · rw [written_nil, ite_self, List.append_nil]
  · show List.filterMap _ (a.log ++ [_]) = _
    rw [List.filterMap_append]
    by_cases hk : k = id
    · simp [Log.lineOf?, hk]
    · simp [Log.lineOf?, hk]

theorem continues_movementLines (ctx : AuditContext) (k : Uuid) (old new : Variant) :
    Continues old.balance (movementLines ctx k old new) new.balance := by
  unfold movementLines
  split
  · refine Prod.ext ?_ ?_
    · show old.stockQuantity = new.stockQuantity
      omega
    · show old.reservedQuantity = new.reservedQuantity
      omega
  · refine ⟨?_, ?_, rfl⟩
    · show new.stockQuantity = old.stockQuantity + (new.stockQuantity - old.stockQuantity)
      omega
    · show new.reservedQuantity = old.reservedQuantity + (new.reservedQuantity - old.reservedQuantity)
      omega

/-- **A variant's new row and its trigger.** -/
theorem booked_trigger {id k : Uuid} {a a' : Db} {ctx : AuditContext} {old new : Variant} (hlog : a'.log = a.log)
    (hfind : ∀ j, a'.find Tab.variants j = if j = k then some new else a.find Tab.variants j)
    (hold : old.balance = balanceOf k a) : Booked id a (written (movementWrites ctx k old new) a') := by
  have hrows : ∀ j, (written (movementWrites ctx k old new) a').find Tab.variants j = a'.find Tab.variants j :=
    Database.find_of_rows (D := schema) (rows_movementWrites ctx k old new a' Tab.variants)
  have hledger := ledgerOf_movementWrites id ctx k old new a'
  rw [show ledgerOf id a' = ledgerOf id a from congrArg (List.filterMap _) hlog] at hledger
  by_cases hk : k = id
  · subst hk
    rw [if_pos rfl] at hledger
    refine ⟨_, hledger, ?_⟩
    have hnew : balanceOf k (written (movementWrites ctx k old new) a') = new.balance := by
      unfold balanceOf
      rw [hrows, hfind, if_pos rfl]
      rfl
    rw [hnew, ← hold]
    exact continues_movementLines ctx k old new
  · rw [if_neg hk, List.append_nil] at hledger
    refine .of_kept ?_ hledger
    rw [hrows, hfind, if_neg (Ne.symm hk)]

/-! ## Every part keeps the books -/

theorem booked_write {id : Uuid} {ts : List Tab} (hts : Tab.variants ∉ ts) {w : Write schema} (hw : Into ts w) (s : Db) :
    Booked id s (w.apply s) := by
  refine .of_kept (find_apply _ _ fun ht => hts (hw.table _ ht)) ?_
  cases w with
  | append l =>
    cases l with
    | movement m => exact absurd (hw.movement m rfl) hts
    | status l =>
      show List.filterMap _ (s.log ++ [_]) = _
      rw [List.filterMap_append]
      exact List.append_nil _
  | _ => rfl

section Parts
variable {R : List (LockKey schema) → Db → Db → Prop} {s : Db} {L : List (LockKey schema)} {ws : List (Write schema)}

/-- An `UPDATE` of the row that is there, with its trigger. -/
theorem booked_update (id : Uuid) {k : Uuid} {v : Variant} (hv : (written ws s).find Tab.variants k = some v)
    (ctx : AuditContext) (f : Variant → Variant) :
    Booked id (written ws s) (written (ws ++ .update Tab.variants k f :: movementWrites ctx k v (f v)) s) := by
  rw [written_append, written_cons]
  refine booked_trigger rfl (fun j => ?_) ?_
  · rw [find_update]
    split
    · rename_i hj
      rw [hj, hv]
      rfl
    · rfl
  · unfold balanceOf
    rw [hv]
    rfl

theorem moves_variantPart (id : Uuid) {α : Type} {t : Trans α} (h : VariantPart α t) : Moves (Booked id) t := by
  cases h with
  | other h hts => exact moves_of_writes h fun w hw s => booked_write hts hw s
  | update ctx k p hf =>
    intro R s L ws o h
    unfold updateVariantWhere at h
    rw [exec_bind] at h
    obtain ⟨m, hm, h⟩ := h
    rcases exec_updateWhere hm with ⟨hv, hw, _⟩ | ⟨v, hv, _, rfl⟩
    · rw [hv] at h
      cases h
      rw [hw]
    · simp only [exec_bind, exec_pure] at h
      obtain ⟨a, ha, rfl⟩ := h
      cases exec_audit.1 ha
      refine .single ?_
      rw [List.append_assoc, List.singleton_append]
      exact booked_update id hv ctx _
  | save k entity reloaded =>
    intro R s L ws o h
    rcases exec_updateVariantRow h with ⟨_, hw⟩ | ⟨v, hv, hw⟩
    · rw [hw]
    · rw [hw]
      exact .single (booked_update id hv _ _)
  | adjust k dto actorId =>
    intro R s L ws o h
    unfold updateVariant at h
    simp only [exec_bind, exec_ensure, exec_update] at h
    obtain ⟨_, ⟨_, rfl⟩, _, h1, _, ⟨_, rfl⟩, _, rfl, ha⟩ := h
    obtain ⟨v, hv, rfl⟩ := exec_fetch h1
    cases exec_audit.1 ha
    refine .single ?_
    rw [List.append_assoc, List.singleton_append]
    exact booked_update id hv _ _
  | insert ctx k v =>
    intro R s L ws o h
    unfold insertVariant at h
    rw [exec_bind] at h
    obtain ⟨m, hm, ha⟩ := h
    obtain ⟨hnone, rfl⟩ := exec_insert hm
    cases exec_audit.1 ha
    refine .single ?_
    rw [List.append_assoc, List.singleton_append]
    show Booked id (written ws s) (written _ s)
    rw [written_append, written_cons]
    refine booked_trigger rfl (fun j => ?_) ?_
    · rw [find_insert]
      split
      · rename_i hj
        rw [hj, hnone]
        rfl
      · rfl
    · unfold balanceOf
      rw [hnone]
      rfl

end Parts

/-- **Every commit keeps the books of every variant.** -/
theorem booked_commit {cfg : Config} {c : ShopCommit cfg} {Inv : Db → Prop} {G : List (LockKey schema) → Db → Db → Prop}
    (hf : c.Faithful Inv G) (id : Uuid) : Booked id c.before c.after := by
  have hmoves := (parts_shopTx cfg c.op).moves (moves_variantPart id) _ _ _ _ _ hf
  show Booked id c.before (written c.out.writes c.before)
  have hmoves : Relation.ReflTransGen (Booked id) c.before (written c.out.writes c.before) := hmoves
  generalize written c.out.writes c.before = b at hmoves
  induction hmoves with
  | refl => exact .of_kept rfl rfl
  | tail _ h ih => exact ih.trans h

/-! ## Every line is written under the lock of its variant -/

/-- The writes that draw from the sequence of `inventory_movements.id`. -/
def isMovement : Write schema → Bool
  | .append (.movement _) => true
  | _ => false

/-- The row whose trigger made the line; no other write asks. -/
def ledgerLock : Write schema → LockKey schema
  | .append (.movement m) => .row Tab.variants m.variantId
  | _ => .row Tab.variants 0

/-- A line is written by who holds the lock of its variant. -/
def LinesUnder (L : List (LockKey schema)) (w : Write schema) : Prop := isMovement w = true → ledgerLock w ∈ L

theorem under_audit {ctx : AuditContext} {k : Uuid} {old new : Variant} {L : List (LockKey schema)}
    (hk : LockKey.row (D := schema) Tab.variants k ∈ L) :
    Under LinesUnder (fun _ _ => True) (auditInventoryMovement ctx k old new) L := by
  unfold auditInventoryMovement
  split
  · trivial
  · exact ⟨fun _ => hk, trivial⟩

theorem guarded_variantPart {α : Type} {t : Trans α} (h : VariantPart α t) : Guarded LinesUnder t := by
  have hupdate : ∀ (L : List (LockKey schema)) (k : Uuid) (f : Variant → Variant),
      LinesUnder L (.update (D := schema) Tab.variants k f) := fun _ _ _ hd => by cases hd
  cases h with
  | other h hts =>
    refine guarded_of_writes (h.mono fun w hw L hd => ?_)
    cases w with
    | append l =>
      cases l with
      | movement m => exact absurd (hw.movement m rfl) hts
      | status l => cases hd
    | _ => cases hd
  | update ctx k p hf =>
    intro L
    refine under_bind.2 (under_updateWhere (D := schema) (t := Tab.variants) (hupdate _ _ _) (fun _ => trivial) fun old => ?_)
    exact under_bind.2 ((under_audit List.mem_cons_self).mono fun _ _ _ => trivial)
  | save k entity reloaded =>
    intro L
    refine under_bind.2 (under_forUpdate.2 fun row => ?_)
    cases row with
    | none => trivial
    | some old => exact under_bind.2 ⟨hupdate _ _ _, under_audit List.mem_cons_self⟩
  | adjust k dto actorId =>
    intro L
    unfold updateVariant
    simp only [under_bind, under_ensure]
    exact fun _ => under_fetch.2 fun v _ => ⟨hupdate _ _ _, under_audit List.mem_cons_self⟩
  | insert ctx k v =>
    intro L
    refine under_bind.2 (under_insert (D := schema) (t := Tab.variants) ?_ (under_audit List.mem_cons_self))
    exact fun hd => by cases hd

theorem guarded_shopTx (cfg : Config) (op : Op ⊕ BackOp) :
    Guarded (DrawsUnder (S := shop cfg) isMovement ledgerLock) ((shop cfg).tx op) :=
  (parts_shopTx cfg op).guarded guarded_variantPart

/-! ## The ledger and its ids -/

/-- The line of the variant that a write stored, with its id. -/
def numberedLine? (id : Uuid) (e : Write schema × ℕ) : Option (ℕ × Movement) :=
  match e.1 with
  | .append l => (Log.lineOf? id l).map fun m => (e.2, m)
  | _ => none

/-- The lines of a variant with their ids, as they are stored. -/
def numberedLedger {cfg : Config} (id : Uuid) (n : Numbers (shop cfg)) : List (ℕ × Movement) :=
  n.stored.filterMap (numberedLine? id)

/-- **The ledger of a variant is exact**: it lists the movements in the order of their ids, each carries on from the one
before, the first from nothing, and they sum up to the balances. -/
structure LedgerExact {cfg : Config} (id : Uuid) (s : Db) (n : Numbers (shop cfg)) : Prop where
  lines : (numberedLedger id n).map Prod.snd = ledgerOf id s
  ascending : (numberedLedger id n).Pairwise fun a b => a.1 < b.1
  sums : ∀ v, s.find Tab.variants id = some v → v.stockQuantity = ((ledgerOf id s).map Movement.stockDelta).sum ∧
    v.reservedQuantity = ((ledgerOf id s).map Movement.reservedDelta).sum
  carries : ∀ pre m post, ledgerOf id s = pre ++ m :: post →
    m.stockAfter = pre.getLast?.elim 0 Movement.stockAfter + m.stockDelta ∧
      m.reservedAfter = pre.getLast?.elim 0 Movement.reservedAfter + m.reservedDelta

/-- The trigger has just been created, and the variant is not there yet. -/
structure BeforeInsertion (id : Uuid) (s : Db) : Prop where
  ledger : ∀ l ∈ s.log, isMovement (.append l) = false
  absent : s.find Tab.variants id = none

/-- The movements of a database, as the writes that made them. -/
def movementsOf (s : Db) : List (Write schema) := (s.log.map Write.append).filter isMovement

theorem movementsOf_written (ws : List (Write schema)) (s : Db) :
    movementsOf (written ws s) = movementsOf s ++ ws.filter isMovement := by
  induction ws generalizing s with
  | nil => exact (List.append_nil _).symm
  | cons w ws ih =>
    have happly : movementsOf (w.apply s) = movementsOf s ++ [w].filter isMovement := by
      cases w with
      | append l =>
        unfold movementsOf
        rw [← List.filter_append, show (Write.apply (.append l) s).log = s.log ++ [l] from rfl, List.map_append]
        rfl
      | _ => exact (List.append_nil _).symm
    rw [written_cons, ih, happly, List.append_assoc, ← List.filter_append]
    rfl

theorem ledgerOf_movementsOf (id : Uuid) (s : Db) : ledgerOf id s = (movementsOf s).filterMap fun w =>
    match w with
    | .append l => Log.lineOf? id l
    | _ => none := by
  unfold ledgerOf movementsOf
  rw [List.filterMap_filter, List.filterMap_map]
  refine List.filterMap_congr fun l _ => ?_
  cases l <;> rfl

variable {cfg : Config}

theorem numberedLedger_map (id : Uuid) {n : Numbers (shop cfg)} {s : Db} (h : n.stored.map Prod.fst = movementsOf s) :
    (numberedLedger id n).map Prod.snd = ledgerOf id s := by
  unfold numberedLedger
  rw [ledgerOf_movementsOf, ← h, List.filterMap_map, List.map_filterMap]
  refine List.filterMap_congr fun e _ => ?_
  obtain ⟨w, m⟩ := e
  cases w with
  | append l =>
    show ((Log.lineOf? id l).map _).map _ = Log.lineOf? id l
    rw [Option.map_map]
    exact Option.map_id' ..
  | _ => rfl

theorem numberedLedger_ascending (id : Uuid) {n : Numbers (shop cfg)}
    (h : n.stored.Pairwise (InOrder (S := shop cfg) ledgerLock)) :
    (numberedLedger id n).Pairwise fun a b => a.1 < b.1 := by
  unfold numberedLedger
  rw [List.pairwise_filterMap]
  have hline : ∀ (e : Write schema × ℕ) (a : ℕ × Movement), numberedLine? id e = some a →
      a.1 = e.2 ∧ ledgerLock e.1 = .row Tab.variants id := by
    rintro ⟨w, m⟩ a ha
    cases w with
    | append l =>
      obtain ⟨line, hl, rfl⟩ := Option.map_eq_some_iff.1 ha
      cases l with
      | status l => cases hl
      | movement m' =>
        obtain ⟨hid, _⟩ := Option.ite_none_right_eq_some.1 hl
        exact ⟨rfl, congrArg (LockKey.row (D := schema) Tab.variants) hid⟩
    | _ => cases ha
  refine h.imp fun {e e'} horder a ha a' ha' => ?_
  obtain ⟨h1, h2⟩ := hline e a ha
  obtain ⟨h3, h4⟩ := hline e' a' ha'
  rw [h1, h3]
  exact horder (h2.trans h4.symm)

/-- **The inventory ledger is exact**: every run from before the variant was inserted can be numbered, and however it is, its
ledger is exact where the run ends. -/
theorem inventory_ledger_exact (cfg : Config) (id : Uuid) (next : ℕ)
    (e : Execution (shop cfg) (BeforeInsertion id) fun _ => True) :
    (∃ n, NumberedRun isMovement (quiet e.init) (.fresh next) e.events e.final n) ∧
      ∀ n, NumberedRun isMovement (quiet e.init) (.fresh next) e.events e.final n → LedgerExact id e.final.db n := by
  refine ⟨e.run.numbered _, fun n run => ?_⟩
  have hempty : movementsOf e.init = [] := by
    unfold movementsOf
    rw [List.filter_eq_nil_iff]
    intro w hw
    obtain ⟨l, hl, rfl⟩ := List.mem_map.1 hw
    rw [e.starts.ledger l hl]
    exact Bool.false_ne_true
  have hfresh : Numbers.Fit (S := shop cfg) isMovement ledgerLock (quiet e.init) (.fresh next) :=
    Numbers.fit_quiet (fun _ => rfl) (fun _ h => nomatch h) .nil
  have hfit := run.fit (guarded_shopTx cfg) hfresh
  have hstored := run.stored (guarded_shopTx cfg) hfresh movementsOf_written hempty.symm
  have hk : Keeps (S := shop cfg) (Booked id e.init) (fun _ _ _ => True) (fun _ => True) fun _ => True :=
    fun c _ hI hf _ => ⟨hI.trans (booked_commit hf id), trivial⟩
  have hbooked : Booked id e.init e.final.db := by
    rcases e.run.sound_or_first hk (.of_kept rfl rfl) fun _ _ => trivial with ⟨_, h, _⟩ | ⟨_, _, hbad, _⟩
    · exact h
    · exact absurd trivial hbad
  obtain ⟨lines, hlines, hcontinues⟩ := hbooked
  have hnone : ledgerOf id e.init = [] := by rw [ledgerOf_movementsOf, hempty, List.filterMap_nil]
  rw [hnone, List.nil_append] at hlines
  rw [show balanceOf id e.init = (0, 0) by rw [balanceOf, e.starts.absent]; rfl] at hcontinues
  refine ⟨numberedLedger_map id hstored, ?_, fun v hv => ?_, fun pre m post hsplit => ?_⟩
  · exact numberedLedger_ascending id (List.pairwise_append.1 (hfit.ordered 0)).1
  · obtain ⟨h1, h2⟩ := hcontinues.sums
    rw [show balanceOf id e.final.db = v.balance by rw [balanceOf, hv]; rfl, zero_add] at h1 h2
    rw [hlines]
    exact ⟨h1, h2⟩
  · rw [hlines] at hsplit
    subst hsplit
    exact hcontinues.carries

/-! ### A new variant is sold -/

def emptyShop : Db := ⟨fun _ => ∅, []⟩

/-- A variant is created, and a customer reserves a piece of it. -/
def newlySold : Execution (shop sampleConfig) (BeforeInsertion 1) fun _ => True :=
  .ofSchedule emptyShop
    [.arrive (.inr (.createVariant ⟨1, "AO-1", 5, none, Int.zero_le_ofNat 5⟩ none)), .go 0, .go 0, .arrive (.inl (saleCall 1 7)), .go 1,
      .answer 1 (.cart [cartLine] 10000000), .go 1]
    ⟨fun _ hl => (nomatch hl), rfl⟩ fun _ _ => trivial

theorem newlySold_exact : (∃ n : Numbers (shop sampleConfig), LedgerExact 1 newlySold.final.db n) ∧
    (ledgerOf 1 newlySold.final.db).map (fun m => (m.stockDelta, m.reservedDelta)) = [(5, 0), (0, 1)] := by
  obtain ⟨⟨n, hnumbered⟩, hexact⟩ := inventory_ledger_exact sampleConfig 1 0 newlySold
  exact ⟨⟨n, hexact n hnumbered⟩, by decide +kernel⟩

end Balii
