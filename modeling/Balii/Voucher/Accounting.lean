import Balii.Voucher.Edits
/-!
# Voucher.Accounting — the counter is the number of uses, and stays within the limits

The invariant of one voucher is carried by all commits: a use checks both limits under the lock of the voucher, and while
the lock is held no other transaction adds a use of it.
-/
namespace Balii

open Rowdb Tx Sql System

/-- **The accounts of a voucher are right.** -/
structure Accounted (id : Uuid) (s : Db) : Prop where
  counted : ∀ v, s.find Tab.vouchers id = some v → v.usedCount = usesOf id s
  limited : ∀ v, s.find Tab.vouchers id = some v → ∀ limit ∈ v.usageLimit, v.usedCount ≤ limit
  perUser : ∀ v, s.find Tab.vouchers id = some v → ∀ userId, usesBy id userId s ≤ v.userLimitPerUser
  absent : s.find Tab.vouchers id = none → usesOf id s = 0

/-- Without the voucher's lock nobody adds a use of it. -/
def UsesUnderLock (id : Uuid) (L : List (LockKey schema)) (a b : Db) : Prop :=
  LockKey.row (D := schema) Tab.vouchers id ∉ L → ∀ orderId u, b.find Tab.voucherUsages orderId = some u → u.voucherId = id →
    a.find Tab.voucherUsages orderId = some u

/-- The voucher is not there yet, or nobody has used it. -/
structure Unused (id : Uuid) (s : Db) : Prop where
  usages : ∀ orderId u, s.find Tab.voucherUsages orderId = some u → u.voucherId ≠ id
  voucher : ∀ v, s.find Tab.vouchers id = some v →
    v.usedCount = 0 ∧ (∀ limit ∈ v.usageLimit, 0 ≤ limit) ∧ 0 ≤ v.userLimitPerUser

/-- Vouchers are created by `create`, and no edit sets the voucher's counter or its limits. -/
def LeavesLimits (id : Uuid) : Op ⊕ BackOp → Prop
  | .inr (.insertVoucher _ v) => ∃ (cfg : Config) (dto : CreateVoucher), v = dto.row cfg
  | .inr (.updateVoucherRow k entity reloaded) => k = id → entity.usedCount = reloaded.usedCount ∧
      entity.usageLimit = reloaded.usageLimit ∧ entity.userLimitPerUser = reloaded.userLimitPerUser
  | _ => True

/-! ## Counting -/

section Counting
variable {R : List (LockKey schema) → Db → Db → Prop} {s b : Db} {p : VoucherUsage → Bool}

theorem usagesWhere_of_rows (h : b.rows Tab.voucherUsages = s.rows Tab.voucherUsages) : usagesWhere p b = usagesWhere p s := by
  unfold usagesWhere
  rw [h]

theorem usagesWhere_nonneg : 0 ≤ usagesWhere p s := AList.count_nonneg _ _

theorem usagesWhere_of_erase {orderId : Uuid} {u : VoucherUsage} (hu : s.find Tab.voucherUsages orderId = some u)
    (h : b.rows Tab.voucherUsages = (s.rows Tab.voucherUsages).erase orderId) :
    usagesWhere p s = (if p u then 1 else 0) + usagesWhere p b := by
  unfold usagesWhere
  rw [h]
  exact AList.count_erase hu

theorem usagesWhere_of_insert {orderId : Uuid} {u : VoucherUsage} (hu : s.find Tab.voucherUsages orderId = none)
    (h : b.rows Tab.voucherUsages = (s.rows Tab.voucherUsages).insertNew orderId u) :
    usagesWhere p b = (if p u then 1 else 0) + usagesWhere p s := by
  unfold usagesWhere
  rw [h]
  exact AList.count_insertNew u hu

theorem usagesWhere_mono (h : ∀ k u, b.find Tab.voucherUsages k = some u → p u = true → s.find Tab.voucherUsages k = some u) :
    usagesWhere p b ≤ usagesWhere p s :=
  AList.count_mono h

theorem usagesWhere_le {q : VoucherUsage → Bool} (h : ∀ u, p u = true → q u = true) : usagesWhere p s ≤ usagesWhere q s :=
  AList.count_le_count fun _ u => h u

theorem usagesWhere_eq_zero (h : ∀ k u, s.find Tab.voucherUsages k = some u → p u = false) : usagesWhere p s = 0 := by
  unfold usagesWhere AList.count
  rw [AList.total_congr (g := fun _ _ => 0) fun k u hu => if_neg (by simp [h k u hu])]
  unfold AList.total
  exact List.sum_map_zero

theorem Unused.accounted {id : Uuid} (h : Unused id s) : Accounted id s := by
  have hzero : ∀ p : VoucherUsage → Bool, (∀ u, p u = true → u.voucherId = id) → usagesWhere p s = 0 := fun p hp =>
    usagesWhere_eq_zero fun k u hu => by
      cases hpu : p u with
      | false => rfl
      | true => exact absurd (hp u hpu) (h.usages k u hu)
  have hall : usesOf id s = 0 := hzero _ fun u hu => beq_iff_eq.1 hu
  refine ⟨fun v hv => ?_, fun v hv limit hl => ?_, fun v hv userId => ?_, fun _ => hall⟩
  · rw [hall]
    exact (h.voucher v hv).1
  · rw [(h.voucher v hv).1]
    exact (h.voucher v hv).2.1 limit hl
  · rw [usesBy, hzero _ fun u hu => beq_iff_eq.1 (Bool.and_eq_true _ _ ▸ hu).1]
    exact (h.voucher v hv).2.2

end Counting

/-! ## One change -/

section Change
variable {s b : Db} {id : Uuid}

/-- A voucher whose counter and limits stay, with its uses. -/
theorem Accounted.congr (h : Accounted id s) (hu : b.rows Tab.voucherUsages = s.rows Tab.voucherUsages)
    (hv : ∀ w, b.find Tab.vouchers id = some w → ∃ v, s.find Tab.vouchers id = some v ∧ w.usedCount = v.usedCount ∧
      w.usageLimit = v.usageLimit ∧ w.userLimitPerUser = v.userLimitPerUser)
    (hnone : b.find Tab.vouchers id = none → s.find Tab.vouchers id = none) : Accounted id b := by
  refine ⟨fun w hw => ?_, fun w hw limit hl => ?_, fun w hw userId => ?_, fun hb => ?_⟩
  · obtain ⟨v, hs, h1, _⟩ := hv w hw
    rw [h1, h.counted v hs]
    exact (usagesWhere_of_rows hu).symm
  · obtain ⟨v, hs, h1, h2, _⟩ := hv w hw
    rw [h1]
    exact h.limited v hs limit (h2 ▸ hl)
  · obtain ⟨v, hs, _, _, h3⟩ := hv w hw
    rw [h3]
    exact (usagesWhere_of_rows hu).trans_le (h.perUser v hs userId)
  · exact (usagesWhere_of_rows hu).trans (h.absent (hnone hb))

theorem Accounted.kept (h : Accounted id s) (hv : b.rows Tab.vouchers = s.rows Tab.vouchers)
    (hu : b.rows Tab.voucherUsages = s.rows Tab.voucherUsages) : Accounted id b := by
  have hfind := Database.find_of_rows (D := schema) hv id
  refine h.congr hu (fun w hw => ⟨w, hfind.symm.trans hw, rfl, rfl, rfl⟩) fun hn => hfind.symm.trans hn

/-- **A release takes back what it counted.** -/
theorem Accounted.released (h : Accounted id s) {orderId : Uuid} {u : VoucherUsage}
    (hrow : s.find Tab.voucherUsages orderId = some u)
    (hv : b.rows Tab.vouchers = (s.rows Tab.vouchers).modify u.voucherId Voucher.release)
    (hu : b.rows Tab.voucherUsages = (s.rows Tab.voucherUsages).erase orderId) : Accounted id b := by
  have hall := usagesWhere_of_erase (p := fun w => w.voucherId == id) hrow hu
  have hpos : 0 ≤ usesOf id b := usagesWhere_nonneg
  have hby : ∀ userId, usesBy id userId b ≤ usesBy id userId s := fun userId => by
    have := usagesWhere_of_erase (p := fun w => w.voucherId == id && w.userId == userId) hrow hu
    unfold usesBy
    rw [this]
    split <;> omega
  have hfind := Database.find_of_modify (D := schema) (t := Tab.vouchers) hv id
  by_cases hid : id = u.voucherId
  · rw [if_pos hid] at hfind
    have hall : usesOf id s = 1 + usesOf id b := by simpa [hid, usesOf] using hall
    cases hs : s.find Tab.vouchers id with
    | none =>
      -- a row of a voucher that is not there
      have := h.absent hs
      omega
    | some v =>
      rw [hs, Option.map_some] at hfind
      have hcount := h.counted v hs
      have hnew : v.release.usedCount = usesOf id b := by
        show max (v.usedCount - 1) 0 = _
        omega
      refine ⟨fun w hw => ?_, fun w hw limit hl => ?_, fun w hw userId => ?_, fun hb => ?_⟩
      · cases hfind.symm.trans hw
        exact hnew
      · cases hfind.symm.trans hw
        have := h.limited v hs limit hl
        omega
      · cases hfind.symm.trans hw
        exact (hby userId).trans (h.perUser v hs userId)
      · cases hfind.symm.trans hb
  · rw [if_neg hid] at hfind
    have hall : usesOf id s = usesOf id b := by simpa [Ne.symm hid, usesOf] using hall
    refine ⟨fun w hw => ?_, fun w hw => h.limited w (hfind.symm.trans hw), fun w hw userId => ?_, fun hb => ?_⟩
    · rw [h.counted w (hfind.symm.trans hw), hall]
    · exact (hby userId).trans (h.perUser w (hfind.symm.trans hw) userId)
    · rw [← hall]
      exact h.absent (hfind.symm.trans hb)

/-- **A use within the limits leaves the counter within them.** -/
theorem Accounted.used {R : List (LockKey schema) → Db → Db → Prop} {locks : List (LockKey schema)} (h : Accounted id s)
    {orderId : Uuid} {u : VoucherUsage} {v : Voucher} (hused : Used R s b locks orderId u v)
    (hseen : u.voucherId = id → usesBy id u.userId s < v.userLimitPerUser) : Accounted id b := by
  have hcount := fun p => usagesWhere_of_insert (p := p) hused.fresh hused.usages
  have hfind := Database.find_of_modify (D := schema) (t := Tab.vouchers) hused.vouchers id
  by_cases hid : id = u.voucherId
  · rw [if_pos hid, hid, hused.voucher, Option.map_some] at hfind
    have hv : s.find Tab.vouchers id = some v := hid ▸ hused.voucher
    have hall : usesOf id b = 1 + usesOf id s := by simpa [hid, usesOf] using hcount fun w => w.voucherId == id
    refine ⟨fun w hw => ?_, fun w hw limit hl => ?_, fun w hw userId => ?_, fun hb => ?_⟩
    · cases hfind.symm.trans (hid ▸ hw)
      have := h.counted v hv
      show v.usedCount + 1 = _
      omega
    · cases hfind.symm.trans (hid ▸ hw)
      have := hused.limit limit hl
      show v.usedCount + 1 ≤ _
      omega
    · cases hfind.symm.trans (hid ▸ hw)
      have hby := hcount fun w => w.voucherId == id && w.userId == userId
      show usesBy id userId b ≤ v.userLimitPerUser
      by_cases huser : u.userId = userId
      · have hroom := hseen hid.symm
        rw [huser] at hroom
        have : usesBy id userId b = 1 + usesBy id userId s := by simpa [hid, huser, usesBy] using hby
        omega
      · have : usesBy id userId b = usesBy id userId s := by simpa [hid, huser, usesBy] using hby
        rw [this]
        exact h.perUser v hv userId
    · cases hfind.symm.trans (hid ▸ hb)
  · rw [if_neg hid] at hfind
    have hsame : ∀ p : VoucherUsage → Bool, p u = false → usagesWhere p b = usagesWhere p s := fun p hp => by
      rw [hcount p, hp]
      simp
    have hne : (u.voucherId == id) = false := beq_eq_false_iff_ne.2 (Ne.symm hid)
    refine ⟨fun w hw => ?_, fun w hw => h.limited w (hfind.symm.trans hw), fun w hw userId => ?_, fun hb => ?_⟩
    · rw [h.counted w (hfind.symm.trans hw)]
      exact (hsame _ hne).symm
    · exact (hsame _ (by simp [hne])).trans_le (h.perUser w (hfind.symm.trans hw) userId)
    · exact (hsame _ hne).trans (h.absent (hfind.symm.trans hb))

theorem Accounted.step (h : Accounted id s) (hstep : ReleaseStep s b) : Accounted id b := by
  cases hstep with
  | kept hv hu => exact h.kept hv hu
  | released hrow hv hu => exact h.released hrow hv hu

/-- Releases add no use. -/
theorem ReleaseStep.usages {orderId : Uuid} {u : VoucherUsage} (hstep : ReleaseStep s b)
    (hu : b.find Tab.voucherUsages orderId = some u) : s.find Tab.voucherUsages orderId = some u := by
  cases hstep with
  | kept _ h => exact (Database.find_of_rows (D := schema) h orderId).symm.trans hu
  | @released k _ _ _ h =>
    unfold Database.find at hu ⊢
    rw [h, AList.lookup_erase_eq] at hu
    split at hu
    · cases hu
    · exact hu

end Change

/-! ## Every commit -/

variable {cfg : Config} {c : ShopCommit cfg} {id : Uuid}

/-- **Every commit keeps the accounts of the voucher**, and adds no use of it without its lock. -/
theorem accounted_commit (hp : LeavesLimits id c.op) (h : Accounted id c.before)
    (hf : c.Faithful (Accounted id) (UsesUnderLock id)) :
    Accounted id c.after ∧ UsesUnderLock id c.out.locks c.before c.after := by
  cases voucher_change hf with
  | released hmoves =>
    generalize c.after = b at hmoves
    induction hmoves with
    | refl => exact ⟨h, fun _ _ _ hu _ => hu⟩
    | tail _ hstep ih => exact ⟨ih.1.step hstep, fun hl k u hu hid => ih.2 hl k u (hstep.usages hu) hid⟩
  | @used orderId u v hused =>
    refine ⟨h.used hused fun hid => ?_, fun hl k w hw hid => ?_⟩
    · -- what was counted under the lock can only have shrunk since
      obtain ⟨L, s₀, hL, ⟨_, hothers⟩, hroom⟩ := hused.seen
      rw [hid] at hL hroom
      refine lt_of_le_of_lt (usagesWhere_mono fun k w hw hp => ?_) hroom
      have hback : ∀ s', Relation.ReflTransGen (Others (S := platform cfg) (UsesUnderLock id) L) s₀ s' →
          s'.find Tab.voucherUsages k = some w → s₀.find Tab.voucherUsages k = some w := by
        intro s' hs'
        induction hs' with
        | refl => exact fun hw => hw
        | tail _ hstep ih =>
          obtain ⟨K, hK, hg, _⟩ := hstep
          exact fun hw => ih (hg (fun hk => hK _ hk hL) k w hw (beq_iff_eq.1 (Bool.and_eq_true _ _ ▸ hp).1))
      exact hback _ hothers hw
    · unfold Database.find at hw ⊢
      rw [hused.usages, AList.lookup_insertNew] at hw
      split at hw
      · rename_i hk
        have hfresh : (c.before.rows Tab.voucherUsages).lookup orderId = none := hused.fresh
        rw [hk, hfresh] at hw
        cases hw
        exact absurd (hid ▸ hused.locked) hl
      · exact hw
  | @created k v hop hnone hv hu =>
    refine ⟨?_, fun _ k u hk _ => (Database.find_of_rows (D := schema) hu k).symm.trans hk⟩
    obtain ⟨cfg', dto, rfl⟩ : ∃ (cfg' : Config) (dto : CreateVoucher), v = dto.row cfg' := by
      rw [hop] at hp
      exact hp
    by_cases hid : id = k
    · subst hid
      have hfind : c.after.find Tab.vouchers id = some (dto.row cfg') := by
        unfold Database.find at hnone ⊢
        rw [hv, AList.lookup_insertNew, if_pos rfl, hnone]
        rfl
      have hzero := h.absent hnone
      refine ⟨fun w hw => ?_, fun w hw limit hl => ?_, fun w hw userId => ?_, fun hb => ?_⟩
      · cases hfind.symm.trans hw
        exact (hzero.symm.trans (usagesWhere_of_rows hu).symm)
      · cases hfind.symm.trans hw
        have := dto.usageLimit_pos limit hl
        show (0 : ℤ) ≤ limit
        omega
      · cases hfind.symm.trans hw
        have hle : usesBy id userId c.after ≤ usesOf id c.after :=
          usagesWhere_le fun u hp => (Bool.and_eq_true _ _ ▸ hp).1
        have hall : usesOf id c.after = 0 := (usagesWhere_of_rows hu).trans hzero
        have hlimit : 0 ≤ (dto.row cfg').userLimitPerUser := by
          show 0 ≤ dto.userLimitPerUser.getD 1
          cases hd : dto.userLimitPerUser with
          | none => decide
          | some l => exact (zero_le_one).trans (dto.userLimitPerUser_pos l hd)
        omega
      · cases hfind.symm.trans hb
    · have hfind : c.after.find Tab.vouchers id = c.before.find Tab.vouchers id := by
        unfold Database.find
        rw [hv, AList.lookup_insertNew_ne _ _ hid]
      exact h.congr hu (fun w hw => ⟨w, hfind.symm.trans hw, rfl, rfl, rfl⟩) fun hn => hfind.symm.trans hn
  | @edited k entity reloaded hop hv hu =>
    refine ⟨?_, fun _ k u hk _ => (Database.find_of_rows (D := schema) hu k).symm.trans hk⟩
    have hfind := Database.find_of_modify (D := schema) (t := Tab.vouchers) hv id
    by_cases hid : id = k
    · rw [if_pos hid] at hfind
      rw [hop] at hp
      obtain ⟨h1, h2, h3⟩ := hp hid.symm
      refine h.congr hu (fun w hw => ?_) fun hn => Option.map_eq_none_iff.1 (hfind.symm.trans hn)
      obtain ⟨v, hv, rfl⟩ := Option.map_eq_some_iff.1 (hfind.symm.trans hw)
      exact ⟨v, hv, savedColumn_eq_current.2 (.inl h1), savedColumn_eq_current.2 (.inl h2), savedColumn_eq_current.2 (.inl h3)⟩
    · rw [if_neg hid] at hfind
      exact h.congr hu (fun w hw => ⟨w, hfind.symm.trans hw, rfl, rfl, rfl⟩) fun hn => hfind.symm.trans hn

/-- **Voucher accounting**: in every state of every run the counter is the number of uses, no more than the limit, and no
user has more uses than one may have. -/
theorem voucher_accounting (cfg : Config) (id : Uuid) (e : Execution (shop cfg) (Unused id) (LeavesLimits id)) :
    ∀ s ∈ e.history, ∀ v, s.find Tab.vouchers id = some v → v.usedCount = usesOf id s ∧
      (∀ limit ∈ v.usageLimit, v.usedCount ≤ limit) ∧ ∀ userId, usesBy id userId s ≤ v.userLimitPerUser := by
  have hk : Keeps (S := shop cfg) (Accounted id) (UsesUnderLock id) (LeavesLimits id) fun _ => True :=
    fun c hp h hf _ => accounted_commit hp h hf
  intro s hs v hv
  have h := e.invariant hk (fun _ h => h.accounted) (fun _ _ => trivial) hs
  exact ⟨h.counted v hv, h.limited v hv, h.perUser v hv⟩

/-- The voucher is used for an order. -/
def voucherUsed : Execution (shop sampleConfig) (Unused 1) (LeavesLimits 1) :=
  .ofSchedule voucherShop [.arrive (.inl voucherCheckout), .go 0, .answer 0 (.cart [cartLine] 10000000), .go 0]
    ⟨fun _ _ h => (nomatch h), fun v h => by cases h; decide⟩ fun c hc => by
    have hinl := forall_commit (S := shop sampleConfig) (p := fun c => Sum.isLeft c.op) (by decide +kernel) c hc
    obtain ⟨op, hop⟩ := Sum.isLeft_iff.1 hinl
    rw [hop]
    trivial

theorem voucherUsed_counted : ∃ v, voucherUsed.final.db.find Tab.vouchers 1 = some v ∧ v.usedCount = usesOf 1 voucherUsed.final.db := by
  have hvoucher : (voucherUsed.final.db.find Tab.vouchers 1).isSome = true := by decide +kernel
  obtain ⟨v, hv⟩ := Option.isSome_iff_exists.1 hvoucher
  exact ⟨v, hv, (voucher_accounting sampleConfig 1 voucherUsed _ voucherUsed.final_mem_history v hv).1⟩

end Balii
