import Balii.Lib.Provenance
import Balii.Numerals
import Balii.Payment.PaymentCodes
import Balii.Voucher.Accounting
import Balii.Voucher.Preview
import Mathlib.Data.List.DropRight
/-!
# Voucher.Offers — the vouchers a customer is offered, and the vouchers that are accepted

`findAvailable` lists rows, and both services look a row up by its code.  A code names one row: whatever the admins do, codes are
kept upper-case, without space around them, and apart.
-/
namespace Balii

open Rowdb Tx Sql System

/-! ## The list -/

/-- `getVoucherStatus`. -/
inductive VoucherStatus
  | inactive
  | expired
  | usedUp
  | scheduled
  | active
  deriving DecidableEq, Repr

def getVoucherStatus (v : Voucher) (now : Time) : VoucherStatus :=
  if v.isActive = false then .inactive
  else if v.expiresAt < now then .expired
  else if ∃ limit ∈ v.usageLimit, limit ≤ v.usedCount then .usedUp
  else if now < v.startsAt then .scheduled
  else .active

/-- The `WHERE` of `findAvailable`. -/
def Voucher.isAvailable (v : Voucher) (now : Time) : Bool :=
  v.isActive && decide (v.startsAt ≤ now) && decide (now ≤ v.expiresAt) && decide (∀ limit ∈ v.usageLimit, v.usedCount < limit)

/-- `findAvailable`, in no particular order. -/
def findAvailable (orderAmount : Option ℚ) (now : Time) (s : Db) : List (Uuid × Voucher) :=
  ((s.rows Tab.vouchers).select fun _ v => v.isAvailable now).filter fun e =>
    !decide (∃ amount ∈ orderAmount, amount < amountNumber e.2.minOrderAmount)

theorem mem_findAvailable {amount : ℚ} {now : Time} {s : Db} {id : Uuid} {v : Voucher} :
    (id, v) ∈ findAvailable (some amount) now s ↔ s.find Tab.vouchers id = some v ∧ v.isActive = true ∧ v.inWindow now ∧
      (∀ limit ∈ v.usageLimit, v.usedCount < limit) ∧ amountNumber v.minOrderAmount ≤ amount := by
  unfold findAvailable Voucher.isAvailable Voucher.inWindow
  rw [List.mem_filter, AList.mem_select]
  simp only [Bool.and_eq_true, decide_eq_true_eq, Bool.not_eq_true', decide_eq_false_iff_not, Option.mem_some_iff, exists_eq_left', not_lt]
  constructor
  · rintro ⟨⟨hv, ⟨⟨hactive, hstart⟩, hend⟩, hlimit⟩, hmin⟩
    exact ⟨hv, hactive, ⟨hstart, hend⟩, hlimit, hmin⟩
  · rintro ⟨hv, hactive, ⟨hstart, hend⟩, hlimit, hmin⟩
    exact ⟨⟨hv, ⟨⟨hactive, hstart⟩, hend⟩, hlimit⟩, hmin⟩

theorem status_of_listed {amount : ℚ} {now : Time} {s : Db} {id : Uuid} {v : Voucher} (h : (id, v) ∈ findAvailable (some amount) now s) :
    getVoucherStatus v now = .active := by
  obtain ⟨_, hactive, ⟨hstart, hend⟩, hlimit, _⟩ := mem_findAvailable.1 h
  unfold getVoucherStatus
  rw [if_neg (by simp [hactive]), if_neg (not_lt.2 hend), if_neg, if_neg (not_lt.2 hstart)]
  rintro ⟨limit, hmem, hle⟩
  exact absurd (hlimit limit hmem) (not_lt.2 hle)

/-! ## Codes as they are kept -/

section Text

theorem toNat_toUpper (c : Char) : c.toUpper.toNat = if 97 ≤ c.toNat ∧ c.toNat ≤ 122 then c.toNat - 32 else c.toNat := by
  unfold Char.toUpper
  by_cases h : 97 ≤ c.toNat ∧ c.toNat ≤ 122
  · have hlower : 'a'.val ≤ c.val ∧ c.val ≤ 'z'.val := by
      rw [UInt32.le_iff_toNat_le, UInt32.le_iff_toNat_le]
      exact h
    rw [if_pos h, dif_pos hlower]
    show (c.val + ('A'.val - 'a'.val)).toNat = c.val.toNat - 32
    have h97 : 97 ≤ c.val.toNat := h.1
    have h122 : c.val.toNat ≤ 122 := h.2
    rw [UInt32.toNat_add]
    have hdiff : ('A'.val - 'a'.val).toNat = 4294967264 := by decide
    rw [hdiff]
    omega
  · rw [if_neg h, dif_neg]
    rintro ⟨h1, h2⟩
    rw [UInt32.le_iff_toNat_le] at h1 h2
    exact h ⟨h1, h2⟩

theorem char_toUpper_toUpper (c : Char) : c.toUpper.toUpper = c.toUpper := by
  have h : c.toUpper.toUpper.toNat = c.toUpper.toNat := by
    rw [toNat_toUpper c.toUpper, if_neg]
    rw [toNat_toUpper]
    split <;> omega
  exact Char.toNat_inj.1 h

theorem isJsSpace_toUpper (c : Char) : isJsSpace c.toUpper = isJsSpace c := by
  unfold isJsSpace
  rw [toNat_toUpper]
  by_cases h : 97 ≤ c.toNat ∧ c.toNat ≤ 122
  · rw [if_pos h, Bool.eq_iff_iff]
    simp only [Bool.or_eq_true, Bool.and_eq_true, decide_eq_true_eq, beq_iff_eq]
    omega
  · rw [if_neg h]

theorem toUpper_toUpper (s : String) : s.toUpper.toUpper = s.toUpper := by
  obtain ⟨cs, rfl⟩ : ∃ cs, s = String.ofList cs := ⟨s.toList, String.ofList_toList.symm⟩
  rw [toUpper_ofList, toUpper_ofList, List.map_map]
  congr 1
  exact List.map_congr_left fun c _ => char_toUpper_toUpper c

theorem trim_toUpper (s : String) : trim s.toUpper = (trim s).toUpper := by
  have hspace : isJsSpace ∘ Char.toUpper = isJsSpace := funext isJsSpace_toUpper
  obtain ⟨cs, rfl⟩ : ∃ cs, s = String.ofList cs := ⟨s.toList, String.ofList_toList.symm⟩
  unfold trim
  rw [toUpper_ofList, toUpper_ofList, String.toList_ofList, String.toList_ofList, List.dropWhile_map, ← List.map_reverse,
    List.dropWhile_map, ← List.map_reverse, hspace]

theorem trim_trim (s : String) : trim (trim s) = trim s := by
  have htrim : ∀ t : String, trim t = String.ofList ((t.toList.dropWhile isJsSpace).rdropWhile isJsSpace) := fun _ => rfl
  generalize hl : s.toList.dropWhile isJsSpace = l
  have hfirst : (l.rdropWhile isJsSpace).dropWhile isJsSpace = l.rdropWhile isJsSpace := by
    rw [List.dropWhile_eq_self_iff]
    intro hpos
    have hl' : l.dropWhile isJsSpace = l := by rw [← hl, List.dropWhile_idempotent]
    have hkept := List.rdropWhile_prefix isJsSpace l
    rw [hkept.getElem hpos]
    exact List.dropWhile_eq_self_iff.1 hl' (hpos.trans_le hkept.length_le)
  rw [htrim, htrim s, String.toList_ofList, hl, hfirst, List.rdropWhile_idempotent]

end Text

/-- What the two upper-casings, of JavaScript and of the database, have to do with each other and with white space. -/
structure UpperCasing (cfg : Config) : Prop where
  /-- The database leaves what is in upper case already. -/
  upper : ∀ s, cfg.upper (cfg.toUpperCase s) = cfg.toUpperCase s
  /-- No letter becomes white space. -/
  trim : ∀ s, trim (cfg.toUpperCase (trim s)) = cfg.toUpperCase (trim s)

/-- As codes are kept: upper-case and without space around them. -/
def Coded (cfg : Config) (code : String) : Prop := cfg.upper code = code ∧ trim code = code

theorem coded_of_input {cfg : Config} (hupper : UpperCasing cfg) (code : String) : Coded cfg (cfg.toUpperCase (trim code)) :=
  ⟨hupper.upper _, hupper.trim _⟩

/-- **The codes are in order**: each as codes are kept, and no two the same. -/
structure Codes (cfg : Config) (s : Db) : Prop where
  coded : ∀ id v, s.find Tab.vouchers id = some v → Coded cfg v.code
  unique : ∀ id id' v v', s.find Tab.vouchers id = some v → s.find Tab.vouchers id' = some v' → v.code = v'.code → id = id'

/-- What others promise: a row takes a code only under the code's lock. -/
def CodesClaimed (L : List (LockKey schema)) (a b : Db) : Prop :=
  ∀ code, LockKey.entry (D := schema) (.voucherCode code) ∉ L → ∀ id w, b.find Tab.vouchers id = some w → w.code = code →
    ∃ v, a.find Tab.vouchers id = some v ∧ v.code = code

/-- Nobody else has the code. -/
def FreeFor (id : Uuid) (code : String) (s : Db) : Prop := ∀ k v, s.find Tab.vouchers k = some v → k ≠ id → v.code ≠ code

/-- Every row was there before, under the same code. -/
def KeepsCodes (a b : Db) : Prop :=
  ∀ id w, b.find Tab.vouchers id = some w → ∃ v, a.find Tab.vouchers id = some v ∧ v.code = w.code

section Change
variable {cfg : Config} {s b : Db} {L : List (LockKey schema)}

theorem KeepsCodes.trans {a : Db} (h : KeepsCodes a s) (h' : KeepsCodes s b) : KeepsCodes a b := by
  intro id w hw
  obtain ⟨v, hv, hcode⟩ := h' id w hw
  obtain ⟨u, hu, hcode'⟩ := h id v hv
  exact ⟨u, hu, hcode'.trans hcode⟩

theorem keepsCodes_of_modify {id : Uuid} {f : Voucher → Voucher} (hb : b.rows Tab.vouchers = (s.rows Tab.vouchers).modify id f)
    (hf : ∀ v, (f v).code = v.code) : KeepsCodes s b := by
  intro k w hw
  rw [Database.find_of_modify (D := schema) (t := Tab.vouchers) hb k] at hw
  split at hw
  · obtain ⟨v, hv, rfl⟩ := Option.map_eq_some_iff.1 hw
    exact ⟨v, hv, (hf v).symm⟩
  · exact ⟨w, hw, rfl⟩

theorem keepsCodes_step (h : ReleaseStep s b) : KeepsCodes s b := by
  cases h with
  | kept hv _ => exact fun id w hw => ⟨w, (Database.find_of_rows (D := schema) hv id).symm.trans hw, rfl⟩
  | released _ hv _ => exact keepsCodes_of_modify hv fun _ => rfl

theorem keepsCodes_release (h : Relation.ReflTransGen ReleaseStep s b) : KeepsCodes s b := by
  induction h with
  | refl => exact fun _ w hw => ⟨w, hw, rfl⟩
  | tail _ hstep ih => exact ih.trans (keepsCodes_step hstep)

theorem codes_of_kept (hkept : KeepsCodes s b) (h : Codes cfg s) : Codes cfg b ∧ CodesClaimed L s b := by
  refine ⟨⟨fun id w hw => ?_, fun id id' w w' hw hw' hcode => ?_⟩, fun code _ id w hw hcode => ?_⟩
  · obtain ⟨v, hv, hcode⟩ := hkept id w hw
    exact hcode ▸ h.coded id v hv
  · obtain ⟨v, hv, hv'⟩ := hkept id w hw
    obtain ⟨u, hu, hu'⟩ := hkept id' w' hw'
    exact h.unique id id' v u hv hu (by rw [hv', hu', hcode])
  · obtain ⟨v, hv, hv'⟩ := hkept id w hw
    exact ⟨v, hv, hv'.trans hcode⟩

/-- One row takes a code that is locked and free. -/
theorem codes_of_taken {id : Uuid} {code : String} (hcoded : Coded cfg code) (hlock : LockKey.entry (D := schema) (.voucherCode code) ∈ L)
    (hfree : FreeFor id code s) (hself : ∀ w, b.find Tab.vouchers id = some w → w.code = code)
    (hothers : ∀ k, k ≠ id → b.find Tab.vouchers k = s.find Tab.vouchers k) (h : Codes cfg s) : Codes cfg b ∧ CodesClaimed L s b := by
  refine ⟨⟨fun k w hw => ?_, fun k k' w w' hw hw' hcode => ?_⟩, fun code' hcode' k w hw hcode => ?_⟩
  · by_cases hk : k = id
    · subst hk
      rw [hself w hw]
      exact hcoded
    · exact h.coded k w ((hothers k hk) ▸ hw)
  · by_cases hk : k = id
    · by_cases hk' : k' = id
      · rw [hk, hk']
      · subst hk
        rw [hself w hw] at hcode
        exact absurd hcode.symm (hfree k' w' ((hothers k' hk') ▸ hw') hk')
    · by_cases hk' : k' = id
      · subst hk'
        rw [hself w' hw'] at hcode
        exact absurd hcode (hfree k w ((hothers k hk) ▸ hw) hk)
      · exact h.unique k k' w w' ((hothers k hk) ▸ hw) ((hothers k' hk') ▸ hw') hcode
  · by_cases hk : k = id
    · subst hk
      rw [hself w hw] at hcode
      exact absurd (hcode ▸ hlock) hcode'
    · exact ⟨w, (hothers k hk) ▸ hw, hcode⟩

end Change

/-! ## Every commit -/

section Commits
variable {cfg : Config} {c : ShopCommit cfg}

/-- What is written under a code is a code as codes are kept. -/
def WritesCoded (c : ShopCommit cfg) : Prop :=
  (∀ id v, c.op = .inr (.insertVoucher id v) → Coded cfg v.code) ∧
    ∀ id entity reloaded, c.op = .inr (.updateVoucherRow id entity reloaded) → Coded cfg entity.code

/-- Neither a new voucher nor an edited one. -/
def WritesNoCode : Op ⊕ BackOp → Prop
  | .inr (.insertVoucher _ _) => False
  | .inr (.updateVoucherRow _ _ _) => False
  | _ => True

theorem WritesNoCode.coded (h : WritesNoCode c.op) : WritesCoded c := by
  refine ⟨fun id v hop => ?_, fun id entity reloaded hop => ?_⟩
  · rw [hop] at h
    exact h.elim
  · rw [hop] at h
    exact h.elim

theorem exec_uniqueVoucherCode (cfg : Config) {id : Uuid} {code : String} {s : Db} {o : Outcome (LockKey schema) (Write schema) Unit}
    (h : Exec (Rely (S := platform cfg) (Codes cfg) CodesClaimed) (uniqueVoucherCode id code) s [] [] o) :
    FreeFor id code s ∧ o = ⟨(), [.entry (.voucherCode code)], []⟩ := by
  obtain ⟨⟨s₀, ⟨_, hothers⟩, hnone⟩, rfl⟩ := exec_unique h
  refine ⟨inv_of_others (fun L a b hL hG hfree k v hv hk hcode => ?_) hothers fun k v hv hk hcode => ?_, rfl⟩
  · obtain ⟨u, hu, hcode'⟩ := hG code (fun hmem => hL _ hmem List.mem_cons_self) k v hv hcode
    exact hfree k u hu hk hcode'
  · have hrow := AList.find_eq_none.1 hnone k v hv
    simp [hk, hcode] at hrow

theorem codes_commit (hw : WritesCoded c) (h : Codes cfg c.before) (hf : c.Faithful (Codes cfg) CodesClaimed) :
    Codes cfg c.after ∧ CodesClaimed c.out.locks c.before c.after := by
  cases voucher_change hf with
  | released hmoves => exact codes_of_kept (keepsCodes_release hmoves) h
  | used hused => exact codes_of_kept (keepsCodes_of_modify hused.vouchers fun _ => rfl) h
  | @created id v hop hnone hv hu =>
    obtain ⟨call, op, s, o⟩ := c
    dsimp only at hop
    subst hop
    obtain ⟨m, hm, h'⟩ := (exec_bind _ (fun _ => _) s _ _ _).1 hf
    obtain ⟨hfree, rfl⟩ := exec_uniqueVoucherCode cfg hm
    obtain ⟨_, rfl⟩ := exec_insert h'
    refine codes_of_taken (hw.1 id v rfl) ?_ hfree (fun w hw' => ?_) (fun k hk => ?_) h
    · simp
    · unfold Database.find at hw' hnone
      rw [hv, AList.lookup_insertNew, if_pos rfl, hnone] at hw'
      cases hw'
      rfl
    · unfold Database.find
      rw [hv, AList.lookup_insertNew_ne _ _ hk]
  | @edited id entity reloaded hop hv hu =>
    by_cases hcode : entity.code = reloaded.code
    · exact codes_of_kept (keepsCodes_of_modify hv fun _ => savedColumn_eq_current.2 (.inl hcode)) h
    · have hfind := Database.find_of_modify (D := schema) (t := Tab.vouchers) hv
      obtain ⟨call, op, s, o⟩ := c
      dsimp only at hop
      subst hop
      have hf' : Exec (Rely (S := platform cfg) (Codes cfg) CodesClaimed) (updateVoucherRow id entity reloaded) s [] [] o := hf
      unfold updateVoucherRow at hf'
      rw [if_neg hcode] at hf'
      obtain ⟨m, hm, h'⟩ := (exec_bind _ (fun _ => _) s _ _ _).1 hf'
      obtain ⟨hfree, rfl⟩ := exec_uniqueVoucherCode cfg hm
      cases h'
      refine codes_of_taken (hw.2 id entity reloaded rfl) (by simp) hfree (fun w hw' => ?_) (fun k hk => ?_) h
      · rw [hfind, if_pos rfl] at hw'
        obtain ⟨v, hv, rfl⟩ := Option.map_eq_some_iff.1 hw'
        exact if_neg hcode
      · exact (hfind k).trans (if_neg hk)

end Commits

/-! ## Every call -/

section Calls
variable {cfg : Config}

/-- What is read of a voucher has a code as codes are kept. -/
def CodedResult (cfg : Config) : (op : Op ⊕ BackOp) → Sum.elim Op.Res BackOp.Res op → Prop
  | .inr (.readVoucher _), found => ∀ v : Voucher, (show Option Voucher from found) = some v → Coded cfg v.code
  | _, _ => True

def ReadsCoded (c : ShopCommit cfg) : Prop := CodedResult cfg c.op c.out.val

theorem readsCoded (c : ShopCommit cfg) (hf : c.Faithful (Codes cfg) CodesClaimed) : ReadsCoded c := by
  obtain ⟨call, op, s, o⟩ := c
  rcases op with op | op
  · trivial
  · cases op with
    | readVoucher id =>
      obtain ⟨s₀, ⟨h, _⟩, ho⟩ := exec_select.1 hf
      have hval : o.val = s₀.find Tab.vouchers id := congrArg (fun x => x.val) ho
      exact fun v hv => h.coded id v (hval.symm.trans hv)
    | _ => trivial

/-- Every read along the trace was of a code as codes are kept. -/
def AllRead (τ : (shop cfg).Trace) : Prop := ∀ c : ShopCommit cfg, .commit c ∈ τ.events → ReadsCoded c

/-- What a program of the shop keeps to. -/
abbrev Careful {α : Type} (i : ℕ) (call : Call ⊕ BackCall) (p : ShopProcedure α) (τ : (shop cfg).Trace)
    (post : Except Err α → (shop cfg).Trace → Prop) : Prop :=
  System.Follows (S := shop cfg) (fun _ => True) i call (fun τ c => AllRead τ → WritesCoded c) p post τ

theorem uses_within {α : Type} (p : Procedure α) :
    (p.within : ShopProcedure α).Uses (fun op => op.isLeft = true) fun _ => True := by
  induction p with
  | done a => trivial
  | fail e => trivial
  | exec op next ih => exact ⟨rfl, ih⟩
  | call c next ih => exact ⟨trivial, ih⟩
  | ask next ih => exact ih

theorem careful_of_uses {α : Type} {i : ℕ} {call : Call ⊕ BackCall} {p : ShopProcedure α} {τ : (shop cfg).Trace}
    (hp : p.Uses WritesNoCode fun _ => True) : Careful i call p τ fun _ _ => True :=
  follows_of_uses (S := shop cfg) hp fun _ _ _ hc _ _ => WritesNoCode.coded hc

theorem careful_saveVoucher {i : ℕ} {call : Call ⊕ BackCall} {id : Uuid} {entity : Voucher} {τ : (shop cfg).Trace}
    (hentity : ∀ τ', τ <+: τ' → AllRead τ' → Coded cfg entity.code) : Careful i call (saveVoucher id entity) τ fun _ _ => True := by
  unfold saveVoucher
  refine follows_bind (S := shop cfg) trivial
    (follows_trans (S := shop cfg) (fun τ₁ s o hl₁ _ => ⟨fun _ => ?_, fun τ₂ hl₂ => ?_⟩) fun _ _ _ => trivial)
  · exact WritesNoCode.coded trivial
  · have hpre : τ <+: τ₂ := hl₁.pre.trans ((List.prefix_append _ _).trans hl₂.pre)
    dsimp only
    split
    · refine follows_trans (S := shop cfg) (fun τ₃ s o hl₃ _ => ⟨fun hread => ?_, fun _ _ => trivial⟩) fun _ _ _ => trivial
      refine ⟨fun _ _ hop => ?_, fun _ _ _ hop => (by cases hop)⟩
      cases hop
      exact hentity τ₃ (hpre.trans hl₃.pre) hread
    · split
      · exact fun _ _ => trivial
      · refine follows_trans (S := shop cfg) (fun τ₃ s o hl₃ _ => ⟨fun hread => ?_, fun _ _ => trivial⟩) fun _ _ _ => trivial
        refine ⟨fun _ _ hop => (by cases hop), fun _ _ _ hop => ?_⟩
        cases hop
        exact hentity τ₃ (hpre.trans hl₃.pre) hread

/-- A voucher is read, and then its code is as codes are kept. -/
theorem careful_read {i : ℕ} {call : Call ⊕ BackCall} {id : Uuid} {next : Voucher → ShopProcedure Reply} {τ : (shop cfg).Trace}
    (hnext : ∀ v, ∀ τ' : (shop cfg).Trace, (∀ τ'' : (shop cfg).Trace, τ' <+: τ'' → AllRead τ'' → Coded cfg v.code) →
      Careful i call (next v) τ' fun _ _ => True) :
    Careful i call (office (.readVoucher id) >>= fun found => Proc.need found (notFound "Voucher not found") >>= next) τ
      fun _ _ => True := by
  refine follows_bind (S := shop cfg) trivial (follows_trans (S := shop cfg) (fun τ₁ s o hl₁ _ => ⟨fun _ => ?_, fun τ₂ hl₂ => ?_⟩)
    fun _ _ _ => trivial)
  · exact WritesNoCode.coded trivial
  · refine follows_bind (S := shop cfg) trivial (follows_need (S := shop cfg) (fun v τ₃ hv hl₃ => hnext v τ₃ fun τ' hpre hall => ?_)
      fun _ _ => trivial)
    refine hall ⟨call, .inr (.readVoucher id), s, o⟩ ?_ v hv
    refine ((hl₂.pre.trans (hl₃.pre.trans hpre)).map fun e => e.2).subset ?_
    rw [List.map_append]
    exact List.mem_append_right _ List.mem_cons_self

theorem careful_save {i : ℕ} {call : Call ⊕ BackCall} {id : Uuid} {entity : Voucher} {τ : (shop cfg).Trace}
    (hentity : ∀ τ' : (shop cfg).Trace, τ <+: τ' → AllRead τ' → Coded cfg entity.code) :
    Careful i call (saveVoucher id entity >>= fun _ => pure Reply.done) τ fun _ _ => True :=
  follows_bind (S := shop cfg) trivial ((careful_saveVoucher hentity).mono fun r _ _ _ => by
    cases r with
    | ok a => exact fun _ _ => trivial
    | error e => trivial)

/-- **No call writes a code that is not as codes are kept**, where the vouchers it has read were. -/
theorem careful_call (hupper : UpperCasing cfg) (i : ℕ) (call : Call ⊕ BackCall) (τ : (shop cfg).Trace) :
    Careful i call ((shop cfg).proc call) τ fun _ _ => True := by
  rcases call with call | call
  · refine careful_of_uses ((uses_within (call.proc cfg)).mono fun op hop => ?_)
    cases op with
    | inl _ => trivial
    | inr _ => cases hop
  · cases call with
    | redeemVoucher r =>
      exact careful_of_uses ⟨trivial, fun r => by cases r <;> trivial⟩
    | createVoucher dto =>
      refine follows_bind (S := shop cfg) trivial (follows_ofExcept (S := shop cfg) fun τ₁ hl₁ => ?_)
      cases validateDateRange dto.startDate dto.endDate with
      | error e => trivial
      | ok _ =>
        refine follows_bind (S := shop cfg) trivial (follows_ofExcept (S := shop cfg) fun τ₂ hl₂ => ?_)
        cases validateDiscountPayload dto.discountType.code dto.discountValue dto.maxDiscount with
        | error e => trivial
        | ok _ =>
          refine follows_bind (S := shop cfg) trivial (follows_trans (S := shop cfg) (fun τ₃ s o hl₃ _ => ⟨fun _ => ?_, fun _ _ _ _ => trivial⟩)
            fun _ _ _ => trivial)
          refine ⟨fun _ _ hop => ?_, fun _ _ _ hop => (by cases hop)⟩
          cases hop
          exact coded_of_input hupper dto.code
    | updateVoucher id dto =>
      refine careful_read fun v τ' hv => follows_bind (S := shop cfg) trivial (follows_ofExcept (S := shop cfg) fun τ₁ hl₁ => ?_)
      cases hcheck : dto.check v with
      | error e => trivial
      | ok _ =>
        refine careful_save fun τ₂ hpre hall => ?_
        show Coded cfg ((dto.code.map fun code => cfg.toUpperCase (trim code)).getD v.code)
        cases dto.code with
        | none => exact hv τ₂ (hl₁.pre.trans hpre) hall
        | some code => exact coded_of_input hupper code
    | removeVoucher id =>
      exact careful_read fun v τ' hv => careful_save hv
    | createVariant dto actorId =>
      exact careful_of_uses ⟨trivial, fun r => by cases r <;> trivial⟩
    | removeVariant id =>
      refine careful_of_uses (Proc.uses_then (Proc.uses_trans trivial) fun found => Proc.uses_then (Proc.uses_need _ _) fun v =>
        Proc.uses_then (Proc.uses_then (Proc.uses_trans trivial) fun reloaded => ?_) fun _ => trivial)
      cases reloaded with
      | none => exact Proc.uses_trans trivial
      | some stored =>
        dsimp only
        split
        · trivial
        · exact Proc.uses_trans trivial

end Calls

/-! ## What is offered is accepted -/

theorem findVoucherByCode_of_codes {cfg : Config} {s : Db} {id : Uuid} {v : Voucher} {code : String} (h : Codes cfg s)
    (hv : s.find Tab.vouchers id = some v) (hcode : cfg.upper code = v.code) : findVoucherByCode cfg code s = some (id, v) := by
  have hown : cfg.upper v.code = cfg.upper code := (h.coded id v hv).1.trans hcode.symm
  cases hfound : findVoucherByCode cfg code s with
  | none =>
    have hnot := AList.find_eq_none.1 hfound id v hv
    rw [hown, beq_self_eq_true] at hnot
    cases hnot
  | some row =>
    obtain ⟨hrow, hp⟩ := AList.find_some hfound
    have hsame : row.2.code = v.code := by
      rw [← (h.coded _ _ hrow).1, eq_of_beq hp, hcode]
    obtain rfl : row.1 = id := h.unique _ _ _ _ hrow hv hsame
    rw [Option.some.inj (hv.symm.trans hrow)]

section Accepted
variable {cfg : Config} {s : Db} {userId id : Uuid} {orderAmount : ℚ} {now : Time} {v : Voucher}

theorem usable_of_listed (h : (id, v) ∈ findAvailable (some orderAmount) now s) (hroom : usesBy id userId s < v.userLimitPerUser) :
    Usable userId orderAmount s (id, v) := by
  obtain ⟨_, hactive, _, hlimit, hmin⟩ := mem_findAvailable.1 h
  exact ⟨hactive, hlimit, hmin, (usesBy_eq id userId s) ▸ hroom⟩

theorem previewed_iff_listed (h : Codes cfg s) {code : String} {d : JsNumber} : previewed cfg code userId orderAmount now s = some (id, d) ↔
    ∃ v, (id, v) ∈ findAvailable (some orderAmount) now s ∧ v.code = cfg.upper code ∧ usesBy id userId s < v.userLimitPerUser ∧
      d = calculateDiscountAmount v orderAmount := by
  rw [previewed_eq_some]
  constructor
  · rintro ⟨⟨id', v⟩, hfound, hwindow, husable, heq⟩
    cases heq
    obtain ⟨hv, hp⟩ := AList.find_some hfound
    refine ⟨v, mem_findAvailable.2 ⟨hv, husable.active, hwindow, husable.limit, husable.minimum⟩, ?_, ?_, rfl⟩
    · rw [← (h.coded _ v hv).1, eq_of_beq hp]
    · rw [usesBy_eq]
      exact husable.user
  · rintro ⟨v, hlisted, hcode, hroom, rfl⟩
    obtain ⟨hv, _, hwindow, _⟩ := mem_findAvailable.1 hlisted
    exact ⟨(id, v), findVoucherByCode_of_codes h hv hcode.symm, hwindow, usable_of_listed hlisted hroom, rfl⟩

/-- The checkout compares with the dates in whole seconds: of a voucher's last second it takes the beginning only. -/
theorem granted_of_listed (h : Codes cfg s) (hlisted : (id, v) ∈ findAvailable (some orderAmount) now s)
    (hroom : usesBy id userId s < v.userLimitPerUser) (hend : now ≤ wholeSecond v.expiresAt) :
    granted cfg v.code userId orderAmount now s = some (id, voucherDiscount v orderAmount) := by
  obtain ⟨hv, _, hwindow, _⟩ := mem_findAvailable.1 hlisted
  have hcoded := h.coded id v hv
  have hfound : findVoucherByCode cfg (trim v.code) s = some (id, v) := findVoucherByCode_of_codes h hv (by rw [hcoded.2, hcoded.1])
  have hstart : wholeSecond v.startsAt ≤ now := (Nat.div_mul_le_self _ _).trans hwindow.1
  exact granted_eq_some.2 ⟨(id, v), hfound, ⟨hstart, hend⟩, usable_of_listed hlisted hroom, rfl⟩

end Accepted

/-- **What is offered is accepted**: whatever the admins and the checkouts have done, the preview takes a code exactly if the voucher it
names is listed for the amount and the user has a use of it left, and the checkout takes what is listed, but for its last second. -/
theorem offers_are_accepted (cfg : Config) (hupper : UpperCasing cfg) (e : Execution (shop cfg) (Codes cfg) fun _ => True) : ∀ s ∈ e.history,
    ∀ (userId id : Uuid) (orderAmount : ℚ) (now : Time),
      (∀ code d, previewed cfg code userId orderAmount now s = some (id, d) ↔ ∃ v, (id, v) ∈ findAvailable (some orderAmount) now s ∧
        v.code = cfg.upper code ∧ usesBy id userId s < v.userLimitPerUser ∧ d = calculateDiscountAmount v orderAmount) ∧
      ∀ v, (id, v) ∈ findAvailable (some orderAmount) now s → getVoucherStatus v now = .active ∧
        (usesBy id userId s < v.userLimitPerUser → now ≤ wholeSecond v.expiresAt →
          granted cfg v.code userId orderAmount now s = some (id, voucherDiscount v orderAmount)) := by
  have hk : Keeps (S := shop cfg) (Codes cfg) CodesClaimed (fun _ => True) WritesCoded := fun c _ h hf hw => codes_commit hw h hf
  have hwrites := e.meets_of_reads hk (fun _ h => h) readsCoded (careful_call hupper)
  intro s hs userId id orderAmount now
  have h : Codes cfg s := e.invariant hk (fun _ h => h) hwrites hs
  exact ⟨fun code d => previewed_iff_listed h, fun v hv => ⟨status_of_listed hv, fun hroom hend => granted_of_listed h hv hroom hend⟩⟩

/-! ### A voucher that is renamed -/

def tetCode : UpdateVoucher where
  code := some " tet "
  discountType := none
  discountValue := none
  minOrderValue := none
  maxDiscount := none
  usageLimit := none
  userLimitPerUser := none
  startDate := none
  endDate := none
  isActive := none

theorem voucherShop_codes : Codes sampleConfig voucherShop := by
  have hone : ∀ (id : Uuid) (v : Voucher), voucherShop.find Tab.vouchers id = some v → id = 1 ∧ v = sampleVoucher := by
    intro id v hv
    by_cases hid : id = 1
    · subst hid
      exact ⟨rfl, (Option.some.inj hv).symm⟩
    · have hnone : voucherShop.find Tab.vouchers id = none := by
        show ((∅ : Table Uuid Voucher).insert 1 sampleVoucher).lookup id = none
        rw [AList.lookup_insert_ne hid]
        rfl
      cases hnone.symm.trans hv
  refine ⟨fun id v hv => ?_, fun id id' v v' hv hv' _ => (hone id v hv).1.trans (hone id' v' hv').1.symm⟩
  obtain ⟨_, rfl⟩ := hone id v hv
  exact ⟨by decide +kernel, by decide +kernel⟩

def renamed : Execution (shop sampleConfig) (Codes sampleConfig) fun _ => True :=
  .ofSchedule voucherShop ([.arrive (.inr (.updateVoucher 1 tetCode))] ++ steps 0 3) voucherShop_codes fun _ _ => trivial

theorem sampleConfig_upperCasing : UpperCasing sampleConfig :=
  ⟨toUpper_toUpper, fun s => by rw [show sampleConfig.toUpperCase = String.toUpper from rfl, trim_toUpper, trim_trim]⟩

theorem renamed_accepted : previewed sampleConfig "Tet" 1 10 500 renamed.final.db = some (1, .num 10) := by
  obtain ⟨haccepted, -⟩ := offers_are_accepted sampleConfig sampleConfig_upperCasing renamed _ renamed.final_mem_history 1 1 10 500
  refine (haccepted "Tet" (.num 10)).2 ⟨{ sampleVoucher with code := "TET" }, ?_, ?_, ?_, ?_⟩
  · decide +kernel
  · decide +kernel
  · decide +kernel
  · decide +kernel

end Balii
