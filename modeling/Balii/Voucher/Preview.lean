import Balii.Payment.Settlement
import Balii.Voucher.Vouchers
/-!
# Voucher.Preview — the discount a customer is shown and the discount a checkout grants

The voucher service and the order service each have their own copy of the rule.  They differ in the code they look up, in
the dates they compare and in what they round.
-/
namespace Balii

open Rowdb Tx

/-- What a body comes to at one state, with nobody else about. -/
def accepted {α : Type} (t : Trans α) (s : Db) : Option α :=
  match t.run s [] [] with
  | .ok o => some o.val
  | .error _ => none

/-- The voucher and the discount `validateVoucher` shows. -/
def previewed (cfg : Config) (code : String) (userId : Uuid) (orderAmount : ℚ) (now : Time) (s : Db) : Option (Uuid × JsNumber) :=
  (accepted (validateVoucher cfg code userId orderAmount now) s).map fun p => (p.voucherId, p.discountAmount)

/-- The voucher and the discount `validateVoucherForCheckout` grants. -/
def granted (cfg : Config) (code : String) (userId : Uuid) (orderAmount : ℚ) (now : Time) (s : Db) : Option (Uuid × JsNumber) :=
  accepted (validateVoucherForCheckout cfg code userId orderAmount now) s

/-! ## What each of them comes to -/

/-- The checks the two have in common. -/
structure Usable (userId : Uuid) (orderAmount : ℚ) (s : Db) (e : Uuid × Voucher) : Prop where
  active : e.2.isActive = true
  limit : ∀ limit ∈ e.2.usageLimit, e.2.usedCount < limit
  minimum : amountNumber e.2.minOrderAmount ≤ orderAmount
  user : (((s.rows Tab.voucherUsages).select fun _ u => u.voucherId == e.1 && u.userId == userId).length : ℤ) <
    e.2.userLimitPerUser

/-- Between the voucher's dates. -/
def Voucher.inWindow (v : Voucher) (now : Time) : Prop := v.startsAt ≤ now ∧ now ≤ v.expiresAt

/-- Between the voucher's dates without their milliseconds. -/
def Voucher.inSeconds (v : Voucher) (now : Time) : Prop := wholeSecond v.startsAt ≤ now ∧ now ≤ wholeSecond v.expiresAt

variable {cfg : Config} {code : String} {userId : Uuid} {orderAmount : ℚ} {now : Time} {s : Db}

theorem accepted_eq_some {α : Type} {t : Trans α} {a : α} :
    accepted t s = some a ↔ ∃ o, Exec (fun _ a b => a = b) t s [] [] o ∧ o.val = a := by
  unfold accepted
  simp only [← run_eq_ok]
  cases t.run s [] [] with
  | ok o => simp
  | error e => simp

theorem previewed_eq_some {e : Uuid × JsNumber} : previewed cfg code userId orderAmount now s = some e ↔
    ∃ row, findVoucherByCode cfg code s = some row ∧ row.2.inWindow now ∧ Usable userId orderAmount s row ∧
      e = (row.1, calculateDiscountAmount row.2 orderAmount) := by
  unfold previewed
  rw [Option.map_eq_some_iff]
  simp only [accepted_eq_some, validateVoucher, assertVoucherUsable, query, exec_bind, Sql.exec_select, exec_need, exec_ensure,
    exec_pure]
  constructor
  · rintro ⟨p, ⟨o, ⟨_, ⟨_, rfl, rfl⟩, _, ⟨row, hrow, rfl⟩, _, ⟨_, ⟨hactive, rfl⟩, _, ⟨hstart, rfl⟩, _, ⟨hend, rfl⟩, _,
      ⟨hlimit, rfl⟩, _, ⟨hmin, rfl⟩, _, ⟨_, rfl, rfl⟩, _, ⟨huser, rfl⟩, rfl⟩, rfl⟩, rfl⟩, rfl⟩
    exact ⟨row, hrow, ⟨hstart, hend⟩, ⟨hactive, hlimit, hmin, huser⟩, rfl⟩
  · rintro ⟨row, hrow, ⟨hstart, hend⟩, ⟨hactive, hlimit, hmin, huser⟩, rfl⟩
    exact ⟨_, ⟨_, ⟨_, ⟨_, rfl, rfl⟩, _, ⟨row, hrow, rfl⟩, _, ⟨_, ⟨hactive, rfl⟩, _, ⟨hstart, rfl⟩, _, ⟨hend, rfl⟩, _,
      ⟨hlimit, rfl⟩, _, ⟨hmin, rfl⟩, _, ⟨_, rfl, rfl⟩, _, ⟨huser, rfl⟩, rfl⟩, rfl⟩, rfl⟩, rfl⟩

theorem granted_eq_some {e : Uuid × JsNumber} : granted cfg code userId orderAmount now s = some e ↔
    ∃ row, findVoucherByCode cfg (trim code) s = some row ∧ row.2.inSeconds now ∧ Usable userId orderAmount s row ∧
      e = (row.1, voucherDiscount row.2 orderAmount) := by
  unfold granted
  simp only [accepted_eq_some, validateVoucherForCheckout, query, exec_bind, Sql.exec_select, exec_need, exec_ensure,
    exec_pure]
  constructor
  · rintro ⟨o, ⟨_, ⟨_, rfl, rfl⟩, _, ⟨id, hid, rfl⟩, _, hfetch, _, ⟨⟨hactive, hstart, hend⟩, rfl⟩, _,
      ⟨hlimit, rfl⟩, _, ⟨hmin, rfl⟩, _, ⟨_, rfl, rfl⟩, _, ⟨huser, rfl⟩, rfl⟩, rfl⟩
    obtain ⟨v, hv, rfl⟩ := Sql.exec_fetchJoin hfetch
    obtain ⟨row, hrow, rfl⟩ := Option.map_eq_some_iff.1 hid
    obtain rfl : row.2 = v := Option.some.inj ((AList.find_some hrow).1.symm.trans hv)
    exact ⟨row, hrow, ⟨hstart, hend⟩, ⟨hactive, hlimit, hmin, huser⟩, rfl⟩
  · rintro ⟨row, hrow, ⟨hstart, hend⟩, ⟨hactive, hlimit, hmin, huser⟩, rfl⟩
    exact ⟨_, ⟨_, ⟨_, rfl, rfl⟩, _, ⟨row.1, Option.map_eq_some_iff.2 ⟨row, hrow, rfl⟩, rfl⟩, _,
      Sql.exec_fetchJoin_alone.2 ⟨row.2, (AList.find_some hrow).1, rfl⟩, _, ⟨⟨hactive, hstart, hend⟩, rfl⟩, _,
      ⟨hlimit, rfl⟩, _, ⟨hmin, rfl⟩, _, ⟨_, rfl, rfl⟩, _, ⟨huser, rfl⟩, rfl⟩, rfl⟩

/-! ## When they agree -/

/-- Whether the two read the same kind of discount from the row: only one of them trims its code. -/
def Voucher.SameType (v : Voucher) : Prop := (trim v.typeCode).toLower = "percent" ↔ v.typeCode.toLower = "percent"

/-- A number of whole hundredths.  From 2^43 on, more than a column holds, doubles are too far apart to tell. -/
def InHundredths (d : ℚ) : Prop := if d ≤ 2 ^ 43 then ∃ n : ℕ, d = amountNumber n else roundNumber (.num d) = .num d

/-- The discount comes to whole hundredths, or the two kinds of discount happen to come to the same. -/
def SameDiscount (v : Voucher) (orderAmount : ℚ) : Prop :=
  (v.SameType → ∃ d, calculateDiscountAmount v orderAmount = .num d ∧ InHundredths d) ∧
    (¬ v.SameType → calculateDiscountAmount v orderAmount = voucherDiscount v orderAmount)

theorem max_zero_num (q : ℚ) : ∃ d, JsNumber.max (.num 0) (.num q) = .num d ∧ 0 ≤ d := by
  by_cases hq : 0 < q
  · exact ⟨q, by simp [JsNumber.max, JsNumber.less, hq], hq.le⟩
  · exact ⟨0, by simp [JsNumber.max, JsNumber.less, hq], le_rfl⟩

theorem bounded_num {x : JsNumber} (hx : x ≠ .nan) (orderAmount : ℚ) :
    ∃ d, JsNumber.max (.num 0) (JsNumber.min (.num orderAmount) x) = .num d ∧ 0 ≤ d := by
  cases x with
  | nan => exact absurd rfl hx
  | posInfinity => exact max_zero_num orderAmount
  | negInfinity => exact ⟨0, rfl, le_rfl⟩
  | num q =>
    unfold JsNumber.min
    rw [if_neg (by simp)]
    split
    · exact max_zero_num q
    · exact max_zero_num orderAmount

theorem double_ne_nan (q : ℚ) : JsNumber.double q ≠ .nan := by
  unfold JsNumber.double JsNumber.within
  split_ifs <;> simp

theorem percentOf_ne_nan (orderAmount discountValue : ℚ) : percentOf orderAmount discountValue ≠ .nan := by
  unfold percentOf
  cases hproduct : JsNumber.double (orderAmount * discountValue) with
  | nan => exact absurd hproduct (double_ne_nan _)
  | posInfinity => simp [JsNumber.after]
  | negInfinity => simp [JsNumber.after]
  | num q => exact double_ne_nan _

theorem min_ne_nan {x : JsNumber} (hx : x ≠ .nan) (q : ℚ) : x.min (.num q) ≠ .nan := by
  unfold JsNumber.min
  rw [if_neg (by simp [hx])]
  split
  · simp
  · exact hx

/-- **A discount is a number from 0 on.** -/
theorem discount_num (v : Voucher) (orderAmount : ℚ) : ∃ d, calculateDiscountAmount v orderAmount = .num d ∧ 0 ≤ d := by
  unfold calculateDiscountAmount
  refine bounded_num ?_ orderAmount
  have hdiscount : (if (trim v.typeCode).toLower = "percent" then percentOf orderAmount (amountNumber v.discountValue)
      else .num (amountNumber v.discountValue)) ≠ JsNumber.nan := by
    split
    · exact percentOf_ne_nan _ _
    · simp
  cases v.maxDiscountAmount with
  | none => exact hdiscount
  | some m => exact min_ne_nan hdiscount _

theorem calculateDiscount_of_sameType {v : Voucher} (h : v.SameType) (orderAmount : ℚ) :
    voucherDiscount v orderAmount = roundNumber (calculateDiscountAmount v orderAmount) := by
  unfold calculateDiscountAmount voucherDiscount
  by_cases hpercent : v.typeCode.toLower = "percent"
  · simp only [if_pos hpercent, if_pos (h.2 hpercent)]
  · simp only [if_neg hpercent, if_neg fun hp => hpercent (h.1 hp)]

theorem inHundredths_iff {d : ℚ} (h : 0 ≤ d) : InHundredths d ↔ roundNumber (.num d) = .num d := by
  unfold InHundredths
  split
  · rename_i hd
    exact (roundNumber_eq_iff h hd).symm
  · exact Iff.rfl

theorem sameDiscount_iff (v : Voucher) (orderAmount : ℚ) :
    SameDiscount v orderAmount ↔ calculateDiscountAmount v orderAmount = voucherDiscount v orderAmount := by
  unfold SameDiscount
  by_cases htype : v.SameType
  · obtain ⟨d, hd, hnonneg⟩ := discount_num v orderAmount
    rw [calculateDiscount_of_sameType htype, hd]
    constructor
    · rintro ⟨hwhole, _⟩
      obtain ⟨d', heq, hin⟩ := hwhole htype
      cases heq
      exact ((inHundredths_iff hnonneg).1 hin).symm
    · exact fun h => ⟨fun _ => ⟨d, rfl, (inHundredths_iff hnonneg).2 h.symm⟩, fun hnot => absurd htype hnot⟩
  · exact ⟨fun h => h.2 htype, fun h => ⟨fun hs => absurd hs htype, fun _ => h⟩⟩

/-- **When preview and checkout agree**: of the vouchers that pass the checks both make, the code with and without the space
around it names the same, the clock is not in the part of a second that the text of a date loses, and the discount needs no
rounding. -/
def PreviewFits (cfg : Config) (code : String) (userId : Uuid) (orderAmount : ℚ) (now : Time) (s : Db) : Prop :=
  ∀ row, Usable userId orderAmount s row →
    (findVoucherByCode cfg code s = some row ∧ row.2.inWindow now ↔
      findVoucherByCode cfg (trim code) s = some row ∧ row.2.inSeconds now) ∧
    (findVoucherByCode cfg code s = some row → row.2.inWindow now → SameDiscount row.2 orderAmount)

theorem found_unique {code code' : String} {row row' : Uuid × Voucher} (h : findVoucherByCode cfg code s = some row)
    (h' : findVoucherByCode cfg code' s = some row') (hid : row.1 = row'.1) : row = row' := by
  have hrow := (AList.find_some h).1
  rw [hid, (AList.find_some h').1] at hrow
  exact Prod.ext hid (Option.some.inj hrow).symm

/-- **Preview and checkout accept the same voucher with the same discount exactly when the request fits.** -/
theorem preview_agrees_iff (cfg : Config) (code : String) (userId : Uuid) (orderAmount : ℤ) (now : Time) (s : Db) :
    previewed cfg code userId (amountNumber orderAmount) now s = granted cfg code userId (amountNumber orderAmount) now s ↔
      PreviewFits cfg code userId (amountNumber orderAmount) now s := by
  generalize amountNumber orderAmount = orderAmount
  constructor
  · intro h row hrow
    have hshown : findVoucherByCode cfg code s = some row → row.2.inWindow now →
        (findVoucherByCode cfg (trim code) s = some row ∧ row.2.inSeconds now) ∧ SameDiscount row.2 orderAmount := by
      intro hfound hwindow
      have hgranted := previewed_eq_some.2 ⟨row, hfound, hwindow, hrow, rfl⟩
      rw [h] at hgranted
      obtain ⟨row', hfound', hseconds, _, heq⟩ := granted_eq_some.1 hgranted
      obtain rfl := found_unique hfound hfound' (Prod.ext_iff.1 heq).1
      exact ⟨⟨hfound', hseconds⟩, (sameDiscount_iff _ _).2 (congrArg Prod.snd heq)⟩
    refine ⟨⟨fun hp => (hshown hp.1 hp.2).1, fun hg => ?_⟩, fun hfound hwindow => (hshown hfound hwindow).2⟩
    have hpreviewed := granted_eq_some.2 ⟨row, hg.1, hg.2, hrow, rfl⟩
    rw [← h] at hpreviewed
    obtain ⟨row', hfound', hwindow, _, heq⟩ := previewed_eq_some.1 hpreviewed
    obtain rfl := found_unique hg.1 hfound' (Prod.ext_iff.1 heq).1
    exact ⟨hfound', hwindow⟩
  · intro h
    apply Option.ext
    intro e
    rw [previewed_eq_some, granted_eq_some]
    constructor
    · rintro ⟨row, hfound, hwindow, hrow, rfl⟩
      obtain ⟨hfound', hseconds⟩ := (h row hrow).1.1 ⟨hfound, hwindow⟩
      refine ⟨row, hfound', hseconds, hrow, ?_⟩
      rw [(sameDiscount_iff _ _).1 ((h row hrow).2 hfound hwindow)]
    · rintro ⟨row, hfound', hseconds, hrow, rfl⟩
      obtain ⟨hfound, hwindow⟩ := (h row hrow).1.2 ⟨hfound', hseconds⟩
      refine ⟨row, hfound, hwindow, hrow, ?_⟩
      rw [(sameDiscount_iff _ _).1 ((h row hrow).2 hfound hwindow)]

/-! ### Ten percent of an odd amount -/

def tenPercent : Voucher where
  code := "SALE"
  typeCode := "percent"
  discountValue := 1000
  maxDiscountAmount := none
  minOrderAmount := 0
  usageLimit := none
  usedCount := 0
  userLimitPerUser := 1
  startsAt := 0
  expiresAt := 1000
  isActive := true

/-- A database with nothing but the voucher `1`. -/
def tenPercentShop : Db where
  rows t :=
    match t with
    | .vouchers => (∅ : Table Uuid Voucher).insert 1 tenPercent
    | _ => ∅
  log := []

/-- Of 33.33 dong the preview takes 3.333 and the checkout 3.33. -/
theorem oddAmount_disagrees : ¬ ∀ cfg code userId orderAmount now s,
    previewed cfg code userId (amountNumber orderAmount) now s = granted cfg code userId (amountNumber orderAmount) now s := by
  intro h
  have hshop := h sampleConfig "SALE" 1 3333 500 tenPercentShop
  revert hshop
  decide +kernel

end Balii
