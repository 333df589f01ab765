import Balii.Payment.Settlement
/-!
# Payment.PaymentCodes — the code of a payment, written into a bank transfer and found again

The provider reference is `PAY` and the digits of a random id, behind `SIM_` where payments are simulated.  The webhook looks for
the first place of the transfer's text where `PAY` is followed by six letters or digits: in the middle of a word too, and never
with what stands before it.
-/
namespace Balii

/-! ## The reference -/

/-- The text of `randomUUID()`. -/
structure RandomUuid where
  text : String
  digits : (text.toList.filter fun c => c != '-').length = 32
  hex : ∀ c ∈ text.toList, c = '-' ∨ c.isDigit = true ∨ c ∈ ['a', 'b', 'c', 'd', 'e', 'f']

def generatePaymentCode (u : RandomUuid) : String := "PAY" ++ (String.ofList (u.text.toList.filter fun c => c != '-')).toUpper

theorem toList_toUpper (cs : List Char) : (String.ofList cs).toUpper.toList = cs.map Char.toUpper := by
  simp [String.toUpper]

theorem toUpper_ofList (cs : List Char) : (String.ofList cs).toUpper = String.ofList (cs.map Char.toUpper) := by
  rw [← String.toList_inj, toList_toUpper, String.toList_ofList]

/-- The digits of a payment code. -/
def RandomUuid.code (u : RandomUuid) : List Char := (u.text.toList.filter fun c => c != '-').map Char.toUpper

theorem generatePaymentCode_eq (u : RandomUuid) : generatePaymentCode u = String.ofList (['P', 'A', 'Y'] ++ u.code) := by
  rw [← String.toList_inj, generatePaymentCode, String.toList_append, toList_toUpper, String.toList_ofList, String.toList_ofList]
  rfl

theorem isAlphanum_of_toUpper {c : Char} (h : c.toUpper.isAlphanum = true) : c.isAlphanum = true := by
  unfold Char.toUpper at h
  split at h
  · rename_i hlower
    have hc : c.isLower = true := by
      unfold Char.isLower
      rw [Bool.and_eq_true, decide_eq_true_eq, decide_eq_true_eq]
      exact hlower
    unfold Char.isAlphanum Char.isAlpha
    rw [hc, Bool.or_true, Bool.true_or]
  · exact h

theorem code_alphanum (u : RandomUuid) : ∀ c ∈ u.code, c.isAlphanum = true := by
  intro c hc
  obtain ⟨d, hd, rfl⟩ := List.mem_map.1 hc
  obtain ⟨hmem, hdash⟩ := List.mem_filter.1 hd
  rcases u.hex d hmem with rfl | hdigit | hletter
  · exact absurd hdash (by decide)
  · have hsame : d.toUpper = d := by
      unfold Char.toUpper
      rw [dif_neg]
      simp only [Char.isDigit, Bool.and_eq_true, decide_eq_true_eq, UInt32.le_iff_toNat_le] at hdigit ⊢
      have h9 : d.val.toNat ≤ '9'.val.toNat := hdigit.2
      have ha : '9'.val.toNat < 'a'.val.toNat := by decide
      omega
    rw [hsame]
    simp [Char.isAlphanum, hdigit]
  · revert hletter
    have hall : ∀ d ∈ ['a', 'b', 'c', 'd', 'e', 'f'], d.toUpper.isAlphanum = true := List.all_eq_true.1 (by decide)
    exact hall d

/-! ## The pattern -/

/-- The pattern fits at the beginning. -/
def FitsCode (cs : List Char) : Prop := (cs.take 3).map Char.toUpper = ['P', 'A', 'Y'] ∧ 6 ≤ ((cs.drop 3).takeWhile Char.isAlphanum).length

instance (cs : List Char) : Decidable (FitsCode cs) := inferInstanceAs (Decidable (_ ∧ _))

/-- What it fits to, in upper case. -/
def codeAt (cs : List Char) : String := String.ofList ((cs.take 3 ++ (cs.drop 3).takeWhile Char.isAlphanum).map Char.toUpper)

theorem findPaymentCode_cons (c : Char) (cs : List Char) :
    findPaymentCode (c :: cs) = if FitsCode (c :: cs) then some (codeAt (c :: cs)) else findPaymentCode cs := by
  have hpay : (String.ofList ((c :: cs).take 3)).toUpper = "PAY" ↔ ((c :: cs).take 3).map Char.toUpper = ['P', 'A', 'Y'] := by
    rw [← String.toList_inj, toList_toUpper]
    exact Iff.rfl
  have hfits : ((String.ofList ((c :: cs).take 3)).toUpper = "PAY" ∧
      9 ≤ ((c :: cs).take 3 ++ ((c :: cs).drop 3).takeWhile Char.isAlphanum).length) ↔ FitsCode (c :: cs) := by
    rw [hpay]
    refine and_congr_right fun h => ?_
    have hlen : ((c :: cs).take 3).length = 3 := by
      rw [← List.length_map (f := Char.toUpper), h]
      rfl
    rw [List.length_append, hlen]
    omega
  conv_lhs => rw [findPaymentCode]
  rw [if_congr hfits rfl rfl, toUpper_ofList]
  rfl

/-- The leftmost place where the pattern fits holds this code. -/
def LeftmostCode (cs : List Char) (code : String) : Prop :=
  ∃ before rest, cs = before ++ rest ∧ FitsCode rest ∧ codeAt rest = code ∧
    ∀ before' rest', cs = before' ++ rest' → before'.length < before.length → ¬ FitsCode rest'

theorem findPaymentCode_eq_some_iff {cs : List Char} {code : String} : findPaymentCode cs = some code ↔ LeftmostCode cs code := by
  induction cs with
  | nil =>
    refine ⟨fun h => (nomatch h), ?_⟩
    rintro ⟨before, rest, heq, hfits, _⟩
    obtain ⟨rfl, rfl⟩ := List.append_eq_nil_iff.1 heq.symm
    exact absurd hfits.1 (by decide)
  | cons c cs ih =>
    rw [findPaymentCode_cons]
    by_cases hfits : FitsCode (c :: cs)
    · rw [if_pos hfits, Option.some.injEq]
      constructor
      · rintro rfl
        exact ⟨[], c :: cs, rfl, hfits, rfl, fun _ _ _ hlt => absurd hlt (Nat.not_lt_zero _)⟩
      · rintro ⟨before, rest, heq, _, rfl, hfirst⟩
        cases before with
        | nil => rw [heq, List.nil_append]
        | cons d before => exact absurd hfits (hfirst [] (c :: cs) rfl (Nat.succ_pos _))
    · rw [if_neg hfits, ih]
      constructor
      · rintro ⟨before, rest, rfl, hrest, hcode, hfirst⟩
        refine ⟨c :: before, rest, rfl, hrest, hcode, fun before' rest' heq hlt => ?_⟩
        cases before' with
        | nil =>
          rw [List.nil_append] at heq
          rwa [← heq]
        | cons d before' => exact hfirst before' rest' (List.cons.inj heq).2 (Nat.lt_of_succ_lt_succ hlt)
      · rintro ⟨before, rest, heq, hrest, hcode, hfirst⟩
        cases before with
        | nil =>
          rw [List.nil_append] at heq
          exact absurd (heq ▸ hrest) hfits
        | cons d before =>
          obtain ⟨rfl, hcs⟩ := List.cons.inj heq
          refine ⟨before, rest, hcs, hrest, hcode, fun before' rest' heq' hlt => ?_⟩
          exact hfirst (c :: before') rest' (congrArg (c :: ·) heq') (Nat.succ_lt_succ hlt)

theorem findPaymentCode_pay {cs : List Char} {code : String} (h : findPaymentCode cs = some code) :
    ∃ ds, code = String.ofList (['P', 'A', 'Y'] ++ ds) := by
  obtain ⟨before, rest, _, hfits, rfl, _⟩ := findPaymentCode_eq_some_iff.1 h
  unfold codeAt
  rw [List.map_append, hfits.1]
  exact ⟨_, rfl⟩

section Append
variable {before rest : List Char}

theorem isAlphanum_pay {cs : List Char} (h : cs.map Char.toUpper = ['P', 'A', 'Y']) : ∀ c ∈ cs, c.isAlphanum = true := by
  intro c hc
  have hmem : c.toUpper ∈ ['P', 'A', 'Y'] := by
    rw [← h]
    exact List.mem_map_of_mem hc
  have hall : ∀ d ∈ ['P', 'A', 'Y'], d.isAlphanum = true := List.all_eq_true.1 (by decide)
  exact isAlphanum_of_toUpper (hall _ hmem)

theorem takeWhile_append_of_stop {α : Type} {p : α → Bool} {xs : List α} (ys : List α) (h : ∃ x ∈ xs, p x = false) :
    (xs ++ ys).takeWhile p = xs.takeWhile p := by
  rw [List.takeWhile_append, if_neg]
  intro hlen
  obtain ⟨x, hx, hpx⟩ := h
  have hall := (List.takeWhile_prefix p).eq_of_length hlen
  have hpos := List.all_eq_true.1 (List.all_takeWhile (p := p) (l := xs)) x (hall.symm ▸ hx)
  rw [hpos] at hpx
  cases hpx

theorem fitsCode_append (h : ∃ c ∈ before, c.isAlphanum = false) :
    (FitsCode (before ++ rest) ↔ FitsCode before) ∧ (FitsCode before → codeAt (before ++ rest) = codeAt before) := by
  obtain ⟨c, hc, hstop⟩ := h
  by_cases hlen : 3 ≤ before.length
  · have htake : (before ++ rest).take 3 = before.take 3 := List.take_append_of_le_length hlen
    have hdrop : (before ++ rest).drop 3 = before.drop 3 ++ rest := List.drop_append_of_le_length hlen
    unfold FitsCode codeAt
    rw [htake, hdrop]
    by_cases hpay : (before.take 3).map Char.toUpper = ['P', 'A', 'Y']
    · have hbehind : c ∈ before.drop 3 := by
        rw [← List.take_append_drop 3 before] at hc
        refine (List.mem_append.1 hc).resolve_left fun hfront => ?_
        rw [isAlphanum_pay hpay c hfront] at hstop
        cases hstop
      rw [takeWhile_append_of_stop rest ⟨c, hbehind, hstop⟩]
      exact ⟨Iff.rfl, fun _ => rfl⟩
    · exact ⟨⟨fun h => absurd h.1 hpay, fun h => absurd h.1 hpay⟩, fun h => absurd h.1 hpay⟩
  · -- the three letters would reach over it
    have hshort : ¬ FitsCode before := by
      rintro ⟨hpay, _⟩
      have hthree := congrArg List.length hpay
      rw [List.length_map, List.length_take] at hthree
      change min 3 before.length = 3 at hthree
      omega
    have hover : ¬ FitsCode (before ++ rest) := by
      rintro ⟨hpay, _⟩
      have hmem : c ∈ (before ++ rest).take 3 := by
        rw [List.take_append, List.take_of_length_le (by omega)]
        exact List.mem_append_left _ hc
      rw [isAlphanum_pay hpay c hmem] at hstop
      cases hstop
    exact ⟨⟨fun h => absurd h hover, fun h => absurd h hshort⟩, fun h => absurd h hshort⟩

/-- **A text in two parts, the first of which ends a word**: what is found is found in one of them. -/
theorem findPaymentCode_append (h : ∀ c ∈ before.getLast?, c.isAlphanum = false) :
    findPaymentCode (before ++ rest) = (findPaymentCode before).or (findPaymentCode rest) := by
  induction before with
  | nil => rfl
  | cons c before ih =>
    have hlast : ∃ d ∈ c :: before, d.isAlphanum = false :=
      ⟨(c :: before).getLast (List.cons_ne_nil _ _), List.getLast_mem _, h _ (List.getLast?_eq_some_getLast _)⟩
    have hrest : ∀ d ∈ before.getLast?, d.isAlphanum = false := by
      intro d hd
      refine h d ?_
      cases before with
      | nil => cases hd
      | cons e before => rwa [List.getLast?_cons_cons]
    obtain ⟨hiff, hcode⟩ : (FitsCode (c :: before ++ rest) ↔ FitsCode (c :: before)) ∧
        (FitsCode (c :: before) → codeAt (c :: before ++ rest) = codeAt (c :: before)) := fitsCode_append hlast
    rw [List.cons_append] at hiff hcode ⊢
    rw [findPaymentCode_cons, findPaymentCode_cons, if_congr hiff rfl rfl, ih hrest]
    by_cases hfits : FitsCode (c :: before)
    · rw [if_pos hfits, if_pos hfits, hcode hfits]
      rfl
    · rw [if_neg hfits, if_neg hfits]

end Append

/-- **A code that ends a word is found**, in any letter case. -/
theorem findPaymentCode_token {token after ds : List Char} (htoken : token.map Char.toUpper = ['P', 'A', 'Y'] ++ ds)
    (hds : ∀ d ∈ ds, d.isAlphanum = true) (hlen : 6 ≤ ds.length) (hafter : ∀ c ∈ after.head?, c.isAlphanum = false) :
    findPaymentCode (token ++ after) = some (String.ofList (['P', 'A', 'Y'] ++ ds)) := by
  have hthree : token.length = ds.length + 3 := by
    rw [← List.length_map (f := Char.toUpper), htoken, List.length_append]
    exact Nat.add_comm _ _
  have htake : (token.take 3).map Char.toUpper = ['P', 'A', 'Y'] := by
    rw [List.map_take, htoken]
    rfl
  have hdrop : (token.drop 3).map Char.toUpper = ds := by
    rw [List.map_drop, htoken]
    rfl
  have hrun : ((token ++ after).drop 3).takeWhile Char.isAlphanum = token.drop 3 := by
    rw [List.drop_append_of_le_length (by omega), List.takeWhile_append_of_pos fun c hc => ?_]
    · cases after with
      | nil => rw [List.takeWhile_nil, List.append_nil]
      | cons a after => rw [List.takeWhile_cons_of_neg (by simp [hafter a rfl]), List.append_nil]
    · refine isAlphanum_of_toUpper (hds _ ?_)
      rw [← hdrop]
      exact List.mem_map_of_mem hc
  have hfront : (token ++ after).take 3 = token.take 3 := List.take_append_of_le_length (by omega)
  have hfits : FitsCode (token ++ after) := by
    refine ⟨by rw [hfront, htake], ?_⟩
    rw [hrun, List.length_drop]
    omega
  have hcode : codeAt (token ++ after) = String.ofList (['P', 'A', 'Y'] ++ ds) := by
    unfold codeAt
    rw [hrun, hfront, List.map_append, htake, hdrop]
  cases token with
  | nil => simp at hthree
  | cons c token =>
    rw [List.cons_append] at hfits hcode ⊢
    rw [findPaymentCode_cons, if_pos hfits, hcode]

/-! ## The round trip -/

/-- A transfer's text that holds a reference, in any letter case, as a token, among any other words. -/
structure TransferText (reference : String) where
  before : List Char
  token : List Char
  after : List Char
  spelled : (String.ofList token).toUpper = reference
  opened : ∀ c ∈ before.getLast?, c.isAlphanum = false
  closed : ∀ c ∈ after.head?, c.isAlphanum = false

def TransferText.content {reference : String} (t : TransferText reference) : String := String.ofList (t.before ++ t.token ++ t.after)

/-- A delivery with nothing but this content. -/
def contentOnly (content : String) : Json := .obj [("content", .str content)]

theorem extract_content (cs : List Char) :
    extractSepayPaymentCode (contentOnly (String.ofList cs)) = .ok (findPaymentCode (cs ++ [' '])) := by
  have hhaystack : sepayHaystack (contentOnly (String.ofList cs)) = .ok (String.ofList cs ++ " " ++ "") := rfl
  have hcode : sepayCode (contentOnly (String.ofList cs)) = .ok none := rfl
  unfold extractSepayPaymentCode
  rw [hcode, hhaystack]
  refine congrArg (fun cs => Except.ok (findPaymentCode cs)) ?_
  simp

section
variable {cfg : Config} {u : RandomUuid}

theorem token_of_code {token : List Char} (h : (String.ofList token).toUpper = generatePaymentCode u) :
    token.map Char.toUpper = ['P', 'A', 'Y'] ++ u.code := by
  rw [generatePaymentCode_eq, toUpper_ofList] at h
  exact String.ofList_injective h

theorem code_length (u : RandomUuid) : u.code.length = 32 := by
  unfold RandomUuid.code
  rw [List.length_map, u.digits]

/-- The text from the token on holds the code. -/
theorem find_code {token after : List Char} (h : token.map Char.toUpper = ['P', 'A', 'Y'] ++ u.code)
    (hafter : ∀ c ∈ after.head?, c.isAlphanum = false) :
    findPaymentCode (token ++ (after ++ [' '])) = some (generatePaymentCode u) := by
  rw [generatePaymentCode_eq]
  refine findPaymentCode_token h (code_alphanum u) (by rw [code_length]; decide) fun c hc => ?_
  cases after with
  | nil =>
    cases hc
    decide
  | cons a after => exact hafter c hc

/-- The prefix of a simulated reference is not seen. -/
theorem find_simulated {token after : List Char} (h : (String.ofList token).toUpper = "SIM_" ++ generatePaymentCode u)
    (hafter : ∀ c ∈ after.head?, c.isAlphanum = false) :
    findPaymentCode (token ++ (after ++ [' '])) = some (generatePaymentCode u) := by
  have hchars : token.map Char.toUpper = ['S', 'I', 'M', '_'] ++ (['P', 'A', 'Y'] ++ u.code) := by
    have hlist := congrArg String.toList h
    rwa [toList_toUpper, String.toList_append, generatePaymentCode_eq, String.toList_ofList, String.toList_ofList] at hlist
  obtain ⟨front, token', rfl, hfront, htoken'⟩ := List.map_eq_append_iff.1 hchars
  obtain ⟨a, tail, rfl, ha, htail⟩ := List.map_eq_cons_iff.1 hfront
  obtain ⟨b, tail, rfl, hb, htail⟩ := List.map_eq_cons_iff.1 htail
  obtain ⟨c, tail, rfl, hc, htail⟩ := List.map_eq_cons_iff.1 htail
  obtain ⟨d, tail, rfl, hd, htail⟩ := List.map_eq_cons_iff.1 htail
  obtain rfl := List.map_eq_nil_iff.1 htail
  have hunderscore : d.isAlphanum = false := by
    have hsame : d = '_' := by
      unfold Char.toUpper at hd
      split at hd
      · rename_i hlower
        have hval := congrArg Char.val hd
        have hbound : 'a'.val.toNat ≤ d.val.toNat ∧ d.val.toNat ≤ 'z'.val.toNat := hlower
        have hshift := congrArg UInt32.toNat hval
        rw [UInt32.toNat_add] at hshift
        have ha97 : 'a'.val.toNat = 97 := rfl
        have hz122 : 'z'.val.toNat = 122 := rfl
        have hsub : ('A'.val - 'a'.val).toNat = 4294967264 := rfl
        have hund : '_'.val.toNat = 95 := rfl
        omega
      · exact hd
    rw [hsame]
    decide
  have hnone : findPaymentCode [a, b, c, d] = none := by
    rw [← Option.not_isSome_iff_eq_none, Option.isSome_iff_exists]
    rintro ⟨code, hcode⟩
    obtain ⟨before, rest, heq, hfits, _⟩ := findPaymentCode_eq_some_iff.1 hcode
    have hlen := hfits.2
    have hshort := (List.takeWhile_prefix (l := rest.drop 3) Char.isAlphanum).length_le
    have hfour := congrArg List.length heq
    rw [List.length_append] at hfour
    rw [List.length_drop] at hshort
    change 4 = _ at hfour
    omega
  rw [List.append_assoc, findPaymentCode_append, hnone, find_code htoken' hafter]
  · rfl
  · intro e he
    cases he
    exact hunderscore

end

/-- **When the reference is found again**: exactly when it is not simulated and no word before it holds another code. -/
theorem extract_reference_iff (cfg : Config) (u : RandomUuid) (t : TransferText (createProviderReference cfg (generatePaymentCode u))) :
    extractSepayPaymentCode (contentOnly t.content) = .ok (some (createProviderReference cfg (generatePaymentCode u))) ↔
      cfg.isPaymentSimulationEnabled = false ∧
        ∀ code, LeftmostCode t.before code → code = createProviderReference cfg (generatePaymentCode u) := by
  obtain ⟨before, token, after, hspelled, hopened, hclosed⟩ := t
  dsimp only [TransferText.content]
  rw [extract_content, List.append_assoc, List.append_assoc, findPaymentCode_append hopened]
  have hrest : findPaymentCode (token ++ (after ++ [' '])) = some (generatePaymentCode u) := by
    unfold createProviderReference at hspelled
    split at hspelled
    · exact find_simulated hspelled hclosed
    · exact find_code (token_of_code hspelled) hclosed
  rw [hrest, Except.ok.injEq]
  cases hsim : cfg.isPaymentSimulationEnabled with
  | true =>
    -- every code begins with `PAY`
    refine ⟨fun h => ?_, fun h => absurd h.1 (by decide)⟩
    have hpay : ∃ ds, createProviderReference cfg (generatePaymentCode u) = String.ofList (['P', 'A', 'Y'] ++ ds) := by
      cases hfound : findPaymentCode before with
      | none =>
        rw [hfound] at h
        exact ⟨_, (Option.some.inj h).symm.trans (generatePaymentCode_eq u)⟩
      | some code =>
        rw [hfound] at h
        obtain ⟨ds, hds⟩ := findPaymentCode_pay hfound
        exact ⟨ds, (Option.some.inj h).symm.trans hds⟩
    obtain ⟨ds, hds⟩ := hpay
    unfold createProviderReference at hds
    rw [if_pos hsim] at hds
    have hchars := congrArg String.toList hds
    rw [String.toList_append, String.toList_ofList, String.toList_ofList] at hchars
    exact absurd (List.cons.inj hchars).1 (by decide)
  | false =>
    have hplain : createProviderReference cfg (generatePaymentCode u) = generatePaymentCode u := by
      unfold createProviderReference
      rw [hsim]
      rfl
    rw [hplain]
    constructor
    · refine fun h => ⟨rfl, fun code hcode => ?_⟩
      rw [findPaymentCode_eq_some_iff.2 hcode] at h
      exact Option.some.inj h
    · rintro ⟨_, hall⟩
      cases hfound : findPaymentCode before with
      | none => rfl
      | some code => exact congrArg some (hall code (findPaymentCode_eq_some_iff.1 hfound))

/-- A random id. -/
def sampleUuid : RandomUuid where
  text := "123e4567-e89b-42d3-a456-426614174000"
  digits := by decide
  hex := List.forall_iff_forall_mem.1 (by decide)

theorem sample_reference : createProviderReference sampleConfig (generatePaymentCode sampleUuid) =
    "SIM_PAY123E4567E89B42D3A456426614174000" := by
  unfold createProviderReference
  rw [if_pos (by decide +kernel)]
  decide +kernel

/-- The text is the reference alone. -/
def bareTransfer : TransferText (createProviderReference sampleConfig (generatePaymentCode sampleUuid)) where
  before := []
  token := "SIM_PAY123E4567E89B42D3A456426614174000".toList
  after := []
  spelled := by
    rw [sample_reference]
    decide +kernel
  opened := fun _ h => (nomatch h)
  closed := fun _ h => (nomatch h)

/-- A simulated reference is not found even when it is all there is. -/
theorem bareTransfer_lost : extractSepayPaymentCode (contentOnly bareTransfer.content) ≠
    .ok (some (createProviderReference sampleConfig (generatePaymentCode sampleUuid))) := by
  have hfound : extractSepayPaymentCode (contentOnly bareTransfer.content) = .ok (some "PAY123E4567E89B42D3A456426614174000") := by
    decide +kernel
  rw [hfound, sample_reference]
  decide

end Balii
