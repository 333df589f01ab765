import Balii.Lib.Form
import Balii.Payment.WebhookSecurity
/-!
# Payment.VnpaySigning — what the string VNPay signs says

The parameters are sorted and joined with `=` and `&`; their values are encoded, their names are not.
-/
namespace Balii

/-! ## The encoding of a value -/

/-- The UTF-8 bytes of a text. -/
def utf8 (cs : List Char) : List UInt8 := cs.flatMap String.utf8EncodeChar

/-- The encoding of one byte. -/
def percent (b : UInt8) : List Char := ['%', hexDigit (b.toNat / 16), hexDigit (b.toNat % 16)]

/-- The encoding of one character. -/
def encodeChar (c : Char) : List Char := if isUnescaped c then [c] else (String.utf8EncodeChar c).flatMap percent

theorem toList_encodeValue (s : String) : (encodeValue s).toList = plusSpaces (s.toList.flatMap encodeChar) := by
  unfold encodeValue encodeURIComponent
  rw [String.toList_ofList, String.toList_ofList]
  rfl

theorem hexDigit_facts : ∀ n < 16, hexDigit n ≠ '%' ∧ (hexDigit n = '2' → n = 2) ∧ (hexDigit n = '0' → n = 0) ∧
    Form.hexValue (hexDigit n) = some n := by decide

theorem plusSpaces_cons {c : Char} (h : c ≠ '%') (cs : List Char) : plusSpaces (c :: cs) = c :: plusSpaces cs := by
  rw [plusSpaces]
  rintro _ rfl
  exact absurd rfl h

theorem byte_eq_space {b : UInt8} (h1 : hexDigit (b.toNat / 16) = '2') (h2 : hexDigit (b.toNat % 16) = '0') : b = 32 := by
  have hb : b.toNat < 256 := UInt8.toNat_lt_size b
  have h3 := (hexDigit_facts _ (show b.toNat / 16 < 16 by omega)).2.1 h1
  have h4 := (hexDigit_facts _ (show b.toNat % 16 < 16 by omega)).2.2.1 h2
  apply UInt8.toNat_inj.1
  change b.toNat = 32
  omega

theorem plusSpaces_percent (b : UInt8) (cs : List Char) :
    plusSpaces (percent b ++ cs) = (if b = 32 then ['+'] else percent b) ++ plusSpaces cs := by
  by_cases hb : b = 32
  · subst hb
    rfl
  · have hlt : b.toNat < 256 := UInt8.toNat_lt_size b
    rw [if_neg hb]
    unfold percent
    simp only [List.cons_append, List.nil_append]
    rw [plusSpaces, plusSpaces_cons (hexDigit_facts _ (by omega)).1, plusSpaces_cons (hexDigit_facts _ (by omega)).1]
    intro cs' _ hcs
    rw [List.cons.injEq, List.cons.injEq] at hcs
    exact hb (byte_eq_space hcs.1 hcs.2.1)

theorem isUnescaped_facts {c : Char} (h : isUnescaped c = true) : c ≠ '%' ∧ c ≠ '+' ∧ c ≠ '=' ∧ c ≠ '&' := by
  refine ⟨?_, ?_, ?_, ?_⟩
  · rintro rfl
    exact absurd h (by decide)
  · rintro rfl
    exact absurd h (by decide)
  · rintro rfl
    exact absurd h (by decide)
  · rintro rfl
    exact absurd h (by decide)

theorem bytes_percent (b : UInt8) (cs : List Char) : Form.bytes (percent b ++ cs) = b :: Form.bytes cs := by
  have hb : b.toNat < 256 := UInt8.toNat_lt_size b
  have h1 := (hexDigit_facts (b.toNat / 16) (by omega)).2.2.2
  have h2 := (hexDigit_facts (b.toNat % 16) (by omega)).2.2.2
  unfold percent
  simp only [List.cons_append, List.nil_append]
  rw [Form.bytes, h1, h2]
  simp only
  rw [Nat.div_add_mod, UInt8.ofNat_toNat]

theorem bytes_byte (b : UInt8) (cs : List Char) :
    Form.bytes ((if b = 32 then ['+'] else percent b) ++ cs) = b :: Form.bytes cs := by
  by_cases hb : b = 32
  · subst hb
    rfl
  · rw [if_neg hb]
    exact bytes_percent b cs

theorem bytes_plusSpaces (bs : List UInt8) (cs : List Char) :
    Form.bytes (plusSpaces (bs.flatMap percent ++ cs)) = bs ++ Form.bytes (plusSpaces cs) := by
  induction bs with
  | nil => rfl
  | cons b bs ih => rw [List.flatMap_cons, List.append_assoc, plusSpaces_percent, bytes_byte, ih, List.cons_append]

/-- **An encoded value is read back**, one character after the other. -/
theorem bytes_encode (cs : List Char) : Form.bytes (plusSpaces (cs.flatMap encodeChar)) = utf8 cs := by
  induction cs with
  | nil => rfl
  | cons c cs ih =>
    unfold utf8 at ih ⊢
    rw [List.flatMap_cons, List.flatMap_cons]
    unfold encodeChar
    by_cases hc : isUnescaped c = true
    · obtain ⟨h1, h2, _⟩ := isUnescaped_facts hc
      rw [if_pos hc, List.singleton_append, plusSpaces_cons h1, Form.bytes_cons h1 h2]
      exact congrArg _ ih
    · rw [if_neg hc, bytes_plusSpaces]
      exact congrArg _ ih

theorem component_encodeValue (s : String) : Form.component (encodeValue s).toList = some s := by
  rw [toList_encodeValue, Form.component_eq (bytes_encode s.toList), String.ofList_toList]

theorem encodeValue_injective {v v' : String} (h : encodeValue v = encodeValue v') : v = v' := by
  have hread := component_encodeValue v
  rw [h, component_encodeValue] at hread
  exact (Option.some.inj hread).symm

theorem mem_plusSpaces {c : Char} (cs : List Char) (h : c ∈ plusSpaces cs) : c ∈ cs ∨ c = '+' := by
  induction cs using plusSpaces.induct with
  | case1 cs ih =>
    rw [plusSpaces] at h
    rcases List.mem_cons.1 h with h | h
    · exact .inr h
    · rcases ih h with h | h
      · exact .inl (by simp [h])
      · exact .inr h
  | case2 d cs hd ih =>
    rw [plusSpaces] at h
    · rcases List.mem_cons.1 h with h | h
      · exact .inl (by simp [h])
      · rcases ih h with h | h
        · exact .inl (by simp [h])
        · exact .inr h
    · exact hd
  | case3 => cases h

theorem not_mem_encodeValue (s : String) {d : Char} (hescaped : isUnescaped d = false) (hpercent : d ≠ '%') (hplus : d ≠ '+')
    (hhex : ∀ n < 16, hexDigit n ≠ d) : d ∉ (encodeValue s).toList := by
  intro hd
  rw [toList_encodeValue] at hd
  rcases mem_plusSpaces _ hd with hd | hd
  · obtain ⟨c, _, hc⟩ := List.mem_flatMap.1 hd
    unfold encodeChar at hc
    split at hc
    · rename_i hu
      rw [← List.mem_singleton.1 hc, hescaped] at hu
      cases hu
    · obtain ⟨b, _, hb⟩ := List.mem_flatMap.1 hc
      have hlt : b.toNat < 256 := UInt8.toNat_lt_size b
      unfold percent at hb
      simp only [List.mem_cons, List.not_mem_nil, or_false] at hb
      rcases hb with hb | hb | hb
      · exact hpercent hb
      · exact hhex _ (by omega) hb.symm
      · exact hhex _ (by omega) hb.symm
  · exact hplus hd

theorem encodeValue_free (s : String) : ∀ c ∈ (encodeValue s).toList, c ≠ '=' ∧ c ≠ '&' := by
  intro c hc
  constructor
  · rintro rfl
    exact not_mem_encodeValue s (by decide) (by decide) (by decide) (by decide) hc
  · rintro rfl
    exact not_mem_encodeValue s (by decide) (by decide) (by decide) (by decide) hc

/-! ## How a joined text is read -/

/-- A parameter as it stands in the text. -/
def entryChars (e : String × String) : List Char := e.1.toList ++ '=' :: (encodeValue e.2).toList

/-- A name that reads as a name: after its first `=`, if it has one, comes no `&`. -/
def isCleanKey (key : String) : Bool := !(key.toList.dropWhile (· != '=')).contains '&'

/-- What is left of a text behind an entry: nothing, or the next one. -/
def Joins (cs : List Char) : Prop := ∀ c ∈ cs.head?, c = '&'

/-- A text up to the first `&` behind the first `=`. -/
def firstEntry (cs : List Char) : List Char :=
  cs.takeWhile (· != '=') ++ (cs.dropWhile (· != '=')).takeWhile (· != '&')

theorem entryChars_split {e : String × String} (h : isCleanKey e.1 = true) :
    ∃ a t, entryChars e = a ++ '=' :: t ∧ (∀ c ∈ a, (c != '=') = true) ∧ ∀ c ∈ t, (c != '&') = true := by
  have hv : ∀ c ∈ (encodeValue e.2).toList, (c != '&') = true := fun c hc => bne_iff_ne.2 (encodeValue_free _ c hc).2
  unfold isCleanKey at h
  unfold entryChars
  have hsplit := List.takeWhile_append_dropWhile (p := (· != '=')) (l := e.1.toList)
  have hpre : ∀ c ∈ e.1.toList.takeWhile (· != '='), (c != '=') = true := fun c hc => List.all_eq_true.1 List.all_takeWhile c hc
  cases hd : e.1.toList.dropWhile (· != '=') with
  | nil =>
    rw [hd, List.append_nil] at hsplit
    rw [hsplit] at hpre
    exact ⟨e.1.toList, _, rfl, hpre, hv⟩
  | cons c t =>
    have hc : c = '=' := by
      have := List.head?_dropWhile_not (· != '=') e.1.toList
      rw [hd] at this
      simpa using this
    subst hc
    rw [hd] at h hsplit
    refine ⟨e.1.toList.takeWhile (· != '='), t ++ '=' :: (encodeValue e.2).toList, ?_, hpre, ?_⟩
    · conv_lhs => rw [← hsplit]
      rw [List.append_assoc, List.cons_append]
    intro c hc
    rcases List.mem_append.1 hc with hc | hc
    · rw [bne_iff_ne]
      rintro rfl
      simp [hc] at h
    · rcases List.mem_cons.1 hc with rfl | hc
      · rfl
      · exact hv c hc

/-- **The first of several entries is read back.** -/
theorem firstEntry_append {e : String × String} (h : isCleanKey e.1 = true) {rest : List Char} (hrest : Joins rest) :
    firstEntry (entryChars e ++ rest) = entryChars e := by
  obtain ⟨a, t, hat, ha, ht⟩ := entryChars_split h
  have hstop : rest.takeWhile (· != '&') = [] := by
    cases rest with
    | nil => rfl
    | cons c rest =>
      obtain rfl := hrest c rfl
      rfl
  unfold firstEntry
  rw [hat, List.append_assoc, List.takeWhile_append_of_pos ha, List.dropWhile_append_of_pos ha, List.cons_append,
    List.takeWhile_cons, List.dropWhile_cons]
  simp [List.takeWhile_append_of_pos ht, hstop]

/-- Two texts with a sign in them that is not in their second parts are one text only if both parts are. -/
theorem append_cons_inj_of_last {α : Type} {a : α} {k k' v v' : List α} (hv : a ∉ v) (hv' : a ∉ v')
    (h : k ++ a :: v = k' ++ a :: v') : k = k' ∧ v = v' := by
  rcases List.append_eq_append_iff.1 h with ⟨m, hm, hm'⟩ | ⟨m, hm, hm'⟩
  · cases m with
    | nil => simp_all
    | cons b m =>
      rw [List.cons_append, List.cons.injEq] at hm'
      exact absurd (hm'.2 ▸ by simp) hv
  · cases m with
    | nil => simp_all
    | cons b m =>
      rw [List.cons_append, List.cons.injEq] at hm'
      exact absurd (hm'.2 ▸ by simp) hv'

theorem entryChars_injective {e e' : String × String} (h : entryChars e = entryChars e') : e = e' := by
  obtain ⟨hk, hv⟩ := append_cons_inj_of_last (fun hc => (encodeValue_free _ _ hc).1 rfl)
    (fun hc => (encodeValue_free _ _ hc).1 rfl) h
  exact Prod.ext (String.toList_injective hk) (encodeValue_injective (String.toList_injective hv))

/-- The entries, each with a `&` before it. -/
def moreEntries (es : List (String × String)) : List Char := es.flatMap fun e => '&' :: entryChars e

/-- The entries, joined. -/
def joinedEntries : List (String × String) → List Char
  | [] => []
  | e :: es => entryChars e ++ moreEntries es

theorem joins_moreEntries (es : List (String × String)) : Joins (moreEntries es) := by
  intro c hc
  cases es with
  | nil => cases hc
  | cons e es =>
    cases hc
    rfl

/-- Behind entries that begin alike, the rest is alike. -/
theorem entries_cancel {e e' : String × String} (h : isCleanKey e.1 = true) (h' : isCleanKey e'.1 = true)
    {es es' : List (String × String)} (heq : entryChars e ++ moreEntries es = entryChars e' ++ moreEntries es') :
    e = e' ∧ moreEntries es = moreEntries es' := by
  have hfirst := congrArg firstEntry heq
  rw [firstEntry_append h (joins_moreEntries es), firstEntry_append h' (joins_moreEntries es')] at hfirst
  rw [hfirst] at heq
  exact ⟨entryChars_injective hfirst, List.append_cancel_left heq⟩

theorem moreEntries_injective : ∀ {es es' : List (String × String)}, (∀ e ∈ es, isCleanKey e.1 = true) →
    (∀ e ∈ es', isCleanKey e.1 = true) → moreEntries es = moreEntries es' → es = es'
  | [], [], _, _, _ => rfl
  | [], _ :: _, _, _, h => nomatch h
  | _ :: _, [], _, _, h => nomatch h
  | e :: es, e' :: es', hes, hes', h => by
    have htail := (List.cons.inj h).2
    obtain ⟨rfl, hmore⟩ := entries_cancel (hes e (by simp)) (hes' e' (by simp)) htail
    rw [moreEntries_injective (fun x hx => hes x (by simp [hx])) (fun x hx => hes' x (by simp [hx])) hmore]

/-- **Entries with names that read as names are read back from their text.** -/
theorem joinedEntries_injective {es es' : List (String × String)} (hes : ∀ e ∈ es, isCleanKey e.1 = true)
    (hes' : ∀ e ∈ es', isCleanKey e.1 = true) (h : joinedEntries es = joinedEntries es') : es = es' := by
  cases es with
  | nil =>
    cases es' with
    | nil => rfl
    | cons e' es' => simp [joinedEntries, entryChars] at h
  | cons e es =>
    cases es' with
    | nil => simp [joinedEntries, entryChars] at h
    | cons e' es' =>
      obtain ⟨rfl, hmore⟩ := entries_cancel (hes e (by simp)) (hes' e' (by simp)) h
      rw [moreEntries_injective (fun x hx => hes x (by simp [hx])) (fun x hx => hes' x (by simp [hx])) hmore]

theorem intercalate_entries : ∀ (e : String × String) (es : List (String × String)),
    List.intercalate ['&'] ((e :: es).map entryChars) = entryChars e ++ moreEntries es
  | e, [] => by simp [moreEntries]
  | e, e' :: es => by
    have ih := intercalate_entries e' es
    rw [List.map_cons] at ih
    rw [List.map_cons, List.map_cons, List.intercalate_cons_cons, ih]
    simp [moreEntries]

theorem toList_buildSortedQuery (entries : List (String × String)) :
    (buildSortedQuery entries).toList = joinedEntries (sortByKey entries) := by
  unfold buildSortedQuery
  rw [String.toList_intercalate, List.map_map]
  have hchars : (String.toList ∘ fun e : String × String => e.1 ++ "=" ++ encodeValue e.2) = entryChars := by
    funext e
    simp [entryChars]
  rw [hchars]
  cases sortByKey entries with
  | nil => rfl
  | cons e es => exact intercalate_entries e es

/-! ## The law -/

/-- **The parameters of a callback** whose signature is checked: each name once, and the two without which `validateVnpayCallback`
stops before it. -/
structure VnpayCallback where
  query : VnpayCallbackPayload
  keys : (query.map fun e => e.1).Nodup
  secureHash : (nonEmpty (query.get "vnp_SecureHash")).isSome = true
  txnRef : (nonEmpty (query.get "vnp_TxnRef")).isSome = true

namespace VnpayCallback

/-- Every signed parameter's name reads as one. -/
def isClean (m : VnpayCallback) : Bool := m.query.all fun e => !isSigned e.1 || isCleanKey e.1

/-- What `validateVnpayCallback` reads: the payment's reference, the amount and the result. -/
def outcome (m : VnpayCallback) : Option String × Option String × String :=
  (m.query.get "vnp_TxnRef", m.query.get "vnp_Amount", m.query.paymentResult)

/-- What is signed, in the order it is signed in. -/
def signed (m : VnpayCallback) : List (String × String) := sortByKey (m.query.filter fun e => isSigned e.1)

theorem mem_signed {m : VnpayCallback} {e : String × String} : e ∈ m.signed ↔ e ∈ m.query ∧ isSigned e.1 = true := by
  unfold signed sortByKey
  rw [List.mem_mergeSort, List.mem_filter]

theorem get_eq_some_iff (m : VnpayCallback) (key value : String) : m.query.get key = some value ↔ (key, value) ∈ m.query := by
  have hkeys := m.keys
  generalize m.query = query at hkeys ⊢
  unfold VnpayCallbackPayload.get
  induction query with
  | nil => simp
  | cons e es ih =>
    rw [List.map_cons, List.nodup_cons] at hkeys
    rw [List.find?_cons, List.mem_cons]
    by_cases he : e.1 = key
    · subst he
      have hnot : (e.1, value) ∉ es := fun h => hkeys.1 (List.mem_map.2 ⟨_, h, rfl⟩)
      simp [hnot, Prod.ext_iff, eq_comm]
    · have hne : (e.1 == key) = false := by simpa using he
      rw [hne]
      refine (ih hkeys.2).trans ?_
      constructor
      · exact .inr
      · rintro (rfl | h)
        · exact absurd rfl he
        · exact h

theorem get_congr {m m' : VnpayCallback} (h : m.signed = m'.signed) {key : String} (hkey : isSigned key = true) :
    m.query.get key = m'.query.get key := by
  apply Option.ext
  intro value
  have hmem := @mem_signed m (key, value)
  rw [h, mem_signed] at hmem
  rw [get_eq_some_iff, get_eq_some_iff]
  constructor
  · exact fun hm => (hmem.2 ⟨hm, hkey⟩).1
  · exact fun hm => (hmem.1 ⟨hm, hkey⟩).1

theorem outcome_congr {m m' : VnpayCallback} (h : m.signed = m'.signed) : m.outcome = m'.outcome := by
  unfold outcome VnpayCallbackPayload.paymentResult
  rw [get_congr h (by decide), get_congr h (by decide), get_congr h (by decide), get_congr h (by decide)]

theorem signed_clean {m : VnpayCallback} (h : m.isClean = true) : ∀ e ∈ m.signed, isCleanKey e.1 = true := by
  intro e he
  obtain ⟨hm, hs⟩ := mem_signed.1 he
  have := List.all_eq_true.1 h e hm
  rw [hs] at this
  simpa using this

theorem signed_eq {m m' : VnpayCallback} (h : m.isClean = true) (h' : m'.isClean = true)
    (hdata : m.query.signData = m'.query.signData) : m.signed = m'.signed := by
  have hchars := congrArg String.toList hdata
  unfold VnpayCallbackPayload.signData at hchars
  rw [toList_buildSortedQuery, toList_buildSortedQuery] at hchars
  exact joinedEntries_injective (signed_clean h) (signed_clean h') hchars

end VnpayCallback

/-! ### Names that bring other parameters along -/

/-- A payment of one dong that went through. -/
def paidCallback : VnpayCallback where
  query := [("vnp_Amount", "100"), ("vnp_ResponseCode", "00"), ("vnp_SecureHash", "5f"), ("vnp_TransactionStatus", "00"),
    ("vnp_TxnRef", "PAY1")]
  keys := by decide
  secureHash := by decide
  txnRef := by decide

/-- The same text, with the amount in the name of the response code. -/
def foldedCallback : VnpayCallback where
  query := [("vnp_Amount=100&vnp_ResponseCode", "00"), ("vnp_SecureHash", "5f"), ("vnp_TransactionStatus", "00"),
    ("vnp_TxnRef", "PAY1")]
  keys := by decide
  secureHash := by decide
  txnRef := by decide

/-- A folded parameter before an amount. -/
def partlyFolded : VnpayCallback where
  query := [("a=1&b", "2"), ("vnp_Amount", "5"), ("vnp_SecureHash", "5f"), ("vnp_TxnRef", "PAY1")]
  keys := by decide
  secureHash := by decide
  txnRef := by decide

/-- The same text with the amount folded as well. -/
def wholeFolded : VnpayCallback where
  query := [("a=1&b=2&vnp_Amount", "5"), ("vnp_SecureHash", "5f"), ("vnp_TxnRef", "PAY1")]
  keys := by decide
  secureHash := by decide
  txnRef := by decide

theorem signData_sorted {m : VnpayCallback}
    (h : (m.query.filter fun e => isSigned e.1).Pairwise fun a b => leUnits (utf16 a.1) (utf16 b.1) = true) :
    m.query.signData = String.ofList (joinedEntries (m.query.filter fun e => isSigned e.1)) := by
  apply String.toList_injective
  unfold VnpayCallbackPayload.signData
  rw [toList_buildSortedQuery, String.toList_ofList]
  unfold sortByKey
  rw [List.mergeSort_of_pairwise h]

theorem foldedCallback_signData : paidCallback.query.signData = foldedCallback.query.signData := by
  rw [signData_sorted (by decide), signData_sorted (by decide)]
  decide

theorem wholeFolded_signData : partlyFolded.query.signData = wholeFolded.query.signData := by
  rw [signData_sorted (by decide), signData_sorted (by decide)]
  decide

/-- The same signature carries the payment and one that failed over no amount. -/
theorem foldedCallback_not_bound : paidCallback.query.signData = foldedCallback.query.signData ∧
    paidCallback.outcome = (some "PAY1", some "100", "SUCCESS") ∧ foldedCallback.outcome = (some "PAY1", none, "FAILED") :=
  ⟨foldedCallback_signData, by decide, by decide⟩

/-- **The signed string determines the outcome exactly between callbacks whose names read as names.** -/
theorem vnpaySigning_binds_iff (clean clean' : Bool) :
    (∀ m m' : VnpayCallback, m.isClean = clean → m'.isClean = clean' → m.query.signData = m'.query.signData →
      m.outcome = m'.outcome) ↔ clean = true ∧ clean' = true := by
  constructor
  · intro h
    cases clean with
    | true =>
      cases clean' with
      | true => exact ⟨rfl, rfl⟩
      | false => exact absurd (h paidCallback foldedCallback (by decide) (by decide) foldedCallback_signData) (by decide)
    | false =>
      cases clean' with
      | true => exact absurd (h foldedCallback paidCallback (by decide) (by decide) foldedCallback_signData.symm) (by decide)
      | false => exact absurd (h partlyFolded wholeFolded (by decide) (by decide) wholeFolded_signData) (by decide)
  · rintro ⟨rfl, rfl⟩ m m' hm hm' hdata
    exact VnpayCallback.outcome_congr (VnpayCallback.signed_eq hm hm' hdata)

end Balii
