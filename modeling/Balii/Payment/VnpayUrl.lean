import Mathlib.Data.List.TakeWhile
import Balii.Payment.Checkout
import Balii.Payment.VnpaySigning
/-!
# Payment.VnpayUrl — the query VNPay's page is asked with passes the check of a callback's

The payment and the callback each have a `buildSortedQuery` of their own, one text: what the first writes is decoded and
sorted again by the second.
-/
namespace Balii

/-! ## Sorting again -/

theorem leUnits_total : ∀ xs ys : List ℕ, (leUnits xs ys || leUnits ys xs) = true
  | [], _ => rfl
  | _ :: _, [] => rfl
  | x :: xs, y :: ys => by
    have ih := leUnits_total xs ys
    unfold leUnits
    rcases Nat.lt_trichotomy x y with h | rfl | h
    · simp [h]
    · simpa using ih
    · simp [h]

theorem leUnits_trans : ∀ {xs ys zs : List ℕ}, leUnits xs ys = true → leUnits ys zs = true → leUnits xs zs = true
  | [], _, _, _, _ => rfl
  | _ :: _, [], _, h, _ => nomatch h
  | _ :: _, _ :: _, [], _, h => nomatch h
  | x :: xs, y :: ys, z :: zs, h, h' => by
    simp only [leUnits, Bool.or_eq_true, Bool.and_eq_true, decide_eq_true_eq, beq_iff_eq] at h h' ⊢
    rcases h with h | ⟨rfl, h⟩
    · rcases h' with h' | ⟨rfl, -⟩
      · exact .inl (h.trans h')
      · exact .inl h
    · rcases h' with h' | ⟨rfl, h'⟩
      · exact .inl h'
      · exact .inr ⟨rfl, leUnits_trans h h'⟩

theorem sortByKey_sortByKey {α : Type} (entries : List (String × α)) : sortByKey (sortByKey entries) = sortByKey entries := by
  apply List.mergeSort_of_pairwise
  unfold sortByKey
  apply List.pairwise_mergeSort
  · exact fun _ _ _ h h' => leUnits_trans h h'
  · exact fun _ _ => leUnits_total _ _

theorem mem_sortByKey {α : Type} {e : String × α} {entries : List (String × α)} : e ∈ sortByKey entries ↔ e ∈ entries :=
  List.mem_mergeSort

/-! ## Reading the signed text -/

/-- A parameter name that is written as it is and is copied into what is signed. -/
def IsParameter (key : String) : Prop := (key.toList.all isUnescaped) = true ∧ isSigned key = true

theorem isUnescaped_of_isParameter {key : String} (h : IsParameter key) : ∀ c ∈ key.toList, isUnescaped c = true :=
  List.all_eq_true.1 h.1

theorem entry_entryChars {e : String × String} (h : IsParameter e.1) : Form.entry (entryChars e) = some e := by
  have hkey := isUnescaped_of_isParameter h
  have hname : Form.component e.1.toList = some e.1 := by
    rw [Form.component_plain fun c hc => ⟨(isUnescaped_facts (hkey c hc)).1, (isUnescaped_facts (hkey c hc)).2.1⟩,
      String.ofList_toList]
  exact Form.entry_eq (fun c hc => (isUnescaped_facts (hkey c hc)).2.2.1) hname (component_encodeValue e.2)

theorem free_entryChars {e : String × String} (h : IsParameter e.1) : '&' ∉ entryChars e := by
  intro hc
  unfold entryChars at hc
  rcases List.mem_append.1 hc with hc | hc
  · exact (isUnescaped_facts (isUnescaped_of_isParameter h _ hc)).2.2.2 rfl
  · rcases List.mem_cons.1 hc with hc | hc
    · exact absurd hc (by decide)
    · exact (encodeValue_free _ _ hc).2 rfl

/-- The digits `digest('hex')` writes. -/
def digestDigits : List Char := ['0', '1', '2', '3', '4', '5', '6', '7', '8', '9', 'a', 'b', 'c', 'd', 'e', 'f']

/-- What `createHmac(…).digest('hex')` gives. -/
def IsDigest (hash : String) : Prop := hash ≠ "" ∧ ∀ c ∈ hash.toList, c ∈ digestDigits

theorem digestDigits_facts : ∀ c ∈ digestDigits, c.toLower = c ∧ c ≠ '&' ∧ c ≠ '%' ∧ c ≠ '+' :=
  List.forall_iff_forall_mem.1 (by decide)

theorem toLower_digest {hash : String} (h : IsDigest hash) : hash.toLower = hash := by
  apply String.toList_injective
  unfold String.toLower
  rw [String.toList_map]
  rw [List.map_congr_left fun c hc => (digestDigits_facts c (h.2 c hc)).1, List.map_id']

/-- The name of the last parameter. -/
def hashKey : String := "vnp_SecureHash"

theorem entry_hash {hash : String} (h : IsDigest hash) :
    Form.entry (hashKey.toList ++ '=' :: hash.toList) = some (hashKey, hash) := by
  have hkey : ∀ c ∈ hashKey.toList, c ≠ '%' ∧ c ≠ '+' ∧ c ≠ '=' := List.forall_iff_forall_mem.1 (by decide)
  have hname : Form.component hashKey.toList = some hashKey := by
    rw [Form.component_plain fun c hc => ⟨(hkey c hc).1, (hkey c hc).2.1⟩, String.ofList_toList]
  have hvalue : Form.component hash.toList = some hash := by
    rw [Form.component_plain fun c hc => (digestDigits_facts c (h.2 c hc)).2.2, String.ofList_toList]
  exact Form.entry_eq (fun c hc => (hkey c hc).2.2) hname hvalue

theorem free_hash {hash : String} (h : IsDigest hash) : '&' ∉ hashKey.toList ++ '=' :: hash.toList := by
  intro hc
  rcases List.mem_append.1 hc with hc | hc
  · exact absurd hc (by decide)
  · rcases List.mem_cons.1 hc with hc | hc
    · exact absurd hc (by decide)
    · exact (digestDigits_facts _ (h.2 _ hc)).2.1 rfl

/-- The query behind the page's address. -/
def signedQuery (params : List (String × String)) (hash : String) : String :=
  buildSortedQuery params ++ "&vnp_SecureHash=" ++ hash

theorem intercalate_concat {α : Type} (sep last : List α) : ∀ ls : List (List α), ls ≠ [] →
    sep.intercalate (ls ++ [last]) = sep.intercalate ls ++ (sep ++ last)
  | [], h => absurd rfl h
  | [l], _ => by simp [List.intercalate_cons_cons]
  | l :: l' :: ls, _ => by
    have ih := intercalate_concat sep last (l' :: ls) (by simp)
    rw [List.cons_append] at ih
    rw [List.cons_append, List.cons_append, List.intercalate_cons_cons, ih, List.intercalate_cons_cons]
    simp only [List.append_assoc]

/-- The pieces of the query, each with what it says. -/
def pieces (params : List (String × String)) (hash : String) : List (List Char × (String × String)) :=
  (sortByKey params).map (fun e => (entryChars e, e)) ++ [(hashKey.toList ++ '=' :: hash.toList, (hashKey, hash))]

theorem toList_signedQuery {params : List (String × String)} (hne : params ≠ []) (hash : String) :
    (signedQuery params hash).toList = List.intercalate ['&'] ((pieces params hash).map Prod.fst) := by
  have hpieces : (pieces params hash).map Prod.fst =
      (sortByKey params).map entryChars ++ [hashKey.toList ++ '=' :: hash.toList] := by
    unfold pieces
    rw [List.map_append, List.map_map]
    rfl
  have hsorted : ∃ e es, sortByKey params = e :: es := by
    obtain ⟨e, he⟩ := List.exists_mem_of_ne_nil _ hne
    exact List.exists_cons_of_ne_nil (List.ne_nil_of_mem (mem_sortByKey.2 he))
  obtain ⟨e, es, hes⟩ := hsorted
  unfold signedQuery
  rw [hpieces, intercalate_concat _ _ _ (by simp [hes]), String.toList_append, String.toList_append, toList_buildSortedQuery, hes,
    intercalate_entries, List.append_assoc]
  rfl

/-- **What is signed is read back**, in the order it was signed in, and the signature behind it. -/
theorem parse_signedQuery {params : List (String × String)} {hash : String} (hne : params ≠ [])
    (hkeys : ∀ e ∈ params, IsParameter e.1) (hhash : IsDigest hash) :
    Form.parse (signedQuery params hash).toList = some (sortByKey params ++ [(hashKey, hash)]) := by
  have hmem : ∀ p ∈ pieces params hash, (∃ e ∈ params, p = (entryChars e, e)) ∨
      p = (hashKey.toList ++ '=' :: hash.toList, (hashKey, hash)) := by
    intro p hp
    unfold pieces at hp
    rcases List.mem_append.1 hp with hp | hp
    · obtain ⟨e, he, rfl⟩ := List.mem_map.1 hp
      exact .inl ⟨e, mem_sortByKey.1 he, rfl⟩
    · exact .inr (List.mem_singleton.1 hp)
  have hparse := Form.parse_intercalate (l := pieces params hash) Prod.fst Prod.snd
    (by
      intro p hp
      rcases hmem p hp with ⟨e, he, rfl⟩ | rfl
      · exact free_entryChars (hkeys e he)
      · exact free_hash hhash)
    (by
      intro p hp
      rcases hmem p hp with ⟨e, he, rfl⟩ | rfl
      · simp [entryChars]
      · simp)
    (by
      intro p hp
      rcases hmem p hp with ⟨e, he, rfl⟩ | rfl
      · exact entry_entryChars (hkeys e he)
      · exact entry_hash hhash)
  rw [toList_signedQuery hne, hparse]
  unfold pieces
  rw [List.map_append, List.map_map]
  exact congrArg some (congrArg (· ++ _) (List.map_id _))

/-! ## The check -/

theorem signData_read {params : List (String × String)} {hash : String} (hkeys : ∀ e ∈ params, IsParameter e.1) :
    VnpayCallbackPayload.signData (sortByKey params ++ [(hashKey, hash)]) = buildSortedQuery params := by
  have hfilter : (sortByKey params ++ [(hashKey, hash)]).filter (fun e => isSigned e.1) = sortByKey params := by
    rw [List.filter_append, List.filter_eq_self.2 fun e he => (hkeys e (mem_sortByKey.1 he)).2]
    exact List.append_nil _
  unfold VnpayCallbackPayload.signData buildSortedQuery
  rw [hfilter, sortByKey_sortByKey]

theorem get_hash {params : List (String × String)} {hash : String} (hkeys : ∀ e ∈ params, IsParameter e.1) :
    VnpayCallbackPayload.get (sortByKey params ++ [(hashKey, hash)]) hashKey = some hash := by
  have hnone : (sortByKey params).find? (fun e => e.1 == hashKey) = none := by
    rw [List.find?_eq_none]
    intro e he heq
    have hsigned := (hkeys e (mem_sortByKey.1 he)).2
    rw [beq_iff_eq.1 heq] at hsigned
    exact absurd hsigned (by decide)
  unfold VnpayCallbackPayload.get
  rw [List.find?_append, hnone]
  simp

theorem verify_read {cfg : Config} {secret : String} (hsecret : nonEmpty cfg.vnpayHashSecret = some secret)
    {params : List (String × String)} (hkeys : ∀ e ∈ params, IsParameter e.1)
    (hhash : IsDigest (cfg.hmacSha512 secret (buildSortedQuery params))) :
    verifyVnpaySignature cfg (sortByKey params ++ [(hashKey, cfg.hmacSha512 secret (buildSortedQuery params))]) = .ok true := by
  have hsome : nonEmpty (some (cfg.hmacSha512 secret (buildSortedQuery params))) =
      some (cfg.hmacSha512 secret (buildSortedQuery params)) := by
    unfold nonEmpty
    simp [hhash.1]
  unfold verifyVnpaySignature
  rw [hsecret]
  simp only
  rw [show "vnp_SecureHash" = hashKey from rfl, get_hash hkeys, hsome]
  simp only
  rw [signData_read hkeys, toLower_digest hhash, beq_self_eq_true]

/-! ## The page's address -/

theorem isParameter_of {key : String} {cs : List Char} (h : key = String.ofList cs) (hcs : cs.all isUnescaped = true)
    (hsigned : isSigned key = true) : IsParameter key := by
  refine ⟨?_, hsigned⟩
  rw [h, String.toList_ofList]
  exact hcs

theorem isParameter_params (p : VnpayPayment) (returnUrl tmnCode : String) :
    ∀ e ∈ p.params returnUrl tmnCode, IsParameter e.1 := by
  intro e he
  unfold VnpayPayment.params at he
  simp only [List.mem_cons, List.not_mem_nil, or_false] at he
  rcases he with rfl | rfl | rfl | rfl | rfl | rfl | rfl | rfl | rfl | rfl | rfl | rfl
  all_goals exact isParameter_of rfl (by decide) (by simp [isSigned])

/-- The address of an unsimulated page. -/
theorem buildVnpayPaymentUrl_ok {cfg : Config} {p : VnpayPayment} {url : String} (hreal : cfg.isPaymentSimulationEnabled = false)
    (h : buildVnpayPaymentUrl cfg p = .ok url) :
    ∃ tmnCode secret paymentUrl, nonEmpty cfg.vnpayHashSecret = some secret ∧ nonEmpty cfg.vnpayPaymentUrl = some paymentUrl ∧
      url = paymentUrl ++ "?" ++ signedQuery (p.params cfg.getVnpayReturnUrl tmnCode)
        (cfg.hmacSha512 secret (buildSortedQuery (p.params cfg.getVnpayReturnUrl tmnCode))) := by
  unfold buildVnpayPaymentUrl at h
  rw [hreal, if_neg Bool.false_ne_true] at h
  split at h
  · rename_i tmnCode secret paymentUrl _ hsecret hurl
    cases hsafe : assertVnpayEnvironmentIsSafe cfg paymentUrl cfg.getVnpayReturnUrl with
    | error e =>
      rw [hsafe] at h
      cases h
    | ok u =>
      rw [hsafe] at h
      refine ⟨tmnCode, secret, paymentUrl, hsecret, hurl, ?_⟩
      rw [← Except.ok.inj h]
      unfold signedQuery
      simp only [String.append_assoc]
  · cases h

/-- What follows the first `?` of an address, up to a `#`. -/
def queryOf (url : String) : List Char := (((url.toList.dropWhile (· != '?')).drop 1).takeWhile (· != '#'))

theorem mem_joinedEntries {c : Char} {es : List (String × String)} (h : c ∈ joinedEntries es) :
    c = '&' ∨ ∃ e ∈ es, c ∈ entryChars e := by
  cases es with
  | nil => cases h
  | cons e es =>
    unfold joinedEntries moreEntries at h
    rcases List.mem_append.1 h with h | h
    · exact .inr ⟨e, by simp, h⟩
    · obtain ⟨e', he', hc⟩ := List.mem_flatMap.1 h
      rcases List.mem_cons.1 hc with hc | hc
      · exact .inl hc
      · exact .inr ⟨e', by simp [he'], hc⟩

theorem signedQuery_free {params : List (String × String)} {hash : String} (hkeys : ∀ e ∈ params, IsParameter e.1)
    (hhash : IsDigest hash) : '#' ∉ (signedQuery params hash).toList := by
  intro hc
  unfold signedQuery at hc
  rw [String.toList_append, String.toList_append, toList_buildSortedQuery] at hc
  rcases List.mem_append.1 hc with hc | hc
  · rcases List.mem_append.1 hc with hc | hc
    · rcases mem_joinedEntries hc with hc | ⟨e, he, hc⟩
      · exact absurd hc (by decide)
      · unfold entryChars at hc
        rcases List.mem_append.1 hc with hc | hc
        · exact absurd (isUnescaped_of_isParameter (hkeys e (mem_sortByKey.1 he)) _ hc) (by decide)
        · rcases List.mem_cons.1 hc with hc | hc
          · exact absurd hc (by decide)
          · exact not_mem_encodeValue e.2 (by decide) (by decide) (by decide) (by decide) hc
    · exact absurd hc (by decide)
  · exact absurd (hhash.2 _ hc) (by decide)

/-- **A payment's page is asked with a query that passes the check of a callback's**: decoded, its parameters are those that
were signed, whatever their texts are. -/
theorem vnpayUrl_verified (cfg : Config) (p : VnpayPayment) (url : String) (hreal : cfg.isPaymentSimulationEnabled = false)
    (hdigest : ∀ secret data, IsDigest (cfg.hmacSha512 secret data)) (h : buildVnpayPaymentUrl cfg p = .ok url) :
    ∃ page query entries, nonEmpty cfg.vnpayPaymentUrl = some page ∧ url = page ++ "?" ++ query ∧
      ((∀ c ∈ page.toList, c ≠ '?' ∧ c ≠ '#') → queryOf url = query.toList) ∧
        Form.parse query.toList = some entries ∧ verifyVnpaySignature cfg entries = .ok true := by
  obtain ⟨tmnCode, secret, page, hsecret, hpage, rfl⟩ := buildVnpayPaymentUrl_ok hreal h
  have hkeys := isParameter_params p cfg.getVnpayReturnUrl tmnCode
  refine ⟨page, _, _, hpage, rfl, ?_, parse_signedQuery (by simp [VnpayPayment.params]) hkeys (hdigest _ _),
    verify_read hsecret hkeys (hdigest _ _)⟩
  intro hfree
  have hall : ∀ c ∈ page.toList, (c != '?') = true := fun c hc => bne_iff_ne.2 (hfree c hc).1
  unfold queryOf
  rw [String.toList_append, String.toList_append, List.append_assoc, List.dropWhile_append_of_pos hall]
  change List.takeWhile _ (signedQuery _ _).toList = _
  exact List.takeWhile_eq_self_iff.2 fun c hc => bne_iff_ne.2 (ne_of_mem_of_not_mem hc (signedQuery_free hkeys (hdigest _ _)))

/-! ### A payment of ten dong -/

/-- A digest of the right form. -/
def sampleDigest (secret data : String) : String :=
  String.ofList (List.replicate 128 (hexLower ((secret.length + data.length) % 16)))

theorem sampleDigest_isDigest (secret data : String) : IsDigest (sampleDigest secret data) := by
  have hdigit : ∀ n < 16, hexLower n ∈ digestDigits := by decide
  unfold sampleDigest
  constructor
  · intro h
    have hlen := congrArg String.length h
    rw [String.length_ofList, List.length_replicate] at hlen
    cases hlen
  · intro c hc
    rw [String.toList_ofList] at hc
    rw [List.eq_of_mem_replicate hc]
    exact hdigit _ (Nat.mod_lt _ (by decide))

/-- A shop that sends its customers to VNPay. -/
def liveConfig : Config :=
  { sampleConfig with
    paymentSimulation := false
    vnpayTmnCode := some "BALII"
    vnpayPaymentUrl := some "https://sandbox.vnpayment.vn/paymentv2/vpcpay.html"
    hmacSha512 := sampleDigest }

def livePayment : VnpayPayment where
  orderId := "7f+9 %"
  amount := "1000"
  providerRef := none
  clientIp := some "::1"
  paymentCode := "BALII'1"
  createDate := "20260101120000"

theorem livePayment_verified : ∃ url, buildVnpayPaymentUrl liveConfig livePayment = .ok url ∧
    ∃ page query entries, nonEmpty liveConfig.vnpayPaymentUrl = some page ∧ url = page ++ "?" ++ query ∧
      ((∀ c ∈ page.toList, c ≠ '?' ∧ c ≠ '#') → queryOf url = query.toList) ∧
        Form.parse query.toList = some entries ∧ verifyVnpaySignature liveConfig entries = .ok true :=
  ⟨_, rfl, vnpayUrl_verified liveConfig livePayment _ rfl sampleDigest_isDigest rfl⟩

end Balii
