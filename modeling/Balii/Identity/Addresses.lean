import Balii.Schema
import Balii.Lib.Ends
/-!
# Addresses — the address book of a user

Every change of a user's addresses is a transaction that first locks the user's row, so the store keeps the address book under
that row's lock.  `statement` is one `INSERT`, `UPDATE` or `DELETE`, with the unique indexes it is checked against.
-/
namespace Balii.Addresses

open Rowdb Tx

structure UserAddress where
  id : Uuid
  recipientName : String
  phone : String
  provinceId : ℤ
  districtId : ℤ
  wardId : ℤ
  streetAddress : String
  isDefault : Bool
  deriving DecidableEq

structure CreateAddressDto where
  recipientName : String
  phone : String
  provinceId : ℤ
  districtId : ℤ
  wardId : ℤ
  streetAddress : String

/-- `PartialType`: a field may be missing, and `null` passes its checks as well. -/
structure UpdateAddressDto where
  recipientName : Option (Option String)
  phone : Option (Option String)
  provinceId : Option (Option ℤ)
  districtId : Option (Option ℤ)
  wardId : Option (Option ℤ)
  streetAddress : Option (Option String)

structure State where
  /-- The users there are, with their rows of `user_addresses`. -/
  books : Uuid → Option (List UserAddress)
  /-- `wards`: `id` and `district_id`. -/
  wards : List (ℤ × ℤ)
  /-- `districts`: `id` and `province_id`. -/
  districts : List (ℤ × ℤ)

/-! ## Statements -/

inductive Write
  | insert (userId : Uuid) (row : UserAddress)
  | update (userId : Uuid) (p : UserAddress → Bool) (f : UserAddress → UserAddress)
  | delete (userId id : Uuid)

def Write.userId : Write → Uuid
  | .insert userId _ => userId
  | .update userId _ _ => userId
  | .delete userId _ => userId

/-- What the write makes of the user's rows. -/
def Write.rows : Write → List UserAddress → List UserAddress
  | .insert _ row, book => book ++ [row]
  | .update _ p f, book => book.map fun a => if p a then f a else a
  | .delete _ id, book => book.filter fun a => a.id ≠ id

def Write.apply (w : Write) (s : State) : State :=
  { s with books := Function.update s.books w.userId ((s.books w.userId).map w.rows) }

@[reducible] instance store : Store State (fun _ : Uuid => Option (List UserAddress)) Write where
  get s userId := s.books userId
  keys w := [w.userId]
  apply := Write.apply
  get_apply_of_notMem s h := Function.update_of_ne (List.ne_of_not_mem_cons h) _ _
  get_apply_congr h k hk := by
    cases List.mem_singleton.1 hk
    have hsame := h _ List.mem_cons_self
    show Function.update _ _ _ _ = Function.update _ _ _ _
    rw [Function.update_self, Function.update_self, hsame]

abbrev Body (α : Type) : Type := Tx State (fun _ : Uuid => Option (List UserAddress)) Write Err α

/-- `ux_user_addresses_one_default`: of the rows of a user, at most one has `is_default`. -/
def OneDefault (book : List UserAddress) : Prop := book.countP (·.isDefault) ≤ 1

instance (book : List UserAddress) : Decidable (OneDefault book) := inferInstanceAs (Decidable (_ ≤ _))

/-- The rows of the user as the transaction sees them. -/
def rowsOf (userId : Uuid) : Body (List UserAddress) := do
  let book ← (lockRow userId : Body _)
  pure (book.getD [])

/-- One statement, with the indexes the rows it leaves have to meet. -/
def statement (w : Write) : Body Unit := do
  let book ← rowsOf w.userId
  ensure ((w.rows book).map (·.id)).Nodup (uniqueViolation "user_addresses_pkey")
  ensure (OneDefault (w.rows book)) (uniqueViolation "ux_user_addresses_one_default")
  emit w

/-! ## The service -/

def lockUser (userId : Uuid) : Body Unit := do
  let rows ← (lockRow userId : Body _)
  ensure (rows.isSome = true) (notFound "Không tìm thấy người dùng")

/-- The join of `wards` and `districts`. -/
def State.hasLocation (s : State) (provinceId districtId wardId : ℤ) : Bool :=
  s.wards.any fun ward => s.districts.any fun district =>
    district.1 == ward.2 && ward.1 == wardId && district.1 == districtId && district.2 == provinceId

def validateLocationHierarchy (provinceId districtId wardId : ℤ) : Body Unit := do
  let found ← look fun s => s.hasLocation provinceId districtId wardId
  ensure (found = true) (badRequest "Tỉnh, quận/huyện và phường/xã không hợp lệ.")

/-- `findOne` with `pessimistic_write`; what is no UUID the database refuses. -/
def findAddress (userId : Uuid) (id : String) : Body UserAddress := do
  let uuid ← need (Uuid.ofText id) (invalidText "uuid")
  let book ← rowsOf userId
  need (book.find? fun a => a.id = uuid) (notFound "Không tìm thấy địa chỉ")

/-- `id` is what the database generates for the row. -/
def create (userId : Uuid) (dto : CreateAddressDto) (id : Uuid) : Body UserAddress := do
  lockUser userId
  validateLocationHierarchy dto.provinceId dto.districtId dto.wardId
  let count ← look fun s => ((s.books userId).getD []).length
  ensure (count < 5) (badRequest "Mỗi tài khoản chỉ được lưu tối đa 5 địa chỉ.")
  let address : UserAddress :=
    { id, recipientName := dto.recipientName, phone := dto.phone, provinceId := dto.provinceId, districtId := dto.districtId
      wardId := dto.wardId, streetAddress := dto.streetAddress, isDefault := count == 0 }
  statement (.insert userId address)
  pure address

/-- `Object.assign(address, dto)`. -/
def UpdateAddressDto.assign (dto : UpdateAddressDto) (a : UserAddress) : UserAddress :=
  { a with
    recipientName := dto.recipientName.join.getD a.recipientName
    phone := dto.phone.join.getD a.phone
    provinceId := dto.provinceId.join.getD a.provinceId
    districtId := dto.districtId.join.getD a.districtId
    wardId := dto.wardId.join.getD a.wardId
    streetAddress := dto.streetAddress.join.getD a.streetAddress }

/-- The columns that the save would set to `null`. -/
def UpdateAddressDto.nullColumns (dto : UpdateAddressDto) : List String :=
  let columns := [("recipient_name", dto.recipientName == some none), ("phone", dto.phone == some none),
    ("province_id", dto.provinceId == some none), ("district_id", dto.districtId == some none), ("ward_id", dto.wardId == some none),
    ("street_address", dto.streetAddress == some none)]
  (columns.filter fun column => column.2).map Prod.fst

def update (userId : Uuid) (id : String) (dto : UpdateAddressDto) : Body UserAddress := do
  lockUser userId
  let address ← findAddress userId id
  validateLocationHierarchy (dto.provinceId.join.getD address.provinceId) (dto.districtId.join.getD address.districtId)
    (dto.wardId.join.getD address.wardId)
  ensure (dto.nullColumns = []) (notNullViolation (dto.nullColumns.headD ""))
  statement (.update userId (fun a => a.id = address.id) dto.assign)
  pure (dto.assign address)

def remove (userId : Uuid) (id : String) : Body String := do
  lockUser userId
  let address ← findAddress userId id
  statement (.delete userId address.id)
  if address.isDefault then
    -- `ORDER BY id LIMIT 1` of the rows that are left
    let book ← rowsOf userId
    let first := (book.map (·.id)).min?
    statement (.update userId (fun a => some a.id = first) fun a => { a with isDefault := true })
  pure "Xóa địa chỉ thành công"

def setDefault (userId : Uuid) (id : String) : Body (Option UserAddress) := do
  lockUser userId
  let address ← findAddress userId id
  statement (.update userId (fun _ => true) fun a => { a with isDefault := false })
  statement (.update userId (fun a => a.id = address.id) fun a => { a with isDefault := true })
  let book ← rowsOf userId
  pure (book.find? fun a => a.id = address.id)

/-! ## The system -/

inductive Op
  | create (userId : Uuid) (dto : CreateAddressDto) (id : Uuid)
  | update (userId : Uuid) (id : String) (dto : UpdateAddressDto)
  | remove (userId : Uuid) (id : String)
  | setDefault (userId : Uuid) (id : String)

inductive Reply
  | address (a : UserAddress)
  | found (a : Option UserAddress)
  | message (text : String)

inductive Call
  | create (userId : Uuid) (dto : CreateAddressDto)
  | update (userId : Uuid) (id : String) (dto : UpdateAddressDto)
  | remove (userId : Uuid) (id : String)
  | setDefault (userId : Uuid) (id : String)

def Op.body : Op → Body Reply
  | .create userId dto id => do pure (.address (← Addresses.create userId dto id))
  | .update userId id dto => do pure (.address (← Addresses.update userId id dto))
  | .remove userId id => do pure (.message (← Addresses.remove userId id))
  | .setDefault userId id => do pure (.found (← Addresses.setDefault userId id))

def Call.proc : Call → Proc Op (fun _ => Reply) Call Reply Uuid Err Reply
  | .create userId dto => do
    let id ← Proc.answer
    Proc.trans (.create userId dto id)
  | .update userId id dto => Proc.trans (.update userId id dto)
  | .remove userId id => Proc.trans (.remove userId id)
  | .setDefault userId id => Proc.trans (.setDefault userId id)

/-- The service over its database; an answer of the outside is a new UUID. -/
abbrev service : System where
  State := State
  Key := Uuid
  Row := fun _ => Option (List UserAddress)
  Write := Write
  Err := Err
  Op := Op
  Res := fun _ => Reply
  Call := Call
  Reply := Reply
  Answer := Uuid
  store := store
  tx := Op.body
  proc := Call.proc
  lost := lostConnection

/-! ## What a transaction leaves -/

/-- The address books as they should be. -/
structure Valid (book : List UserAddress) : Prop where
  ids : (book.map (·.id)).Nodup
  few : book.length ≤ 5
  default : book ≠ [] → book.countP (·.isDefault) = 1

def Inv (s : State) : Prop := ∀ userId book, s.books userId = some book → Valid book

theorem Valid.oneDefault {book : List UserAddress} (h : Valid book) : OneDefault book := by
  unfold OneDefault
  by_cases hnil : book = []
  · rw [hnil]; exact Nat.zero_le 1
  · exact (h.default hnil).le

section Bodies
variable {s : State} {L : List Uuid} {ws : List Write} {userId : Uuid}

/-- What a transaction relies on: the rows it has locked stay. -/
abbrev R : List Uuid → State → State → Prop := System.Rely (S := service) Inv fun _ _ _ => True

abbrev seen (ws : List Write) (s : State) : State := Tx.applyAll (fun _ : Uuid => Option (List UserAddress)) ws s

/-- Not the index on default addresses. -/
def NotDefaultIndex (e : Err) : Prop := e ≠ uniqueViolation "ux_user_addresses_one_default"

instance (e : Err) : Decidable (NotDefaultIndex e) := inferInstanceAs (Decidable (_ ≠ _))

theorem books_of_rely {s₀ : State} (h : R L s₀ s) {userId : Uuid} (hu : userId ∈ L) : s₀.books userId = s.books userId :=
  System.get_eq_of_others h.2 userId hu

theorem ends_rowsOf {Q : Outcome Uuid Write (List UserAddress) → Prop} : Ends R NotDefaultIndex Q (rowsOf userId) s L ws ↔
    Q ⟨((seen ws s).books userId).getD [], userId :: L, ws⟩ := Iff.rfl

/-- A statement that leaves rows the default index is met by. -/
theorem ends_statement {w : Write} {Q : Outcome Uuid Write Unit → Prop}
    (hone : OneDefault (w.rows (((seen ws s).books w.userId).getD [])))
    (h : ((w.rows (((seen ws s).books w.userId).getD [])).map (·.id)).Nodup → Q ⟨(), w.userId :: w.userId :: L, ws ++ [w]⟩) :
    Ends R NotDefaultIndex Q (statement w) s L ws := by
  unfold statement
  rw [ends_bind, ends_rowsOf, ends_bind, ends_ensure]
  refine ⟨fun hids => ?_, fun _ => by decide⟩
  rw [ends_bind, ends_ensure]
  exact ⟨fun _ => h hids, fun hnot => absurd hone hnot⟩

theorem ends_lockUser {Q : Outcome Uuid Write Unit → Prop}
    (h : ∀ book, (seen ws s).books userId = some book → Q ⟨(), userId :: L, ws⟩) :
    Ends R NotDefaultIndex Q (lockUser userId) s L ws := by
  unfold lockUser
  rw [ends_bind, ends_lockRow, ends_ensure]
  refine ⟨fun hsome => ?_, fun _ => by decide⟩
  obtain ⟨book, hbook⟩ := Option.isSome_iff_exists.1 hsome
  exact h book hbook

theorem ends_validateLocation {p d w : ℤ} {Q : Outcome Uuid Write Unit → Prop} (h : Q ⟨(), L, ws⟩) :
    Ends R NotDefaultIndex Q (validateLocationHierarchy p d w) s L ws := by
  unfold validateLocationHierarchy
  rw [ends_bind, ends_look]
  exact fun s₀ _ => ends_ensure.2 ⟨fun _ => h, fun _ => by decide⟩

theorem ends_findAddress {id : String} {Q : Outcome Uuid Write UserAddress → Prop}
    (h : ∀ a ∈ ((seen ws s).books userId).getD [], Q ⟨a, userId :: L, ws⟩) :
    Ends R NotDefaultIndex Q (findAddress userId id) s L ws := by
  unfold findAddress
  rw [ends_bind, ends_need]
  refine ⟨fun uuid _ => ?_, fun _ => by decide⟩
  rw [ends_bind, ends_rowsOf, ends_need]
  exact ⟨fun a ha => h a (List.mem_of_find?_eq_some ha), fun _ => by decide⟩

theorem books_seen {ws : List Write} (h : ∀ w ∈ ws, w.userId = userId) (s : State) (u : Uuid) :
    (seen ws s).books u = if u = userId then (s.books u).map fun book => ws.foldl (fun book w => w.rows book) book else s.books u := by
  induction ws generalizing s with
  | nil => simp
  | cons w ws ih =>
    obtain ⟨hw, hws⟩ := List.forall_mem_cons.1 h
    rw [seen, applyAll_cons, ← seen, ih hws]
    by_cases hu : u = userId
    · simp [hu, Store.apply, Write.apply, hw, Function.comp_def]
    · simp [hu, Store.apply, Write.apply, hw]

/-- What a commit leaves of the books: the user's rows after its statements. -/
theorem inv_seen {ws : List Write} (h : ∀ w ∈ ws, w.userId = userId) (hinv : Inv s)
    (hvalid : ∀ book, s.books userId = some book → Valid (ws.foldl (fun book w => w.rows book) book)) : Inv (seen ws s) := by
  intro u book hbook
  rw [books_seen h] at hbook
  split at hbook
  · rename_i hu
    obtain ⟨old, hold, rfl⟩ := Option.map_eq_some_iff.1 hbook
    exact hvalid old (hu ▸ hold)
  · exact hinv u book hbook

end Bodies

/-! ## The rows after each operation -/

section Rows
variable {book : List UserAddress}

theorem Valid.countP_insert (h : Valid book) {row : UserAddress} (hdefault : row.isDefault = (book.length == 0)) :
    (book ++ [row]).countP (·.isDefault) = 1 := by
  rw [List.countP_append, List.countP_singleton]
  by_cases hnil : book = []
  · subst hnil
    simp [hdefault]
  · have hlen : (book.length == 0) = false := by simpa using hnil
    rw [h.default hnil, hdefault, hlen]
    rfl

/-- An update of fields that keep their row what it is to the indexes. -/
theorem Valid.edit (h : Valid book) {p : UserAddress → Bool} {f : UserAddress → UserAddress}
    (hid : ∀ a ∈ book, p a = true → (f a).id = a.id) (hdefault : ∀ a ∈ book, p a = true → (f a).isDefault = a.isDefault) :
    Valid (book.map fun a => if p a then f a else a) := by
  have hids : (book.map fun a => if p a then f a else a).map (·.id) = book.map (·.id) := by
    rw [List.map_map]
    refine List.map_congr_left fun a ha => ?_
    by_cases hp : p a = true
    · simp [hp, hid a ha hp]
    · simp [hp]
  have hcount : (book.map fun a => if p a then f a else a).countP (·.isDefault) = book.countP (·.isDefault) := by
    rw [List.countP_map]
    refine List.countP_congr fun a ha => ?_
    by_cases hp : p a = true
    · simp [hp, hdefault a ha hp]
    · simp [hp]
  refine ⟨hids ▸ h.ids, by rw [List.length_map]; exact h.few, fun hne => ?_⟩
  rw [hcount]
  exact h.default fun hnil => hne (by rw [hnil]; rfl)

/-- Where no row is the default, one is made it. -/
theorem countP_mark (hids : (book.map (·.id)).Nodup) (hnone : book.countP (·.isDefault) = 0) {p : UserAddress → Bool} {x : Uuid}
    (hp : ∀ a, p a = true ↔ a.id = x) :
    (book.map fun a => if p a then { a with isDefault := true } else a).countP (·.isDefault) = if x ∈ book.map (·.id) then 1 else 0 := by
  have hcount : (book.map fun a => if p a then { a with isDefault := true } else a).countP (·.isDefault) = (book.map (·.id)).count x := by
    rw [List.count, List.countP_map, List.countP_map]
    refine List.countP_congr fun a ha => ?_
    have hfalse : a.isDefault = false := by simpa using List.countP_eq_zero.1 hnone a ha
    by_cases hpa : p a = true
    · simp [hpa, (hp a).1 hpa]
    · have hne : a.id ≠ x := fun h => hpa ((hp a).2 h)
      simp [hpa, hfalse, hne]
  rw [hcount]
  split
  · rename_i hx
    exact List.count_eq_one_of_mem hids hx
  · rename_i hx
    exact List.count_eq_zero.2 hx

/-- After the rows have lost their default, one of them becomes it. -/
theorem valid_mark (hids : (book.map (·.id)).Nodup) (hfew : book.length ≤ 5) (hnone : book.countP (·.isDefault) = 0)
    {p : UserAddress → Bool} {x : Uuid} (hp : ∀ a, p a = true ↔ a.id = x) (hx : x ∈ book.map (·.id)) :
    Valid (book.map fun a => if p a then { a with isDefault := true } else a) := by
  have hsame : (book.map fun a => if p a then { a with isDefault := true } else a).map (·.id) = book.map (·.id) := by
    rw [List.map_map]
    refine List.map_congr_left fun a _ => ?_
    by_cases hpa : p a = true <;> simp [hpa]
  refine ⟨hsame ▸ hids, (List.length_map _).trans_le hfew, fun _ => ?_⟩
  rw [countP_mark hids hnone hp, if_pos hx]

theorem eq_of_id (hids : (book.map (·.id)).Nodup) {a b : UserAddress} (ha : a ∈ book) (hb : b ∈ book) (h : a.id = b.id) : a = b :=
  List.inj_on_of_nodup_map hids ha hb h

theorem Valid.delete (h : Valid book) {a : UserAddress} (ha : a ∈ book) (hnot : a.isDefault = false) :
    Valid (book.filter fun b => b.id ≠ a.id) := by
  have hcount : (book.filter fun b => b.id ≠ a.id).countP (·.isDefault) = book.countP (·.isDefault) := by
    rw [List.countP_filter]
    refine List.countP_congr fun b hb => ?_
    by_cases hd : b.isDefault = true
    · have hne : b.id ≠ a.id := fun hid => by rw [eq_of_id h.ids hb ha hid, hnot] at hd; cases hd
      simp [hd, hne]
    · simp [hd]
  refine ⟨h.ids.sublist (List.filter_sublist.map _), (List.length_filter_le _ _).trans h.few, fun _ => ?_⟩
  rw [hcount]
  exact h.default fun hnil => by rw [hnil] at ha; cases ha

theorem Valid.countP_delete (h : Valid book) {a : UserAddress} (ha : a ∈ book) (hdefault : a.isDefault = true) :
    (book.filter fun b => b.id ≠ a.id).countP (·.isDefault) = 0 := by
  have hone := h.default fun hnil => by rw [hnil] at ha; cases ha
  refine List.countP_eq_zero.2 fun b hb hbd => ?_
  obtain ⟨hb, hne⟩ := List.mem_filter.1 hb
  have hne : b ≠ a := fun hba => by simp [hba] at hne
  obtain ⟨X, Y, rfl⟩ := List.append_of_mem ha
  rw [List.countP_append, List.countP_cons_of_pos (by exact hdefault)] at hone
  have hX : X.countP (·.isDefault) = 0 := by omega
  have hY : Y.countP (·.isDefault) = 0 := by omega
  rcases List.mem_append.1 hb with hb | hb
  · exact List.countP_eq_zero.1 hX b hb hbd
  · exact List.countP_eq_zero.1 hY b ((List.mem_cons.1 hb).resolve_left hne) hbd

end Rows

/-! ## Every operation -/

section Operations
variable {s : State} {L : List Uuid} {ws : List Write} {userId : Uuid} {id : String}

theorem seen_getD {ws : List Write} {book : List UserAddress} (hbook : s.books userId = some book)
    (h : ∀ w ∈ ws, w.userId = userId) : ((seen ws s).books userId).getD [] = ws.foldl (fun book w => w.rows book) book := by
  rw [books_seen h, if_pos rfl, hbook]
  rfl

theorem inv_of_book {ws : List Write} {book : List UserAddress} (hbook : s.books userId = some book)
    (h : ∀ w ∈ ws, w.userId = userId) (hinv : Inv s) (hvalid : Valid (ws.foldl (fun book w => w.rows book) book)) : Inv (seen ws s) :=
  inv_seen h hinv fun old hold => by rw [hbook] at hold; cases hold; exact hvalid

/-- A statement after others on the rows of the same user. -/
theorem ends_next {ws : List Write} {w : Write} {book : List UserAddress} {Q : Outcome Uuid Write Unit → Prop}
    (hbook : s.books userId = some book) (hws : ∀ v ∈ ws, v.userId = userId) (hw : w.userId = userId)
    (hone : OneDefault (w.rows (ws.foldl (fun book w => w.rows book) book)))
    (h : ((w.rows (ws.foldl (fun book w => w.rows book) book)).map (·.id)).Nodup → Q ⟨(), userId :: userId :: L, ws ++ [w]⟩) :
    Ends R NotDefaultIndex Q (statement w) s L ws := by
  subst hw
  have hrows := seen_getD hbook hws
  refine ends_statement ?_ fun hids => h ?_
  · rwa [hrows]
  · rwa [hrows] at hids

theorem ends_create (hinv : Inv s) (dto : CreateAddressDto) (newId : Uuid) :
    Ends R NotDefaultIndex (fun o => Inv (seen o.writes s)) (create userId dto newId) s [] [] := by
  unfold create
  rw [ends_bind]
  refine ends_lockUser fun book hbook => ?_
  have hbook : s.books userId = some book := hbook
  have hvalid := hinv userId book hbook
  rw [ends_bind]
  refine ends_validateLocation ?_
  rw [ends_bind, ends_look]
  intro s₀ hrely
  have hcount : (((seen [] s₀).books userId).getD []).length = book.length := by
    rw [show (seen [] s₀).books userId = s.books userId from books_of_rely hrely List.mem_cons_self, hbook]
    rfl
  rw [hcount, ends_bind, ends_ensure]
  refine ⟨fun hfew => ?_, fun _ => by decide⟩
  rw [ends_bind]
  refine ends_next hbook (fun w hw => (nomatch hw)) rfl (hvalid.countP_insert rfl).le fun hids => ?_
  refine inv_of_book hbook (by simp [Write.userId]) hinv ?_
  exact ⟨hids, (List.length_append).trans_le hfew, fun _ => hvalid.countP_insert rfl⟩

theorem ends_update (hinv : Inv s) (dto : UpdateAddressDto) :
    Ends R NotDefaultIndex (fun o => Inv (seen o.writes s)) (update userId id dto) s [] [] := by
  unfold update
  rw [ends_bind]
  refine ends_lockUser fun book hbook => ?_
  have hbook : s.books userId = some book := hbook
  rw [ends_bind]
  refine ends_findAddress fun address _ => ?_
  rw [ends_bind]
  refine ends_validateLocation ?_
  rw [ends_bind, ends_ensure]
  refine ⟨fun _ => ?_, fun _ => by unfold NotDefaultIndex; simp [notNullViolation, uniqueViolation]⟩
  rw [ends_bind]
  have hvalid : Valid (Write.rows (.update userId (fun a => a.id = address.id) dto.assign) book) :=
    (hinv userId book hbook).edit (fun _ _ _ => rfl) fun _ _ _ => rfl
  exact ends_next hbook (fun w hw => (nomatch hw)) rfl hvalid.oneDefault fun _ =>
    inv_of_book hbook (by simp [Write.userId]) hinv hvalid

theorem ends_remove (hinv : Inv s) : Ends R NotDefaultIndex (fun o => Inv (seen o.writes s)) (remove userId id) s [] [] := by
  unfold remove
  rw [ends_bind]
  refine ends_lockUser fun book hbook => ?_
  have hbook : s.books userId = some book := hbook
  have hvalid := hinv userId book hbook
  rw [ends_bind]
  refine ends_findAddress fun address haddress => ?_
  rw [seen_getD hbook (by simp)] at haddress
  rw [ends_bind]
  by_cases hdefault : address.isDefault = true
  · have hnone := hvalid.countP_delete haddress hdefault
    refine ends_next hbook (fun w hw => (nomatch hw)) rfl (hnone.le.trans (Nat.zero_le 1)) fun hids => ?_
    rw [if_pos hdefault, ends_bind, ends_rowsOf, seen_getD hbook (by simp [Write.userId])]
    refine ends_bind.2 ?_
    have hvalid' : Valid (Write.rows (.update userId
        (fun a => some a.id = (((Write.delete userId address.id).rows book).map (·.id)).min?) fun a => { a with isDefault := true })
          ((Write.delete userId address.id).rows book)) := by
      cases hmin : (((Write.delete userId address.id).rows book).map (·.id)).min? with
      | none =>
        -- it was the last address
        have hnil : (Write.delete userId address.id).rows book = [] := List.map_eq_nil_iff.1 (List.min?_eq_none_iff.1 hmin)
        rw [hnil]
        exact ⟨List.nodup_nil, Nat.zero_le 5, fun h => absurd rfl h⟩
      | some x =>
        exact valid_mark hids ((List.length_filter_le _ _).trans hvalid.few) hnone (by simp) (List.min?_mem hmin)
    exact ends_next hbook (by simp [Write.userId]) rfl hvalid'.oneDefault fun _ =>
      inv_of_book hbook (by simp [Write.userId]) hinv hvalid'
  · have hvalid' : Valid ((Write.delete userId address.id).rows book) := hvalid.delete haddress (by simpa using hdefault)
    refine ends_next hbook (fun w hw => (nomatch hw)) rfl hvalid'.oneDefault fun _ => ?_
    rw [if_neg hdefault]
    exact inv_of_book hbook (by simp [Write.userId]) hinv hvalid'

theorem ends_setDefault (hinv : Inv s) : Ends R NotDefaultIndex (fun o => Inv (seen o.writes s)) (setDefault userId id) s [] [] := by
  unfold setDefault
  rw [ends_bind]
  refine ends_lockUser fun book hbook => ?_
  have hbook : s.books userId = some book := hbook
  have hvalid := hinv userId book hbook
  rw [ends_bind]
  refine ends_findAddress fun address haddress => ?_
  rw [seen_getD hbook (by simp)] at haddress
  rw [ends_bind]
  have hnone : (Write.rows (.update userId (fun _ => true) fun a => { a with isDefault := false }) book).countP (·.isDefault) = 0 := by
    refine List.countP_eq_zero.2 fun a ha => ?_
    obtain ⟨b, -, rfl⟩ := List.mem_map.1 ha
    simp
  refine ends_next hbook (fun w hw => (nomatch hw)) rfl (hnone.le.trans (Nat.zero_le 1)) fun hids => ?_
  rw [ends_bind]
  have hmem : address.id ∈ (Write.rows (.update userId (fun _ => true) fun a => { a with isDefault := false }) book).map (·.id) :=
    List.mem_map.2 ⟨_, List.mem_map.2 ⟨address, haddress, rfl⟩, rfl⟩
  have hvalid' := valid_mark hids ((List.length_map _).trans_le hvalid.few) hnone (p := fun a => a.id = address.id) (by simp) hmem
  refine ends_next hbook (by simp [Write.userId]) rfl hvalid'.oneDefault fun _ => ?_
  exact inv_of_book hbook (by simp [Write.userId]) hinv hvalid'

/-- **Every transaction keeps the address books as they should be**, and never fails at the default index. -/
theorem ends_well : System.EndsWell service Inv NotDefaultIndex := by
  intro op s hinv
  cases op with
  | create userId dto id => exact ends_bind.2 (ends_create hinv dto id)
  | update userId id dto => exact ends_bind.2 (ends_update hinv dto)
  | remove userId id => exact ends_bind.2 (ends_remove hinv)
  | setDefault userId id => exact ends_bind.2 (ends_setDefault hinv)

end Operations

/-! ## Every run -/

/-- Nobody has an address yet. -/
def NoAddresses (s : State) : Prop := ∀ userId book, s.books userId = some book → book = []

theorem inv_of_noAddresses {s : State} (h : NoAddresses s) : Inv s := by
  intro userId book hbook
  rw [h userId book hbook]
  exact ⟨List.nodup_nil, Nat.zero_le 5, fun hne => absurd rfl hne⟩

/-- No transaction of the trace failed at the default index. -/
abbrev Unhindered (τ : service.Trace) : Prop := ∀ x ∈ τ, ∀ f, x.2 = System.Event.failed f → NotDefaultIndex f.err

/-- A call that is one transaction throws what the transaction throws. -/
theorem follows_one {i : ℕ} {call : Call} {op : Op} {τ : service.Trace} :
    System.Follows Unhindered i call (fun _ _ => True) (Proc.trans op : service.Program Reply)
      (fun r _ => ∀ err, r = .error err → NotDefaultIndex err) τ := by
  intro τ' _
  refine ⟨fun s o _ => ⟨trivial, fun _ _ err h => (nomatch h), fun _ _ err h => ?_⟩, fun s e hlaw _ _ err h => ?_, fun _ _ err h => ?_⟩
  · cases h; decide
  · cases h
    exact hlaw _ (List.mem_append_right _ List.mem_cons_self) _ rfl
  · cases h; decide

/-- **In every run from empty address books** a user has at most five addresses, exactly one of them the default if there are
any, and neither a transaction nor a call fails at the index on default addresses. -/
theorem addresses_kept (e : System.Execution service NoAddresses fun _ => True) :
    (∀ s ∈ e.history, ∀ userId book, s.books userId = some book →
      book.length ≤ 5 ∧ (book ≠ [] → book.countP (·.isDefault) = 1)) ∧
    (∀ f, .failed f ∈ e.events → f.err ≠ uniqueViolation "ux_user_addresses_one_default") ∧
    ∀ call err db, .returned call (.error err) db ∈ e.events → err ≠ uniqueViolation "ux_user_addresses_one_default" := by
  obtain ⟨hinv, hfail⟩ := e.ends ends_well fun s => inv_of_noAddresses
  refine ⟨fun s hs userId book hbook => ?_, hfail, e.returned (P := NotDefaultIndex) hfail fun i call τ hτ => ?_⟩
  · have hvalid := hinv s hs userId book hbook
    exact ⟨hvalid.few, hvalid.default⟩
  · cases call with
    | create userId dto =>
      refine System.follows_bind hτ fun id τ' _ => fun τ'' _ => ?_
      exact follows_one
    | update userId id dto => exact follows_one
    | remove userId id => exact follows_one
    | setDefault userId id => exact follows_one

/-! ### Three addresses, and the first is deleted -/

def sampleState : State := ⟨fun userId => if userId = 1 then some [] else none, [(1, 1)], [(1, 1)]⟩

theorem sampleState_empty : NoAddresses sampleState := by
  intro userId book hbook
  change (if userId = 1 then some [] else none) = some book at hbook
  split at hbook
  · exact (Option.some.inj hbook).symm
  · cases hbook

/-- The user stores an address, which gets this id. -/
def stored (i : ℕ) (id : Uuid) : List (System.Cmd service) :=
  [.arrive (.create 1 ⟨"Mai", "0900000003", 1, 1, 1, "Lê Lợi"⟩), .answer i id, .go i]

def threeAddresses : System.Execution service NoAddresses fun _ => True :=
  .ofSchedule sampleState (stored 0 10 ++ stored 1 11 ++ stored 2 12 ++ [.arrive (.remove 1 (Uuid.text 10)), .go 3]) sampleState_empty
    fun _ _ => trivial

/-- Of the two that are left one is the default. -/
theorem threeAddresses_kept : ∃ book, threeAddresses.final.db.books 1 = some book ∧ book.length = 2 ∧
    book.countP (·.isDefault) = 1 := by
  have htwo : (threeAddresses.final.db.books 1).any (fun book => book.length == 2) = true := by decide +kernel
  obtain ⟨book, hbook, hlength⟩ := (Option.any_eq_true _ _).1 htwo
  have hlength := beq_iff_eq.1 hlength
  obtain ⟨-, hdefault⟩ := (addresses_kept threeAddresses).1 _ threeAddresses.final_mem_history 1 book hbook
  exact ⟨book, hbook, hlength, hdefault fun hempty => by rw [hempty] at hlength; cases hlength⟩

end Balii.Addresses
