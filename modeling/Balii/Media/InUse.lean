import Balii.Media.Owners
/-!
# InUse — an asset that something uses is kept

A row of `media_assets` names one owner, and only that owner is asked before the asset is deleted: the URL is gone from the owner's
row when the deletion is decided.  So an asset is out of use when it is destroyed if none but its owner used it, and nothing took it
up meanwhile; what was uploaded for nobody is looked for everywhere, and a removed product image asks nobody.
-/
namespace Balii.Media

open Rowdb Rowdb.Atomic List

/-- A campaign, a collection or a product image uses the URL. -/
def Referenced (s : State) (url : String) : Prop := s.users url ≠ []

/-- The operation writes the URL into a row. -/
def Op.takesUp (op : Op) (url : String) : Bool :=
  match op with
  | .insertBanners _ _ row => row.uses url
  | .updateBanners _ _ imageUrl bannerImageUrl => imageUrl == some (some url) || bannerImageUrl == some (some url)
  | .insertProductImage _ row => row.url == url
  | _ => false

/-! ## Where a URL stands -/

/-- A column of a row that can hold a URL. -/
inductive Slot
  | imageUrl (type : BannerType) (id : Uuid)
  | bannerImageUrl (type : BannerType) (id : Uuid)
  | productImage (id : Uuid)

def Slot.owner : Slot → OwnerType × Uuid
  | .imageUrl type id => (type.ownerType, id)
  | .bannerImageUrl type id => (type.ownerType, id)
  | .productImage id => (.productImage, id)

def State.urlAt (s : State) : Slot → Option String
  | .imageUrl type id => ((s.banners type).lookup id).bind Banners.imageUrl
  | .bannerImageUrl type id => ((s.banners type).lookup id).bind Banners.bannerImageUrl
  | .productImage id => (s.productImages.lookup id).map ProductImage.url

theorem of_guarded {α : Type} {c : Prop} [Decidable c] {e : Err} {x y : α} (h : (if c then .error e else .ok x : Except Err α) = .ok y) :
    ¬ c ∧ x = y := by
  split at h
  · cases h
  · rename_i hc
    exact ⟨hc, Except.ok.inj h⟩

section Slots
variable {cfg : Config} {s s' : State} {op : Op} {a : op.Res} {url : String}

theorem uses_iff {row : Banners} : row.uses url = true ↔ row.imageUrl = some url ∨ row.bannerImageUrl = some url := by
  rw [Banners.uses, Bool.or_eq_true, beq_iff_eq, beq_iff_eq]

/-- Some column of the row has the URL. -/
theorem row_uses_iff {type : BannerType} {id : Uuid} :
    (∃ row, (s.banners type).lookup id = some row ∧ row.uses url = true) ↔
      s.urlAt (.imageUrl type id) = some url ∨ s.urlAt (.bannerImageUrl type id) = some url := by
  simp only [State.urlAt, Option.bind_eq_some_iff, uses_iff]
  constructor
  · rintro ⟨row, hrow, huses | huses⟩
    · exact .inl ⟨row, hrow, huses⟩
    · exact .inr ⟨row, hrow, huses⟩
  · rintro (⟨row, hrow, huses⟩ | ⟨row, hrow, huses⟩)
    · exact ⟨row, hrow, .inl huses⟩
    · exact ⟨row, hrow, .inr huses⟩

/-- **Who uses a URL has it in a column.** -/
theorem mem_users {x : OwnerType × Uuid} : x ∈ s.users url ↔ ∃ p : Slot, p.owner = x ∧ s.urlAt p = some url := by
  have hmem : x ∈ s.users url ↔
      (∃ id, (∃ row, (s.banners .campaign).lookup id = some row ∧ row.uses url = true) ∧ (OwnerType.campaign, id) = x) ∨
      (∃ id, (∃ row, (s.banners .collection).lookup id = some row ∧ row.uses url = true) ∧ (OwnerType.collection, id) = x) ∨
      ∃ id, s.urlAt (.productImage id) = some url ∧ (OwnerType.productImage, id) = x := by
    unfold State.users
    simp only [mem_append, mem_map, Prod.exists, AList.mem_select, beq_iff_eq, State.urlAt, Option.map_eq_some_iff, exists_and_right,
      or_assoc]
  simp only [hmem, row_uses_iff]
  constructor
  · rintro (⟨id, hurl | hurl, rfl⟩ | ⟨id, hurl | hurl, rfl⟩ | ⟨id, hurl, rfl⟩)
    · exact ⟨.imageUrl .campaign id, rfl, hurl⟩
    · exact ⟨.bannerImageUrl .campaign id, rfl, hurl⟩
    · exact ⟨.imageUrl .collection id, rfl, hurl⟩
    · exact ⟨.bannerImageUrl .collection id, rfl, hurl⟩
    · exact ⟨.productImage id, rfl, hurl⟩
  · rintro ⟨⟨type, id⟩ | ⟨type, id⟩ | id, rfl, hurl⟩
    · cases type with
      | campaign => exact .inl ⟨id, .inl hurl, rfl⟩
      | collection => exact .inr (.inl ⟨id, .inl hurl, rfl⟩)
    · cases type with
      | campaign => exact .inl ⟨id, .inr hurl, rfl⟩
      | collection => exact .inr (.inl ⟨id, .inr hurl, rfl⟩)
    · exact .inr (.inr ⟨id, hurl, rfl⟩)

theorem unreferenced_iff : ¬ Referenced s url ↔ ∀ p, s.urlAt p ≠ some url := by
  unfold Referenced
  rw [not_not, eq_nil_iff_forall_not_mem]
  exact ⟨fun h p hp => h p.owner (mem_users.2 ⟨p, rfl, hp⟩), fun h x hx => (mem_users.1 hx).elim fun p hp => h p hp.2⟩

/-- The owner that an asset names uses its URL in a column of its row. -/
theorem ownerUses_of_urlAt {p : Slot} (h : s.urlAt p = some url) : s.ownerUses p.owner.1 (some p.owner.2) url = true := by
  have hbanners : ∀ {type : BannerType} {id : Uuid}, (s.urlAt (.imageUrl type id) = some url ∨ s.urlAt (.bannerImageUrl type id) = some url) →
      s.ownerUses type.ownerType (some id) url = true := by
    intro type id hurl
    obtain ⟨row, hrow, huses⟩ := row_uses_iff.2 hurl
    have hany : ((s.banners type).lookup id).any (fun row => row.uses url) = true := (Option.any_eq_true _ _).2 ⟨row, hrow, huses⟩
    cases type with
    | campaign => exact hany
    | collection => exact hany
  cases p with
  | imageUrl type id => exact hbanners (.inl h)
  | bannerImageUrl type id => exact hbanners (.inr h)
  | productImage id =>
    obtain ⟨row, hrow, rfl⟩ := Option.map_eq_some_iff.1 h
    have hany : (s.productImages.lookup id).any (fun image => image.url == row.url) = true :=
      (Option.any_eq_true _ _).2 ⟨row, hrow, beq_self_eq_true _⟩
    exact hany

/-- A campaign or collection changes as a statement writes it: what a column has, it had before or was given. -/
theorem urlAt_setBanners {type : BannerType} {t : Table Uuid Banners}
    (ht : ∀ id row, t.lookup id = some row → (row.imageUrl = some url → s.urlAt (.imageUrl type id) = some url) ∧
      (row.bannerImageUrl = some url → s.urlAt (.bannerImageUrl type id) = some url)) {p : Slot}
    (h : (s.setBanners type t).urlAt p = some url) : s.urlAt p = some url := by
  cases p with
  | imageUrl type' id =>
    by_cases htype : type' = type
    · subst htype
      obtain ⟨row, hrow, hurl⟩ := Option.bind_eq_some_iff.1 h
      simp only [State.setBanners, Function.update_self] at hrow
      exact (ht id row hrow).1 hurl
    · simpa only [State.urlAt, State.setBanners, Function.update_of_ne htype] using h
  | bannerImageUrl type' id =>
    by_cases htype : type' = type
    · subst htype
      obtain ⟨row, hrow, hurl⟩ := Option.bind_eq_some_iff.1 h
      simp only [State.setBanners, Function.update_self] at hrow
      exact (ht id row hrow).2 hurl
    · simpa only [State.urlAt, State.setBanners, Function.update_of_ne htype] using h
  | productImage id => exact h

theorem urlAt_setImages {t : Table Uuid ProductImage}
    (ht : ∀ id row, t.lookup id = some row → row.url = url → s.urlAt (.productImage id) = some url) {p : Slot}
    (h : State.urlAt { s with productImages := t } p = some url) : s.urlAt p = some url := by
  cases p with
  | imageUrl type id => exact h
  | bannerImageUrl type id => exact h
  | productImage id =>
    obtain ⟨row, hrow, hurl⟩ := Option.map_eq_some_iff.1 h
    exact ht id row hrow hurl

/-- **A URL comes into a column only by an operation that writes it.** -/
theorem urlAt_perform (h : perform cfg op s = .ok (a, s')) (htakes : op.takesUp url = false) {p : Slot}
    (hp : s'.urlAt p = some url) : s.urlAt p = some url := by
  have hold : ∀ {type : BannerType} {id : Uuid} {row : Banners}, (s.banners type).lookup id = some row →
      (row.imageUrl = some url → s.urlAt (.imageUrl type id) = some url) ∧
        (row.bannerImageUrl = some url → s.urlAt (.bannerImageUrl type id) = some url) :=
    fun hrow => ⟨fun hurl => Option.bind_eq_some_iff.2 ⟨_, hrow, hurl⟩, fun hurl => Option.bind_eq_some_iff.2 ⟨_, hrow, hurl⟩⟩
  have himage : ∀ {id : Uuid} {row : ProductImage}, s.productImages.lookup id = some row → row.url = url →
      s.urlAt (.productImage id) = some url := fun hrow hurl => Option.map_eq_some_iff.2 ⟨_, hrow, hurl⟩
  cases op with
  | insertBanners type id row =>
    obtain ⟨-, h⟩ := of_guarded h
    cases h
    refine urlAt_setBanners (fun id' row' hrow => ?_) hp
    by_cases hid : id' = id
    · subst hid
      rw [AList.lookup_insert] at hrow
      cases hrow
      have hnot := fun huses => Bool.false_ne_true (htakes.symm.trans (uses_iff.2 huses))
      exact ⟨fun hurl => absurd (.inl hurl) hnot, fun hurl => absurd (.inr hurl) hnot⟩
    · rw [AList.lookup_insert_ne hid] at hrow
      exact hold hrow
  | updateBanners type id imageUrl bannerImageUrl =>
    cases h
    refine urlAt_setBanners (fun id' row' hrow => ?_) hp
    rw [AList.lookup_modify] at hrow
    split at hrow
    · obtain ⟨old, hbefore, rfl⟩ := Option.map_eq_some_iff.1 hrow
      simp only [Op.takesUp, Bool.or_eq_false_iff, beq_eq_false_iff_ne] at htakes
      constructor
      · cases imageUrl with
        | none => exact (hold hbefore).1
        | some new => exact fun heq => absurd (congrArg some heq) htakes.1
      · cases bannerImageUrl with
        | none => exact (hold hbefore).2
        | some new => exact fun heq => absurd (congrArg some heq) htakes.2
    · exact hold hrow
  | deleteBanners type id =>
    cases h
    refine urlAt_setBanners (fun id' row' hrow => ?_) hp
    rw [AList.lookup_erase_eq] at hrow
    split at hrow
    · cases hrow
    · exact hold hrow
  | insertProductImage id row =>
    obtain ⟨-, h⟩ := of_guarded h
    cases h
    refine urlAt_setImages (fun id' row' hrow hurl => ?_) hp
    by_cases hid : id' = id
    · subst hid
      rw [AList.lookup_insert] at hrow
      cases hrow
      exact absurd hurl (ne_of_beq_false htakes)
    · rw [AList.lookup_insert_ne hid] at hrow
      exact himage hrow hurl
  | deleteProductImage id publicId =>
    cases h
    refine urlAt_setImages (fun id' row' hrow hurl => ?_) hp
    rw [AList.lookup_erase_eq] at hrow
    split at hrow
    · cases hrow
    · exact himage hrow hurl
  | registerAsset publicId url' =>
    obtain ⟨-, h⟩ := of_guarded h
    cases h
    exact hp
  | saveProductImage id =>
    obtain ⟨-, h⟩ := of_guarded h
    cases h
    exact hp
  | _ =>
    cases h
    exact hp

end Slots

/-! ## What is pending -/

section Pending
variable {cfg : Config} {s s' : State} {op : Op} {a : op.Res} {publicId url : String}

theorem lookup_foldl_modify {f : String → MediaAsset → MediaAsset} {k : String} : ∀ {l : List (String × MediaAsset)}
    {t : Table String MediaAsset}, (l.map Prod.fst).Nodup →
      (l.foldl (fun t x => t.modify x.1 (f x.1)) t).lookup k = if k ∈ l.map Prod.fst then (t.lookup k).map (f k) else t.lookup k
  | [], t, _ => by simp
  | x :: l, t, h => by
    obtain ⟨hx, hl⟩ := nodup_cons.1 h
    rw [foldl_cons, lookup_foldl_modify hl, AList.lookup_modify]
    by_cases hk : k = x.1
    · subst hk
      rw [if_neg hx, if_pos rfl, if_pos (by simp)]
    · rw [if_neg hk]
      exact if_congr (by simp [hk]) rfl rfl

/-- **What an `UPDATE` with a `WHERE` leaves of a row.** -/
theorem lookup_updateWhere {t : Table String MediaAsset} {p : String → MediaAsset → Bool} {f : String → MediaAsset → MediaAsset}
    {k : String} : (updateWhere t p f).lookup k = (t.lookup k).map fun a => if p k a then f k a else a := by
  unfold updateWhere
  rw [lookup_foldl_modify (AList.nodup_keys_select t p)]
  cases hk : t.lookup k with
  | none => simp
  | some a =>
    have hmem : k ∈ (t.select p).map Prod.fst ↔ p k a = true := by
      simp [AList.mem_select, hk]
    by_cases hp : p k a = true
    · rw [if_pos (hmem.2 hp), Option.map_some, Option.map_some, if_pos hp]
    · rw [if_neg fun h => hp (hmem.1 h), Option.map_some, if_neg hp]

/-- An `UPDATE` that makes nothing pending. -/
theorem pending_updateWhere {t : Table String MediaAsset} {p : String → MediaAsset → Bool} {f : String → MediaAsset → MediaAsset}
    (hf : ∀ k a, p k a = true → (f k a).status ≠ .pending ∨ f k a = a) {k : String} {a : MediaAsset}
    (h : (updateWhere t p f).lookup k = some a) (hpend : a.status = .pending) : t.lookup k = some a := by
  rw [lookup_updateWhere] at h
  obtain ⟨old, hold, rfl⟩ := Option.map_eq_some_iff.1 h
  split at hpend
  · rename_i hp
    rcases hf k old hp with hnot | hsame
    · exact absurd hpend hnot
    · rw [if_pos hp, hsame]
      exact hold
  · rename_i hp
    rw [if_neg hp]
    exact hold

/-- **An asset comes to be pending only by its registration.** -/
theorem pending_perform (h : perform cfg op s = .ok (a, s')) (hreg : ∀ url', op ≠ .registerAsset publicId url') {x : MediaAsset}
    (hx : s'.assets.lookup publicId = some x) (hpend : x.status = .pending) : s.assets.lookup publicId = some x := by
  have hmarked : ∀ (_ : String) (y : MediaAsset), (y.marked s.now).status ≠ .pending ∨ y.marked s.now = y := fun _ _ => .inl fun h => (nomatch h)
  have hattached : ∀ {owner : OwnerType × Uuid} (y : MediaAsset), (y.attachedTo s.now owner).status ≠ .pending :=
    fun _ h => (nomatch h)
  cases op with
  | registerAsset id url' =>
    obtain ⟨-, h⟩ := of_guarded h
    cases h
    rwa [AList.lookup_insert_ne fun hid => hreg url' (by rw [hid])] at hx
  | syncOwnerAssets ownerType ownerId urls unseen =>
    cases h
    have hfirst := pending_updateWhere (fun _ y _ => .inl (hattached y)) hx hpend
    exact pending_updateWhere (fun k y _ => hmarked k y) hfirst hpend
  | releaseOwnerAssets ownerType ownerId =>
    cases h
    exact pending_updateWhere (fun k y _ => hmarked k y) hx hpend
  | attachReferenced pick =>
    cases h
    refine pending_updateWhere (fun k y _ => ?_) hx hpend
    split
    · exact .inl (hattached y)
    · exact .inr rfl
  | markForCleanup acquired =>
    cases h
    exact pending_updateWhere (fun k y _ => hmarked k y) hx hpend
  | deleteAsset id =>
    cases h
    rw [AList.lookup_erase_eq] at hx
    split at hx
    · cases hx
    · exact hx
  | insertBanners type id row =>
    obtain ⟨-, h⟩ := of_guarded h
    cases h
    exact hx
  | insertProductImage id row =>
    obtain ⟨-, h⟩ := of_guarded h
    cases h
    exact hx
  | saveProductImage id =>
    obtain ⟨-, h⟩ := of_guarded h
    cases h
    exact hx
  | _ =>
    cases h
    exact hx

/-- **The cleanup attaches what something uses**, so what stays pending nothing uses. -/
theorem unused_of_attach {pick : List (String × OwnerType × Uuid)} {r : Unit} (h : perform cfg (.attachReferenced pick) s = .ok (r, s'))
    {x : MediaAsset} (hx : s'.assets.lookup publicId = some x) (hpend : x.status = .pending) : ¬ Referenced s' x.url := by
  cases h
  rw [lookup_updateWhere] at hx
  obtain ⟨old, hold, rfl⟩ := Option.map_eq_some_iff.1 hx
  split at hpend
  · rename_i hp
    rw [if_pos hp]
    rw [Bool.and_eq_true, Bool.not_eq_true', isEmpty_eq_false_iff] at hp
    obtain ⟨owner, hfirst⟩ : ∃ owner, (s.users old.url).head? = some owner := by
      cases husers : s.users old.url with
      | nil => exact absurd husers hp.2
      | cons owner rest => exact ⟨owner, rfl⟩
    rw [hfirst] at hpend
    cases hpicked : (pick.lookup publicId).filter (s.users old.url).contains with
    | none =>
      rw [hpicked] at hpend
      cases hpend
    | some owner' =>
      rw [hpicked] at hpend
      cases hpend
  · rename_i hp
    rw [if_neg hp]
    rw [if_neg hp] at hx
    intro hused
    refine hp ?_
    rw [Bool.and_eq_true, beq_iff_eq, Bool.not_eq_true', isEmpty_eq_false_iff]
    exact ⟨hpend, hused⟩

end Pending

/-! ## Runs -/

section Runs
variable {cfg : Config}

/-- **An asset in use is kept**: when one is destroyed at the provider, nothing uses its URL. -/
def InUseKept (r : (media cfg).Run fun _ => True) : Prop :=
  ∀ n i call publicId b url, Does r.trace n i call (.destroy publicId) b → (r.state n).provider.lookup publicId = some url →
    ¬ Referenced (r.state n) url

/-- The session decides at `m`, by `op`, to delete the asset that it destroys at `n`, under the URL. -/
structure Deletes (r : (media cfg).Run fun _ => True) (i m n : ℕ) (op : Op) (b : State) (publicId url : String) : Prop where
  before : m < n
  decides : ∃ call, Does r.trace m i call op b
  chosen : publicId ∈ op.chosen cfg b
  destroys : ∃ call b', Does r.trace n i call (.destroy publicId) b'
  under : (r.state n).provider.lookup publicId = some url

/-- None but the owner that the asset's row names uses its URL. -/
def OwnerAlone (s : State) (a : MediaAsset) : Prop := ∀ x ∈ s.users a.url, a.ownedBy x.1 x.2 = true

/-- **Nobody uses the asset but who is asked** when its deletion is decided: by the owner of its row, by the product image that is
removed, by nobody if it is new or has been given up already.  The cleanup itself looks for everybody who uses what is pending. -/
def Op.AsksAll (op : Op) (s : State) (publicId url : String) : Prop :=
  match op with
  | .upload .. => ¬ Referenced s url
  | .deleteProductImage id _ => ∀ x ∈ s.users url, x = (.productImage, id)
  | .markForCleanup _ => ∃ a, s.assets.lookup publicId = some a ∧ a.url = url ∧
      match a.status with
      | .pending => True
      | .attached => OwnerAlone s a
      | .pendingDelete => ¬ Referenced s url
  | _ => ∃ a, s.assets.lookup publicId = some a ∧ a.url = url ∧ url ≠ "" ∧ OwnerAlone s a

/-- The operation takes the URL up, or registers an asset anew that is being cleaned up. -/
def Op.disturbs (op decided : Op) (publicId url : String) : Bool :=
  match decided, op with
  | .markForCleanup _, .registerAsset id _ => id == publicId
  | _, _ => op.takesUp url

/-- **Deletions ask everybody who uses the asset, and nothing takes it up** while the call is on its way to destroy it. -/
structure OutOfUse (r : (media cfg).Run fun _ => True) : Prop where
  asked : ∀ {i m n op b publicId url}, Deletes r i m n op b publicId url → op.AsksAll b publicId url
  undisturbed : ∀ {i m n op b publicId url}, Deletes r i m n op b publicId url →
    ∀ {k j call op' b'}, (∃ k₀ ≤ k, ∃ call₀ op₀ b₀, Does r.trace k₀ i call₀ op₀ b₀) → k < n → Does r.trace k j call op' b' →
      op'.disturbs op publicId url = false

theorem takesUp_of_undisturbed {op decided : Op} {publicId url : String} (h : op.disturbs decided publicId url = false) :
    op.takesUp url = false := by
  unfold Op.disturbs at h
  split at h
  · rfl
  · exact h

variable {r : (media cfg).Run fun _ => True} {i m n : ℕ} {call : Call} {l : List (Act (media cfg))} {publicId url : String}

theorem does_perform {op : Op} {b : State} (h : Does r.trace m i call op b) :
    b = r.state m ∧ ∃ a, perform cfg op b = .ok (a, r.state (m + 1)) :=
  h.at r.lawful

theorem does_of {y : Act (media cfg)} {op : Op} (hl : LoggedTo r.trace m i call l) (hy : y ∈ l) (hop : y.op = op) :
    Does r.trace y.place i call op y.before :=
  hop ▸ hl.does hy

theorem slots_of_owner {p : Slot} {type : BannerType} {id : Uuid} (h : p.owner = (type.ownerType, id)) :
    p = .imageUrl type id ∨ p = .bannerImageUrl type id := by
  cases p with
  | imageUrl type' id' =>
    obtain ⟨htype, rfl⟩ := Prod.mk.inj h
    cases type <;> cases type' <;> first | exact .inl rfl | cases htype
  | bannerImageUrl type' id' =>
    obtain ⟨htype, rfl⟩ := Prod.mk.inj h
    cases type <;> cases type' <;> first | exact .inr rfl | cases htype
  | productImage id' =>
    obtain ⟨htype, _⟩ := Prod.mk.inj h
    cases type <;> cases htype

theorem slot_of_image {p : Slot} {id : Uuid} (h : p.owner = (.productImage, id)) : p = .productImage id := by
  cases p with
  | imageUrl type id' => cases type <;> cases (Prod.mk.inj h).1
  | bannerImageUrl type id' => cases type <;> cases (Prod.mk.inj h).1
  | productImage id' => rw [(Prod.mk.inj h).2]

/-- What is not in a column stays out of it as long as nothing takes the URL up. -/
theorem absent_until (hmn : m ≤ n)
    (hquiet : ∀ k j call op b, m ≤ k → k < n → Does r.trace k j call op b → op.takesUp url = false) {p : Slot}
    (h : (r.state m).urlAt p ≠ some url) : (r.state n).urlAt p ≠ some url :=
  keeps_between (P := fun s : State => s.urlAt p ≠ some url) r.lawful hmn
    (fun k j call' op b _ _ hk hkn hdoes hperf hb hp => hb (urlAt_perform hperf (hquiet k j call' op b hk hkn hdoes) hp)) h

theorem unused_of_stale {row : Banners} (hurl : url ≠ "") (h : (activeUrls [row.imageUrl, row.bannerImageUrl]).contains url = false) :
    row.imageUrl ≠ some url ∧ row.bannerImageUrl ≠ some url := by
  have hnot : ∀ {x : Option String}, x ∈ [row.imageUrl, row.bannerImageUrl] → x ≠ some url := by
    rintro x hx rfl
    have hmem : url ∈ activeUrls [row.imageUrl, row.bannerImageUrl] :=
      mem_eraseDups.2 (mem_filterMap.2 ⟨some url, hx, by simp [hurl]⟩)
    rw [contains_eq_mem, decide_eq_false_iff_not] at h
    exact h hmem
  exact ⟨hnot mem_cons_self, hnot (mem_cons_of_mem _ mem_cons_self)⟩

/-- **What has been written to the row stays in it**: after its call has saved it, the row does not have the URL. -/
theorem absent_of_written {type : BannerType} {id : Uuid} {row : Banners} (hl : LoggedTo r.trace m i call l)
    (hwritten : Written l type id row) (hrow : row.imageUrl ≠ some url ∧ row.bannerImageUrl ≠ some url)
    (hquiet : ∀ y ∈ l, ∀ k j call' op b, y.place ≤ k → k < m → Does r.trace k j call' op b → op.takesUp url = false) :
    (r.state m).urlAt (.imageUrl type id) ≠ some url ∧ (r.state m).urlAt (.bannerImageUrl type id) ≠ some url := by
  have hfrom : ∀ {y : Act (media cfg)} {p : Slot}, y ∈ l → y.before.urlAt p ≠ some url → (r.state m).urlAt p ≠ some url := by
    intro y p hy hp
    refine absent_until (hl.lt y hy).le (hquiet y hy) ?_
    rwa [(does_perform (hl.does hy)).1] at hp
  have hafter : ∀ {y : Act (media cfg)} {p : Slot}, y ∈ l → (r.state (y.place + 1)).urlAt p ≠ some url → (r.state m).urlAt p ≠ some url :=
    fun {y} {p} hy hp => absent_until (Nat.succ_le_of_lt (hl.lt y hy)) (fun k j call' op b hk => hquiet y hy k j call' op b (by omega)) hp
  rcases hwritten with @⟨y, hy, hop⟩ | @⟨y, z, old, hy, hz, _, hold, hwrite⟩
  · obtain ⟨_, _, hperf⟩ := does_perform (does_of hl hy hop)
    obtain ⟨_, hnext⟩ := of_guarded hperf
    have hthere : ((r.state (y.place + 1)).banners type).lookup id = some row := by
      rw [← (Prod.mk.inj hnext).2]
      simp [State.setBanners]
    constructor
    · refine hafter hy ?_
      rw [State.urlAt, hthere]
      exact hrow.1
    · refine hafter hy ?_
      rw [State.urlAt, hthere]
      exact hrow.2
  · obtain ⟨_, _, hperf⟩ := does_perform (does_of hl hz hwrite)
    have hthere : ((r.state (z.place + 1)).banners type).lookup id = ((z.before.banners type).lookup id).map fun x =>
        ⟨(changed old.imageUrl row.imageUrl).getD x.imageUrl, (changed old.bannerImageUrl row.bannerImageUrl).getD x.bannerImageUrl⟩ := by
      rw [← (Prod.mk.inj (Except.ok.inj hperf)).2]
      simp [State.setBanners]
    constructor
    · by_cases hsame : old.imageUrl = row.imageUrl
      · refine hfrom hy ?_
        rw [State.urlAt, hold]
        exact fun h => hrow.1 (hsame.symm.trans h)
      · refine hafter hz ?_
        rw [State.urlAt, hthere, changed, if_neg hsame]
        cases hz : (z.before.banners type).lookup id with
        | none => exact fun h => nomatch h
        | some x => exact hrow.1
    · by_cases hsame : old.bannerImageUrl = row.bannerImageUrl
      · refine hfrom hy ?_
        rw [State.urlAt, hold]
        exact fun h => hrow.2 (hsame.symm.trans h)
      · refine hafter hz ?_
        rw [State.urlAt, hthere, show changed old.bannerImageUrl row.bannerImageUrl = some row.bannerImageUrl from if_neg hsame]
        cases hz : (z.before.banners type).lookup id with
        | none => exact fun h => nomatch h
        | some x => exact hrow.2

/-- Since the call has begun nothing has disturbed what it is about to decide. -/
def Quiet (r : (media cfg).Run fun _ => True) (m : ℕ) (l : List (Act (media cfg))) (op : Op) (publicId url : String) : Prop :=
  ∀ y ∈ l, ∀ k j call' op' b', y.place ≤ k → k < m → Does r.trace k j call' op' b' → op'.disturbs op publicId url = false

theorem Quiet.takesUp {op : Op} (h : Quiet r m l op publicId url) {y : Act (media cfg)} (hy : y ∈ l) {k j : ℕ} {call' : Call} {op' : Op}
    {b' : State} (hk : y.place ≤ k) (hkm : k < m) (hdoes : Does r.trace k j call' op' b') : op'.takesUp url = false :=
  takesUp_of_undisturbed (h y hy k j call' op' b' hk hkm hdoes)

theorem Quiet.absent {op : Op} (h : Quiet r m l op publicId url) (hl : LoggedTo r.trace m i call l) {y : Act (media cfg)} (hy : y ∈ l)
    {p : Slot} (hp : (r.state (y.place + 1)).urlAt p ≠ some url) : (r.state m).urlAt p ≠ some url :=
  absent_until (Nat.succ_le_of_lt (hl.lt y hy)) (fun _ _ _ _ _ hk hkm hdoes => h.takesUp hy (Nat.le_of_succ_le hk) hkm hdoes) hp

theorem owner_of_alone {s : State} {a : MediaAsset} {ownerType : OwnerType} {ownerId : Uuid} (halone : OwnerAlone s a)
    (howned : a.ownedBy ownerType ownerId = true) {p : Slot} (hp : s.urlAt p = some a.url) : p.owner = (ownerType, ownerId) := by
  have howner := halone _ (mem_users.2 ⟨p, rfl, hp⟩)
  rw [MediaAsset.ownedBy, Bool.and_eq_true, beq_iff_eq, beq_iff_eq] at howned howner
  rw [howned.1, howned.2] at howner
  exact Prod.ext (Option.some.inj howner.1).symm (Option.some.inj howner.2).symm

/-- **An owner's assets are brought in line after its row.** -/
theorem absent_when_synced {ownerType : OwnerType} {ownerId : Uuid} {urls : List (Option String)} {unseen : List String}
    (hl : LoggedTo r.trace m i call l) (hallowed : Allowed cfg l (.syncOwnerAssets ownerType ownerId urls unseen) (r.state m))
    (hchosen : publicId ∈ Op.chosen cfg (.syncOwnerAssets ownerType ownerId urls unseen) (r.state m))
    (hasks : Op.AsksAll (.syncOwnerAssets ownerType ownerId urls unseen) (r.state m) publicId url)
    (hquiet : Quiet r m l (.syncOwnerAssets ownerType ownerId urls unseen) publicId url) (p : Slot) :
    (r.state m).urlAt p ≠ some url := by
  obtain ⟨⟨_, a⟩, ha, rfl⟩ := mem_map.1 hchosen
  obtain ⟨ha, hstale⟩ := AList.mem_select.1 ha
  obtain ⟨a', ha', rfl, hurl, halone⟩ := hasks
  obtain rfl := Option.some.inj (ha'.symm.trans ha)
  simp only [staleFor, Bool.and_eq_true, Bool.not_eq_true'] at hstale
  obtain ⟨⟨⟨howned, _⟩, hnot⟩, _⟩ := hstale
  intro hp
  have hslot := owner_of_alone halone howned hp
  rcases hallowed with ⟨type, row, rfl, rfl, hwritten⟩ | ⟨rfl, y, hy, hop⟩
  · obtain ⟨himage, hbanner⟩ := absent_of_written hl hwritten (unused_of_stale hurl hnot)
      fun y hy _ _ _ _ _ hk hkm hdoes => hquiet.takesUp hy hk hkm hdoes
    rcases slots_of_owner hslot with rfl | rfl
    · exact himage hp
    · exact hbanner hp
  · -- the new product image is not there yet
    obtain rfl := slot_of_image hslot
    obtain ⟨_, _, hsaved⟩ := does_perform (does_of hl hy hop)
    obtain ⟨hfree, hsame⟩ := of_guarded hsaved
    refine hquiet.absent hl hy ?_ hp
    rw [← (Prod.mk.inj hsame).2, State.urlAt, Option.not_isSome_iff_eq_none.1 hfree]
    exact fun h => nomatch h

/-- **They are released after its row is gone.** -/
theorem absent_when_released {ownerType : OwnerType} {ownerId : Uuid} (hl : LoggedTo r.trace m i call l)
    (hallowed : Allowed cfg l (.releaseOwnerAssets ownerType ownerId) (r.state m))
    (hchosen : publicId ∈ Op.chosen cfg (.releaseOwnerAssets ownerType ownerId) (r.state m))
    (hasks : Op.AsksAll (.releaseOwnerAssets ownerType ownerId) (r.state m) publicId url)
    (hquiet : Quiet r m l (.releaseOwnerAssets ownerType ownerId) publicId url) (p : Slot) : (r.state m).urlAt p ≠ some url := by
  obtain ⟨⟨_, a⟩, ha, rfl⟩ := mem_map.1 hchosen
  obtain ⟨ha, howned⟩ := AList.mem_select.1 ha
  obtain ⟨a', ha', rfl, _, halone⟩ := hasks
  obtain rfl := Option.some.inj (ha'.symm.trans ha)
  obtain ⟨type, rfl, y, hy, hop⟩ := hallowed
  obtain ⟨_, _, hdeleted⟩ := does_perform (does_of hl hy hop)
  have hgone : ((r.state (y.place + 1)).banners type).lookup ownerId = none := by
    rw [← (Prod.mk.inj (Except.ok.inj hdeleted)).2]
    simp [State.setBanners]
  intro hp
  refine hquiet.absent hl hy ?_ hp
  rcases slots_of_owner (owner_of_alone halone howned hp) with rfl | rfl
  · rw [State.urlAt, hgone]
    exact fun h => nomatch h
  · rw [State.urlAt, hgone]
    exact fun h => nomatch h

/-- **The cleanup looks for everybody, or for the owner.** -/
theorem absent_when_cleaned {acquired : Bool} (hl : LoggedTo r.trace m i call l)
    (hallowed : Allowed cfg l (.markForCleanup acquired) (r.state m))
    (hchosen : publicId ∈ Op.chosen cfg (.markForCleanup acquired) (r.state m))
    (hasks : Op.AsksAll (.markForCleanup acquired) (r.state m) publicId url)
    (hquiet : Quiet r m l (.markForCleanup acquired) publicId url) (p : Slot) : (r.state m).urlAt p ≠ some url := by
  have hmem : publicId ∈ ((r.state m).assets.select fun _ a => forCleanup cfg (r.state m) a).map Prod.fst := by
    cases acquired with
    | true => exact hchosen
    | false => cases hchosen
  obtain ⟨⟨id, a⟩, ha, rfl⟩ := mem_map.1 hmem
  obtain ⟨ha, hcleanup⟩ := AList.mem_select.1 ha
  obtain ⟨a', ha', rfl, hstatus⟩ := hasks
  obtain rfl := Option.some.inj (ha'.symm.trans ha)
  cases hs : a'.status with
  | pending =>
    -- since the cleanup has attached what is used, what is pending under the URL is pending all the time, and in no column
    obtain ⟨pick, y, hy, hop⟩ := hallowed
    obtain ⟨_, _, hattach⟩ := does_perform (does_of hl hy hop)
    have hpending := keeps_between (P := fun s : State => ∀ x, s.assets.lookup id = some x → x.status = .pending → x.url = a'.url →
        s.urlAt p ≠ some a'.url) r.lawful (Nat.succ_le_of_lt (hl.lt y hy)) ?_ ?_
    · exact hpending a' ha hs rfl
    · intro k j call' op b _ b' hk hkm hdoes hperf hb x hx hpend hurl hp
      have hquiet' := hquiet y hy k j call' op b (Nat.le_of_succ_le hk) hkm hdoes
      have hbefore := pending_perform hperf (fun url' hop => ?_) hx hpend
      · exact hb x hbefore hpend hurl (urlAt_perform hperf (takesUp_of_undisturbed hquiet') hp)
      · subst hop
        exact (ne_of_beq_false hquiet') rfl
    · intro x hx hpend hurl
      exact hurl ▸ unreferenced_iff.1 (unused_of_attach hattach hx hpend) p
  | attached =>
    rw [hs] at hstatus
    simp only [forCleanup, hs, Bool.or_eq_true, Bool.and_eq_true, beq_iff_eq, reduceCtorEq, false_and, false_or, true_and] at hcleanup
    obtain ⟨type, htype, hnot⟩ := (Option.any_eq_true _ _).1 hcleanup.2
    intro hp
    have howned := hstatus _ (mem_users.2 ⟨p, rfl, hp⟩)
    rw [MediaAsset.ownedBy, Bool.and_eq_true, beq_iff_eq, beq_iff_eq, htype] at howned
    have huses := ownerUses_of_urlAt hp
    rw [← Option.some.inj howned.1, ← howned.2] at huses
    rw [huses] at hnot
    cases hnot
  | pendingDelete =>
    rw [hs] at hstatus
    exact unreferenced_iff.1 hstatus p

/-- **A URL whose owner is alone in using it is in no column** once its deletion is decided. -/
theorem absent_when_decided {op : Op} (hl : LoggedTo r.trace m i call l) (hallowed : Allowed cfg l op (r.state m))
    (hdoes : Does r.trace m i call op (r.state m)) (hchosen : publicId ∈ op.chosen cfg (r.state m))
    (hasks : op.AsksAll (r.state m) publicId url) (hquiet : Quiet r m l op publicId url) (hself : op.takesUp url = false) (p : Slot) :
    (r.state (m + 1)).urlAt p ≠ some url := by
  obtain ⟨_, _, hperf⟩ := does_perform hdoes
  intro hp
  have hold : (r.state m).urlAt p = some url := urlAt_perform hperf hself hp
  cases op with
  | upload id url' => exact unreferenced_iff.1 hasks p hold
  | deleteProductImage id image =>
    obtain rfl := slot_of_image (hasks _ (mem_users.2 ⟨p, rfl, hold⟩))
    obtain ⟨row, hrow, _⟩ := Option.map_eq_some_iff.1 hp
    rw [← (Prod.mk.inj (Except.ok.inj hperf)).2] at hrow
    simp at hrow
  | syncOwnerAssets ownerType ownerId urls unseen => exact absent_when_synced hl hallowed hchosen hasks hquiet p hold
  | releaseOwnerAssets ownerType ownerId => exact absent_when_released hl hallowed hchosen hasks hquiet p hold
  | markForCleanup acquired => exact absent_when_cleaned hl hallowed hchosen hasks hquiet p hold
  | _ => cases hchosen

/-- **No asset in use is deleted** in a run whose deletions ask everybody who uses the asset, and are not disturbed. -/
theorem inUse_kept (r : (media cfg).Run fun _ => True) (h : OutOfUse r) : InUseKept r := by
  intro n i call publicId b url hdoes hurl
  have hlogs := (meets_all r.traced fun call => proc_logs call).1
  obtain ⟨l, hl, x, hx, hchosen⟩ := hlogs _ _ _ _ _ hdoes
  have hdecides := hl.does hx
  have hbefore : x.before = r.state x.place := (does_perform hdecides).1
  have hdeletes : Deletes r i x.place n x.op x.before publicId url := ⟨hl.lt x hx, ⟨_, hdecides⟩, hchosen, ⟨_, _, hdoes⟩, hurl⟩
  have hcalm : ∀ {y : Act (media cfg)}, Does r.trace y.place i call y.op y.before → ∀ {k j call' op b}, y.place ≤ k → k < n →
      Does r.trace k j call' op b → op.disturbs x.op publicId url = false :=
    fun hy _ _ _ _ _ hk hkn hdoes' => h.undisturbed hdeletes ⟨_, hk, _, _, _, hy⟩ hkn hdoes'
  obtain ⟨l', hl', hallowed⟩ := hlogs _ _ _ _ _ hdecides
  have hasks := h.asked hdeletes
  rw [hbefore] at hdecides hchosen hallowed hasks
  refine unreferenced_iff.2 fun p => absent_until (Nat.succ_le_of_lt (hl.lt x hx)) ?_
    (absent_when_decided hl' hallowed hdecides hchosen hasks ?_ ?_ p)
  · exact fun k j call' op b hk hkn hdoes' => takesUp_of_undisturbed (hcalm (hl.does hx) (Nat.le_of_succ_le hk) hkn hdoes')
  · exact fun y hy k j call' op b hk hkm hdoes' => hcalm (hl'.does hy) hk (hkm.trans (hl.lt x hx)) hdoes'
  · exact takesUp_of_undisturbed (hcalm (hl.does hx) le_rfl (hl.lt x hx) (hl.does hx))

end Runs

/-! ## A picture replaced, and an image removed that a campaign shows -/

def sampleConfig : Config where
  mediaPendingTtlHours := none
  returning := .rows

/-- A campaign with a picture of its own, and one that shows the picture of a product. -/
def twoPictures : State where
  assets := ((∅ : Table String MediaAsset).insert "sale" ⟨"https://res/sale.jpg", .attached, some .campaign, some 1, 0, 0⟩).insert "shirt"
    ⟨"https://res/shirt.jpg", .attached, some .productImage, some 3, 0, 0⟩
  banners := fun type =>
    match type with
    | .campaign => ((∅ : Table Uuid Banners).insert 1 ⟨some "https://res/sale.jpg", none⟩).insert 2 ⟨some "https://res/shirt.jpg", none⟩
    | .collection => ∅
  productImages := (∅ : Table Uuid ProductImage).insert 3 ⟨"https://res/shirt.jpg", some "shirt"⟩
  provider := ((∅ : Table String String).insert "sale" "https://res/sale.jpg").insert "shirt" "https://res/shirt.jpg"
  now := 0

/-- The first campaign gets another picture. -/
def pictureReplaced : (media sampleConfig).Run fun _ => True :=
  .ofSchedule twoPictures
    [.arrive (.update .campaign 1 ⟨some (some "https://res/summer.jpg"), none⟩), .go 0, .go 0, .go 0, .go 0,
      .answer 0 ⟨"", "", 0, [], [], true⟩, .go 0, .go 0, .go 0, .go 0] trivial

/-- What is done at the places of the update: nothing takes the old picture up again. -/
def replacedAt (k : ℕ) (op : Op) : Bool :=
  !op.takesUp "https://res/sale.jpg" &&
    match op with
    | .destroy publicId => k == 4 && publicId == "sale"
    | .syncOwnerAssets .. => k == 3
    | .findBanners .. => true
    | .updateBanners .. => true
    | .deleteAsset _ => true
    | _ => false

/-- Nobody else uses the old one, and it goes. -/
theorem pictureReplaced_kept : InUseKept pictureReplaced ∧ (pictureReplaced.state 5).provider.lookup "sale" = none := by
  have hplaces : ∀ {k j call op b}, Does pictureReplaced.trace k j call op b → replacedAt k op = true :=
    fun hdoes => forall_does (p := fun k _ _ op => replacedAt k op) (by decide) hdoes
  -- the only deletion is decided by the `syncOwnerAssets`
  have honly : ∀ {i m n op b publicId url}, Deletes pictureReplaced i m n op b publicId url →
      (∃ ownerType ownerId urls unseen, op = .syncOwnerAssets ownerType ownerId urls unseen) ∧ b = pictureReplaced.state 3 ∧
        publicId = "sale" ∧ url = "https://res/sale.jpg" := by
    rintro i m n op b publicId url ⟨_, ⟨_, hdecides⟩, hchosen, ⟨_, _, hdestroys⟩, hurl⟩
    have hdestroy := (Bool.and_eq_true_iff.1 (hplaces hdestroys)).2
    rw [Bool.and_eq_true, beq_iff_eq, beq_iff_eq] at hdestroy
    obtain ⟨rfl, rfl⟩ := hdestroy
    have hthere : (pictureReplaced.state 4).provider.lookup "sale" = some "https://res/sale.jpg" := by decide
    have hsync := (Bool.and_eq_true_iff.1 (hplaces hdecides)).2
    cases op with
    | syncOwnerAssets ownerType ownerId urls unseen =>
      obtain rfl := eq_of_beq hsync
      exact ⟨⟨_, _, _, _, rfl⟩, (does_perform hdecides).1, rfl, Option.some.inj (hurl.symm.trans hthere)⟩
    | destroy publicId => cases hchosen
    | findBanners type id => cases hchosen
    | updateBanners type id imageUrl bannerImageUrl => cases hchosen
    | deleteAsset publicId => cases hchosen
    | _ => cases hsync
  refine ⟨inUse_kept _ ⟨fun hdeletes => ?_, fun hdeletes k j call' op' b' _ _ hdoes => ?_⟩, by decide⟩
  · obtain ⟨⟨_, _, _, _, rfl⟩, rfl, rfl, rfl⟩ := honly hdeletes
    have hrow : (pictureReplaced.state 3).assets.lookup "sale" = some ⟨"https://res/sale.jpg", .attached, some .campaign, some 1, 0, 0⟩ := by
      decide
    have hnobody : (pictureReplaced.state 3).users "https://res/sale.jpg" = [] := by decide
    refine ⟨_, hrow, rfl, by decide, fun x hx => ?_⟩
    rw [hnobody] at hx
    cases hx
  · obtain ⟨⟨_, _, _, _, rfl⟩, _, _, rfl⟩ := honly hdeletes
    exact (Bool.not_eq_true' _).mp (Bool.and_eq_true_iff.1 (hplaces hdoes)).1

/-- The image of the product is removed. -/
def imageRemoved : (media sampleConfig).Run fun _ => True :=
  .ofSchedule twoPictures [.arrive (.deleteProductImage 3), .go 0, .go 0, .go 0, .go 0, .go 0] trivial

/-- The second campaign still shows it, and it goes all the same. -/
theorem imageRemoved_lost : ¬ ∀ cfg, ∀ r : (media cfg).Run fun _ => True, InUseKept r := by
  intro hall
  have hact : actAt imageRemoved.trace 2 = some (0, Call.deleteProductImage 3, Op.destroy "shirt") := by decide
  obtain ⟨b, hdoes⟩ := does_of_actAt hact
  have hthere : (imageRemoved.state 2).provider.lookup "shirt" = some "https://res/shirt.jpg" := by decide
  have hused : (imageRemoved.state 2).users "https://res/shirt.jpg" = [(.campaign, 2)] := by decide
  refine hall _ _ 2 0 _ "shirt" b _ hdoes hthere ?_
  unfold Referenced
  rw [hused]
  exact cons_ne_nil _ _

end Balii.Media
