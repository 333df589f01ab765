import Balii.Media.Assets
import Balii.Lib.Atomic
/-!
# Owners — `CloudinaryService` and the services that use its assets

Campaigns and collections are saved first and their assets brought in line afterwards; the asset of a product image is attached
before its row is there.  What a call deletes, it has chosen before.
-/
namespace Balii.Media

open Rowdb Rowdb.Atomic List

/-- What comes from outside: the id and URL of an upload, the id of a new row, what PostgreSQL is free to do. -/
structure Answer where
  publicId : String
  url : String
  id : Uuid
  unseen : List String
  pick : List (String × OwnerType × Uuid)
  acquired : Bool

inductive Reply
  | done
  | uploaded (publicId url : String)
  deriving DecidableEq

/-- What an update says of the images: nothing, `null` or a text. -/
structure UpdateDto where
  imageUrl : Option (Option String)
  bannerImageUrl : Option (Option String)
  deriving DecidableEq

inductive Call
  | uploadImage
  | create (type : BannerType) (row : Banners)
  | update (type : BannerType) (id : Uuid) (dto : UpdateDto)
  | remove (type : BannerType) (id : Uuid)
  /-- Whether the variant belongs to the product. -/
  | uploadProductImage (variantBelongs : Bool)
  | deleteProductImage (id : Uuid)
  | cleanupPendingAssets
  | pass (ms : ℕ)
  deriving DecidableEq

abbrev Procedure (α : Type) : Type := Proc Op Op.Res Call Reply Answer Err α

def act (op : Op) : Procedure op.Res := Proc.trans op

/-- `destroy`, then the row. -/
def deleteImage (publicId : String) : Procedure Unit := do
  act (.destroy publicId)
  act (.deleteAsset publicId)

def deleteRegisteredAssets : List String → Procedure Unit
  | [] => pure ()
  | publicId :: rest => do
    (deleteImage publicId).catching fun _ => pure ()
    deleteRegisteredAssets rest

def uploadImage : Procedure (String × String) := do
  let new ← Proc.answer
  act (.upload new.publicId new.url)
  (act (.registerAsset new.publicId new.url)).catching fun e => do
    act (.destroy new.publicId)
    Proc.fail e
  pure (new.publicId, new.url)

def syncOwnerAssets (cfg : Config) (ownerType : OwnerType) (ownerId : Uuid) (urls : List (Option String)) : Procedure Unit := do
  let choice ← Proc.answer
  let stale ← act (.syncOwnerAssets ownerType ownerId urls choice.unseen)
  deleteRegisteredAssets (destroyedAssets cfg.returning stale)

def releaseOwnerAssets (cfg : Config) (ownerType : OwnerType) (ownerId : Uuid) : Procedure Unit := do
  let assets ← act (.releaseOwnerAssets ownerType ownerId)
  deleteRegisteredAssets (destroyedAssets cfg.returning assets)

/-- The body of the `try` of the cleanup. -/
def cleanup (cfg : Config) : Procedure Unit := do
  let choice ← Proc.answer
  act (.attachReferenced choice.pick)
  let assets ← act (.markForCleanup choice.acquired)
  deleteRegisteredAssets (destroyedAssets cfg.returning assets)

def cleanupPendingAssets (cfg : Config) : Procedure Unit := (cleanup cfg).catching fun _ => pure ()

def create (cfg : Config) (type : BannerType) (row : Banners) : Procedure Reply := do
  let new ← Proc.answer
  act (.insertBanners type new.id row)
  syncOwnerAssets cfg type.ownerType new.id [row.imageUrl, row.bannerImageUrl]
  pure .done

/-- The column as `save` writes it: not at all if the row has it already. -/
def changed (old new : Option String) : Option (Option String) := if old = new then none else some new

/-- `save` of a row read before: it looks again what is there. -/
def saveBanners (type : BannerType) (id : Uuid) (row : Banners) : Procedure Unit := do
  let found ← act (.findBanners type id)
  match found with
  | none => act (.insertBanners type id row)
  | some old => act (.updateBanners type id (changed old.imageUrl row.imageUrl) (changed old.bannerImageUrl row.bannerImageUrl))

def update (cfg : Config) (type : BannerType) (id : Uuid) (dto : UpdateDto) : Procedure Reply := do
  let found ← act (.findBanners type id)
  let old ← Proc.need found (.notFound "not found")
  let row : Banners := ⟨dto.imageUrl.getD old.imageUrl, dto.bannerImageUrl.getD old.bannerImageUrl⟩
  saveBanners type id row
  syncOwnerAssets cfg type.ownerType id [row.imageUrl, row.bannerImageUrl]
  pure .done

def remove (cfg : Config) (type : BannerType) (id : Uuid) : Procedure Reply := do
  let found ← act (.findBanners type id)
  let _ ← Proc.need found (.notFound "not found")
  act (.deleteBanners type id)
  releaseOwnerAssets cfg type.ownerType id
  pure .done

/-- The transaction of a new product image; its asset is attached beside it, on another connection. -/
def insertProductImage (cfg : Config) (variantBelongs : Bool) (publicId url : String) : Procedure Reply := do
  Proc.ensure (variantBelongs = true) (.badRequest "Biến thể ảnh phải thuộc đúng sản phẩm đang được cập nhật.")
  let new ← Proc.answer
  act (.saveProductImage new.id)
  syncOwnerAssets cfg .productImage new.id [some url]
  act (.insertProductImage new.id ⟨url, some publicId⟩)
  pure .done

def uploadProductImage (cfg : Config) (variantBelongs : Bool) : Procedure Reply := do
  let uploaded ← uploadImage
  (insertProductImage cfg variantBelongs uploaded.1 uploaded.2).catching fun e => do
    deleteImage uploaded.1
    Proc.fail e

def deleteProductImage (id : Uuid) : Procedure Reply := do
  let found ← act (.findProductImage id)
  let image ← Proc.need found (.notFound "Product image not found")
  let publicId := image.publicId.filter (· ≠ "")
  act (.deleteProductImage id publicId)
  match publicId with
  | none => pure .done
  | some publicId => do
    (deleteImage publicId).catching fun _ => pure ()
    pure .done

def Call.proc (cfg : Config) : Call → Procedure Reply
  | .uploadImage => do
    let uploaded ← Media.uploadImage
    pure (.uploaded uploaded.1 uploaded.2)
  | .create type row => Media.create cfg type row
  | .update type id dto => Media.update cfg type id dto
  | .remove type id => Media.remove cfg type id
  | .uploadProductImage variantBelongs => Media.uploadProductImage cfg variantBelongs
  | .deleteProductImage id => Media.deleteProductImage id
  | .cleanupPendingAssets => do
    Media.cleanupPendingAssets cfg
    pure .done
  | .pass ms => do
    act (.pass ms)
    pure .done

/-- **The assets and their owners.** -/
@[reducible] def media (cfg : Config) : Atomic where
  State := State
  Err := Err
  Op := Op
  Res := Op.Res
  Call := Call
  Reply := Reply
  Answer := Answer
  perform := perform cfg
  proc := Call.proc cfg
  lost := .lost

/-! ## What a call has done when it chooses and when it destroys -/

section Logs
variable {cfg : Config} {call : Call} {l l' : List (Act (media cfg))} {ids : List String} {publicId : String}

/-- The call has decided to delete the asset. -/
def ChosenIn (l : List (Act (media cfg))) (publicId : String) : Prop := ∃ x ∈ l, publicId ∈ x.op.chosen cfg x.before

/-- **The row has been written**: as it is, or over what was read of it. -/
inductive Written (l : List (Act (media cfg))) (type : BannerType) (id : Uuid) (row : Banners) : Prop
  | inserted {y : Act (media cfg)} (hy : y ∈ l) (hop : y.op = .insertBanners type id row)
  | updated {y z : Act (media cfg)} {old : Banners} (hy : y ∈ l) (hz : z ∈ l) (hread : y.op = .findBanners type id)
      (hold : (y.before.banners type).lookup id = some old)
      (hwrite : z.op = .updateBanners type id (changed old.imageUrl row.imageUrl) (changed old.bannerImageUrl row.bannerImageUrl))

/-- What has been done before the assets of an owner are brought in line, released or cleaned up, and before one is destroyed. -/
def Allowed (cfg : Config) (l : List (Act (media cfg))) (op : Op) (_ : State) : Prop :=
  match op with
  | .syncOwnerAssets ownerType ownerId urls _ =>
    (∃ type row, type.ownerType = ownerType ∧ urls = [row.imageUrl, row.bannerImageUrl] ∧ Written l type ownerId row) ∨
      (ownerType = .productImage ∧ ∃ y ∈ l, y.op = .saveProductImage ownerId)
  | .releaseOwnerAssets ownerType ownerId => ∃ type, type.ownerType = ownerType ∧ ∃ y ∈ l, y.op = .deleteBanners type ownerId
  | .markForCleanup _ => ∃ pick, ∃ y ∈ l, y.op = .attachReferenced pick
  | .destroy publicId => ChosenIn l publicId
  | _ => True

theorem ChosenIn.mono (h : ChosenIn l publicId) (hl : l <+: l') : ChosenIn l' publicId := by
  obtain ⟨x, hx, hchosen⟩ := h
  exact ⟨x, hl.subset hx, hchosen⟩

theorem chosenIn_snoc {x : Act (media cfg)} (h : publicId ∈ x.op.chosen cfg x.before) : ChosenIn (l ++ [x]) publicId :=
  ⟨x, mem_append_right l mem_cons_self, h⟩

theorem logs_act {op : Op} {post : List (Act (media cfg)) → op.Res → Prop} (hop : ∀ b, Allowed cfg l op b)
    (h : ∀ n b a b', perform cfg op b = .ok (a, b') → post (l ++ [⟨n, op, b⟩]) a) :
    Logs (A := media cfg) (Allowed cfg) (act op) post l :=
  logs_trans fun n b a b' hperf => ⟨hop b, h n b a b' hperf⟩

theorem logs_deleteImage {post : List (Act (media cfg)) → Unit → Prop} (h : ChosenIn l publicId) (hpost : ∀ l' a, l <+: l' → post l' a) :
    Logs (A := media cfg) (Allowed cfg) (deleteImage publicId) post l := by
  refine logs_bind (logs_act (fun _ => h) fun n b a b' _ => ?_)
  refine logs_act (fun _ => trivial) fun n' b a b' _ => hpost _ _ ?_
  rw [append_assoc]
  exact prefix_append _ _

theorem logs_deleteRegisteredAssets {post : List (Act (media cfg)) → Unit → Prop} : ∀ {ids : List String} {l : List (Act (media cfg))},
    (∀ publicId ∈ ids, ChosenIn l publicId) → (∀ l' a, l <+: l' → post l' a) →
      Logs (A := media cfg) (Allowed cfg) (deleteRegisteredAssets ids) post l
  | [], l, _, hpost => hpost l () prefix_rfl
  | publicId :: rest, l, h, hpost => by
    have hrest : ∀ l' : List (Act (media cfg)), l <+: l' →
        Logs (A := media cfg) (Allowed cfg) (deleteRegisteredAssets rest) post l' := fun l' hl =>
      logs_deleteRegisteredAssets (fun id hid => (h id (mem_cons_of_mem _ hid)).mono hl) fun l'' a hl' => hpost l'' a (hl.trans hl')
    refine logs_bind (logs_catching_from (logs_deleteImage (h publicId mem_cons_self) ?_) prefix_rfl ?_)
    · exact fun l' _ hl => hrest l' hl
    · exact fun l' _ hl => hrest l' hl

/-- The deletion of what the last operation has chosen. -/
theorem logs_deleteChosen {x : Act (media cfg)} (hids : ids = x.op.chosen cfg x.before) {post : List (Act (media cfg)) → Unit → Prop}
    (hpost : ∀ l' a, post l' a) :
    Logs (A := media cfg) (Allowed cfg) (deleteRegisteredAssets (destroyedAssets cfg.returning ids)) post (l ++ [x]) := by
  refine logs_deleteRegisteredAssets (fun publicId hid => ?_) fun l' a _ => hpost l' a
  rw [hids] at hid
  exact chosenIn_snoc (mem_of_destroyed hid)

theorem logs_syncOwnerAssets {ownerType : OwnerType} {ownerId : Uuid} {urls : List (Option String)}
    {post : List (Act (media cfg)) → Unit → Prop} (hop : ∀ unseen b, Allowed cfg l (.syncOwnerAssets ownerType ownerId urls unseen) b)
    (hpost : ∀ l' a, post l' a) : Logs (A := media cfg) (Allowed cfg) (syncOwnerAssets cfg ownerType ownerId urls) post l := by
  refine logs_bind (logs_answer fun choice => logs_bind (logs_act (hop choice.unseen) fun n b stale b' hperf => ?_))
  refine logs_deleteChosen ?_ hpost
  cases hperf
  rfl

theorem logs_releaseOwnerAssets {ownerType : OwnerType} {ownerId : Uuid} {post : List (Act (media cfg)) → Unit → Prop}
    (hop : ∀ b, Allowed cfg l (.releaseOwnerAssets ownerType ownerId) b) (hpost : ∀ l' a, post l' a) :
    Logs (A := media cfg) (Allowed cfg) (releaseOwnerAssets cfg ownerType ownerId) post l := by
  refine logs_bind (logs_act hop fun n b assets b' hperf => logs_deleteChosen ?_ hpost)
  cases hperf
  rfl

theorem logs_cleanup : Logs (A := media cfg) (Allowed cfg) (cleanup cfg) (fun _ _ => True) l := by
  refine logs_bind (logs_answer fun choice => logs_bind (logs_act (fun _ => trivial) fun n b a b' _ => ?_))
  refine logs_bind (logs_act (fun _ => ?_) fun n b assets b' hperf => logs_deleteChosen ?_ fun _ _ => trivial)
  · exact ⟨choice.pick, _, mem_append_right l mem_cons_self, rfl⟩
  · cases hperf
    rfl

theorem logs_uploadImage {post : List (Act (media cfg)) → String × String → Prop} (hpost : ∀ l' a, ChosenIn l' a.1 → post l' a) :
    Logs (A := media cfg) (Allowed cfg) uploadImage post l := by
  refine logs_bind (logs_answer fun new => logs_bind (logs_act (fun _ => trivial) fun n b a b' _ => ?_))
  have hnew : ChosenIn (l ++ [(⟨n, .upload new.publicId new.url, b⟩ : Act (media cfg))]) new.publicId := chosenIn_snoc mem_cons_self
  refine logs_bind (logs_catching_from (logs_act (fun _ => trivial) fun n' b a b' _ => ?_) prefix_rfl fun l' e hl => ?_)
  · exact hpost _ _ (hnew.mono (prefix_append _ _))
  · exact logs_bind (logs_act (fun _ => hnew.mono hl) fun _ _ _ _ _ => trivial)

theorem logs_saveBanners {type : BannerType} {id : Uuid} {row : Banners} {post : List (Act (media cfg)) → Unit → Prop}
    (hpost : ∀ l' a, Written l' type id row → post l' a) : Logs (A := media cfg) (Allowed cfg) (saveBanners type id row) post l := by
  refine logs_bind (logs_act (fun _ => trivial) fun n b found b' hread => ?_)
  cases found with
  | none => exact logs_act (fun _ => trivial) fun _ _ _ _ _ => hpost _ _ (.inserted (mem_append_right _ mem_cons_self) rfl)
  | some old =>
    have hold : (b.banners type).lookup id = some old := (congrArg Prod.fst (Except.ok.inj hread))
    refine logs_act (fun _ => trivial) fun n' b' a b'' _ => hpost _ _ ?_
    refine .updated (y := ⟨n, .findBanners type id, b⟩) (z := ⟨n', .updateBanners type id _ _, b'⟩) ?_ ?_ rfl hold rfl
    · exact mem_append_left _ (mem_append_right _ mem_cons_self)
    · exact mem_append_right _ mem_cons_self

theorem logs_insertProductImage {variantBelongs : Bool} {id url : String} :
    Logs (A := media cfg) (Allowed cfg) (insertProductImage cfg variantBelongs id url) (fun _ _ => True) l := by
  refine logs_bind (logs_ensure fun _ => logs_bind (logs_answer fun new => logs_bind (logs_act (fun _ => trivial) fun n b a b' _ => ?_)))
  refine logs_bind (logs_syncOwnerAssets (fun _ _ => ?_) fun l' _ => ?_)
  · exact .inr ⟨rfl, _, mem_append_right l mem_cons_self, rfl⟩
  · exact logs_bind (logs_act (fun _ => trivial) fun _ _ _ _ _ => trivial)

theorem proc_logs (call : Call) : Logs (A := media cfg) (Allowed cfg) (call.proc cfg) (fun _ _ => True) [] := by
  cases call with
  | uploadImage => exact logs_bind (logs_uploadImage fun _ _ _ => trivial)
  | create type row =>
    refine logs_bind (logs_answer fun new => logs_bind (logs_act (fun _ => trivial) fun _ _ _ _ _ => ?_))
    refine logs_bind (logs_syncOwnerAssets (fun _ _ => ?_) fun _ _ => trivial)
    exact .inl ⟨type, row, rfl, rfl, .inserted (mem_append_right _ mem_cons_self) rfl⟩
  | update type id dto =>
    refine logs_bind (logs_act (fun _ => trivial) fun n b found b' _ => logs_bind (logs_need fun old _ => ?_))
    refine logs_bind (logs_saveBanners fun l' _ hwritten => logs_bind (logs_syncOwnerAssets (fun _ _ => ?_) fun _ _ => trivial))
    exact .inl ⟨type, _, rfl, rfl, hwritten⟩
  | remove type id =>
    refine logs_bind (logs_act (fun _ => trivial) fun n b found b' _ => logs_bind (logs_need fun old _ => ?_))
    refine logs_bind (logs_act (fun _ => trivial) fun _ _ _ _ _ => logs_bind (logs_releaseOwnerAssets (fun _ => ?_) fun _ _ => trivial))
    exact ⟨type, rfl, _, mem_append_right _ mem_cons_self, rfl⟩
  | uploadProductImage variantBelongs =>
    refine logs_bind (logs_uploadImage fun l' uploaded hchosen => ?_)
    refine logs_catching_from logs_insertProductImage prefix_rfl fun l'' e hl => ?_
    exact logs_bind (logs_deleteImage (hchosen.mono hl) fun _ _ _ => trivial)
  | deleteProductImage id =>
    refine logs_bind (logs_act (fun _ => trivial) fun n b found b' _ => logs_bind (logs_need fun image _ => ?_))
    refine logs_bind (logs_act (fun _ => trivial) fun n b a b' _ => ?_)
    cases hid : image.publicId.filter (· ≠ "") with
    | none => trivial
    | some publicId =>
      have hchosen : publicId ∈ (Op.deleteProductImage id (some publicId)).chosen cfg b := mem_cons_self
      refine logs_bind (logs_catching (logs_deleteImage (chosenIn_snoc hchosen) fun _ _ _ => trivial) fun _ _ => trivial)
  | cleanupPendingAssets => exact logs_bind (logs_catching logs_cleanup fun _ _ => trivial)
  | pass ms => exact logs_bind (logs_act (fun _ => trivial) fun _ _ _ _ _ => trivial)

end Logs

end Balii.Media
