import Balii.Returned
/-!
# Assets — the media of the product service

The assets at Cloudinary, their rows in `product_service.media_assets`, and the campaigns, collections and product images that
use their URLs.  `perform` is one statement, one upload or one `destroy`.
-/
namespace Balii.Media

open Rowdb

inductive AssetStatus
  | pending
  | attached
  | pendingDelete
  deriving DecidableEq

inductive OwnerType
  | campaign
  | collection
  | productImage
  deriving DecidableEq

/-- A row of `media_assets`, under its `public_id`. -/
structure MediaAsset where
  url : String
  status : AssetStatus
  ownerType : Option OwnerType
  ownerId : Option Uuid
  uploadedAt : ℕ
  updatedAt : ℕ
  deriving DecidableEq

/-- Campaigns and collections have the same two images. -/
inductive BannerType
  | campaign
  | collection
  deriving DecidableEq

def BannerType.ownerType : BannerType → OwnerType
  | .campaign => .campaign
  | .collection => .collection

structure Banners where
  imageUrl : Option String
  bannerImageUrl : Option String
  deriving DecidableEq

structure ProductImage where
  url : String
  publicId : Option String
  deriving DecidableEq

structure State where
  assets : Table String MediaAsset
  banners : BannerType → Table Uuid Banners
  productImages : Table Uuid ProductImage
  /-- What Cloudinary keeps: the URL of each `public_id`. -/
  provider : Table String String
  now : ℕ

inductive Err
  | error (message : String)
  | notFound (message : String)
  | badRequest (message : String)
  | lost
  deriving DecidableEq

structure Config where
  /-- `MEDIA_PENDING_TTL_HOURS`. -/
  mediaPendingTtlHours : Option String
  /-- What `query` makes of an `UPDATE … RETURNING`. -/
  returning : ResultShape

/-- `getPendingTtlHours`. -/
def Config.pendingTtlHours (cfg : Config) : ℕ :=
  match cfg.mediaPendingTtlHours.map jsNumber with
  | some (.num q) => if q.den = 1 ∧ 1 ≤ q ∧ q ≤ 720 then q.num.toNat else 24
  | _ => 24

inductive Op
  | pass (ms : ℕ)
  | upload (publicId url : String)
  | registerAsset (publicId url : String)
  | findBanners (type : BannerType) (id : Uuid)
  | insertBanners (type : BannerType) (id : Uuid) (row : Banners)
  /-- The columns that an `UPDATE` sets. -/
  | updateBanners (type : BannerType) (id : Uuid) (imageUrl bannerImageUrl : Option (Option String))
  | deleteBanners (type : BannerType) (id : Uuid)
  | findProductImage (id : Uuid)
  /-- The `INSERT` of a transaction that is still open: nobody else sees the row before `insertProductImage` commits it. -/
  | saveProductImage (id : Uuid)
  | insertProductImage (id : Uuid) (row : ProductImage)
  /-- `publicId` is what the service has read of the row. -/
  | deleteProductImage (id : Uuid) (publicId : Option String)
  /-- Others attached the assets of `unseen` to the owner after the first statement had read. -/
  | syncOwnerAssets (ownerType : OwnerType) (ownerId : Uuid) (urls : List (Option String)) (unseen : List String)
  | releaseOwnerAssets (ownerType : OwnerType) (ownerId : Uuid)
  /-- Of several rows that use an asset, `pick` says which becomes its owner. -/
  | attachReferenced (pick : List (String × OwnerType × Uuid))
  /-- Whether the advisory lock is free. -/
  | markForCleanup (acquired : Bool)
  | destroy (publicId : String)
  | deleteAsset (publicId : String)
  deriving DecidableEq

@[reducible] def Op.Res : Op → Type
  | .findBanners .. => Option Banners
  | .findProductImage _ => Option ProductImage
  | .syncOwnerAssets .. => List String
  | .releaseOwnerAssets .. => List String
  | .markForCleanup _ => List String
  | _ => Unit

/-! ## Who uses a URL -/

/-- `url IN (image_url, banner_image_url)`. -/
def Banners.uses (row : Banners) (url : String) : Bool := row.imageUrl == some url || row.bannerImageUrl == some url

/-- `referenced`: the rows that use the URL. -/
def State.users (s : State) (url : String) : List (OwnerType × Uuid) :=
  ((s.banners .campaign).select fun _ row => row.uses url).map (fun x => (.campaign, x.1)) ++
    ((s.banners .collection).select fun _ row => row.uses url).map (fun x => (.collection, x.1)) ++
      (s.productImages.select fun _ row => row.url == url).map fun x => (.productImage, x.1)

/-- The owner that the asset's row names has a row that uses the URL. -/
def State.ownerUses (s : State) (ownerType : OwnerType) (ownerId : Option Uuid) (url : String) : Bool :=
  ownerId.any fun id =>
    match ownerType with
    | .campaign => ((s.banners .campaign).lookup id).any fun row => row.uses url
    | .collection => ((s.banners .collection).lookup id).any fun row => row.uses url
    | .productImage => (s.productImages.lookup id).any fun row => row.url == url

/-! ## The statements -/

/-- `UPDATE … SET … WHERE …` on several rows. -/
def updateWhere (t : Table String MediaAsset) (p : String → MediaAsset → Bool) (f : String → MediaAsset → MediaAsset) :
    Table String MediaAsset :=
  (t.select p).foldl (fun t x => t.modify x.1 (f x.1)) t

def MediaAsset.marked (now : ℕ) (a : MediaAsset) : MediaAsset := { a with status := .pendingDelete, updatedAt := now }

def MediaAsset.attachedTo (now : ℕ) (owner : OwnerType × Uuid) (a : MediaAsset) : MediaAsset :=
  { a with status := .attached, ownerType := some owner.1, ownerId := some owner.2, updatedAt := now }

/-- `[...new Set(urls.filter((url) => Boolean(url)))]`. -/
def activeUrls (urls : List (Option String)) : List String := (urls.filterMap fun url => url.filter (· ≠ "")).eraseDups

def MediaAsset.ownedBy (ownerType : OwnerType) (ownerId : Uuid) (a : MediaAsset) : Bool :=
  a.ownerType == some ownerType && a.ownerId == some ownerId

def staleFor (ownerType : OwnerType) (ownerId : Uuid) (active unseen : List String) (publicId : String) (a : MediaAsset) : Bool :=
  a.ownedBy ownerType ownerId && a.status == .attached && !active.contains a.url && !unseen.contains publicId

def hour : ℕ := 60 * 60 * 1000

/-- The `WHERE` of the cleanup. -/
def forCleanup (cfg : Config) (s : State) (a : MediaAsset) : Bool :=
  (a.status == .pending && a.uploadedAt + cfg.pendingTtlHours * hour < s.now) ||
    (a.status == .pendingDelete && a.updatedAt + 5 * 60 * 1000 < s.now) ||
      (a.status == .attached && a.updatedAt + hour < s.now && a.ownerType.any fun type => !s.ownerUses type a.ownerId a.url)

/-- The assets that the operation decides to delete. -/
def Op.chosen (cfg : Config) (op : Op) (s : State) : List String :=
  match op with
  | .upload publicId _ => [publicId]
  | .deleteProductImage _ publicId => publicId.toList
  | .syncOwnerAssets ownerType ownerId urls unseen =>
    (s.assets.select (staleFor ownerType ownerId (activeUrls urls) unseen)).map Prod.fst
  | .releaseOwnerAssets ownerType ownerId => (s.assets.select fun _ a => a.ownedBy ownerType ownerId).map Prod.fst
  | .markForCleanup acquired => if acquired then (s.assets.select fun _ a => forCleanup cfg s a).map Prod.fst else []
  | _ => []

def State.setBanners (s : State) (type : BannerType) (t : Table Uuid Banners) : State :=
  { s with banners := Function.update s.banners type t }

/-- One statement, upload or `destroy`: its result, and the state it leaves. -/
def perform (cfg : Config) (op : Op) (s : State) : Except Err (op.Res × State) :=
  match op with
  | .pass ms => .ok ((), { s with now := s.now + ms })
  | .upload publicId url => .ok ((), { s with provider := s.provider.insert publicId url })
  | .registerAsset publicId url =>
    if (s.assets.find fun id a => id != publicId && a.url == url).isSome
    then .error (.error "duplicate key value violates unique constraint")
    else .ok ((), { s with assets := s.assets.insert publicId ⟨url, .pending, none, none, s.now, s.now⟩ })
  | .findBanners type id => .ok ((s.banners type).lookup id, s)
  | .insertBanners type id row =>
    if ((s.banners type).lookup id).isSome then .error (.error "duplicate key value violates unique constraint")
    else .ok ((), s.setBanners type ((s.banners type).insert id row))
  | .updateBanners type id imageUrl bannerImageUrl =>
    .ok ((), s.setBanners type ((s.banners type).modify id fun row =>
      ⟨imageUrl.getD row.imageUrl, bannerImageUrl.getD row.bannerImageUrl⟩))
  | .deleteBanners type id => .ok ((), s.setBanners type ((s.banners type).erase id))
  | .findProductImage id => .ok (s.productImages.lookup id, s)
  | .saveProductImage id =>
    if (s.productImages.lookup id).isSome then .error (.error "duplicate key value violates unique constraint") else .ok ((), s)
  | .insertProductImage id row =>
    if (s.productImages.lookup id).isSome then .error (.error "duplicate key value violates unique constraint")
    else .ok ((), { s with productImages := s.productImages.insert id row })
  | .deleteProductImage id _ => .ok ((), { s with productImages := s.productImages.erase id })
  | .syncOwnerAssets ownerType ownerId urls unseen =>
    let active := activeUrls urls
    let marked := updateWhere s.assets (staleFor ownerType ownerId active unseen) fun _ => MediaAsset.marked s.now
    .ok (Op.chosen cfg (.syncOwnerAssets ownerType ownerId urls unseen) s,
      { s with assets := updateWhere marked (fun _ a => active.contains a.url) fun _ => MediaAsset.attachedTo s.now (ownerType, ownerId) })
  | .releaseOwnerAssets ownerType ownerId =>
    .ok (Op.chosen cfg (.releaseOwnerAssets ownerType ownerId) s,
      { s with assets := updateWhere s.assets (fun _ a => a.ownedBy ownerType ownerId) fun _ => MediaAsset.marked s.now })
  | .attachReferenced pick =>
    .ok ((), { s with
      assets := updateWhere s.assets (fun _ a => a.status == .pending && !(s.users a.url).isEmpty) fun publicId a =>
        match (pick.lookup publicId).filter (s.users a.url).contains <|> (s.users a.url).head? with
        | some owner => a.attachedTo s.now owner
        | none => a })
  | .markForCleanup acquired =>
    .ok (Op.chosen cfg (.markForCleanup acquired) s,
      { s with assets := updateWhere s.assets (fun _ a => acquired && forCleanup cfg s a) fun _ => MediaAsset.marked s.now })
  | .destroy publicId => .ok ((), { s with provider := s.provider.erase publicId })
  | .deleteAsset publicId => .ok ((), { s with assets := s.assets.erase publicId })

end Balii.Media
