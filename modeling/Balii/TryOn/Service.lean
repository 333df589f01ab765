import Balii.Config
import Balii.Lib.Atomic
import Mathlib.Data.List.Sort
/-!
# TryOn.Service — the history of the virtual fitting room and its media

A finished result is kept at Cloudinary until its row expires.  The cleanup looks once for what has expired and then removes the
media row by row; a user who saves an anonymous result becomes its owner, and the row gets a new expiry.  `perform` is one statement
on `tryon_service.tryon_histories`, one `destroy` or one reading of the clock.
-/
namespace Balii.TryOn

open Rowdb Rowdb.Atomic

/-- A row of `tryon_histories`, under its id. -/
structure History where
  userId : Option Uuid
  fashnJobId : Option String
  status : String
  resultUrl : Option String
  cloudinaryPublicId : Option String
  expiresAt : Option ℕ
  deriving DecidableEq

structure State where
  histories : Table String History
  /-- What Cloudinary keeps. -/
  images : List String
  now : ℕ

inductive Err
  | unauthorized (message : String)
  | serviceUnavailable (message : String)
  | notFound (message : String)
  | lost
  deriving DecidableEq

structure Config where
  /-- `TRYON_RESULT_RETENTION_DAYS`. -/
  tryonResultRetentionDays : Option String

def Config.retentionDays (cfg : Config) : ℕ :=
  match cfg.tryonResultRetentionDays.map jsNumber with
  | some (.num q) => if q.den = 1 ∧ 1 ≤ q ∧ q ≤ 365 then q.num.toNat else 30
  | _ => 30

/-- `getMediaExpiryDate`. -/
def Config.mediaExpiryDate (cfg : Config) (now : ℕ) : ℕ := now + cfg.retentionDays * 24 * 60 * 60 * 1000

inductive Op
  | pass (ms : ℕ)
  | readClock
  | selectExpired
  | destroy (publicId : String)
  | clearMedia (id publicId : String)
  /-- Of several rows that fit, `pick` says which comes first. -/
  | findResult (resultId : String) (pick : ℕ)
  | claim (id : String) (userId : Uuid) (expiresAt : ℕ)
  | findOwn (id : String) (userId : Uuid)
  deriving DecidableEq

@[reducible] def Op.Res : Op → Type
  | .readClock => ℕ
  | .selectExpired => List (String × History)
  | .findResult .. => Option (String × History)
  | .claim .. => ℕ
  | .findOwn .. => Option History
  | _ => Unit

/-! ## The statements -/

def isHex (c : Char) : Bool := c.isDigit || ('a' ≤ c && c ≤ 'f') || ('A' ≤ c && c ≤ 'F')

/-- `[0-9a-f]{8}-[0-9a-f]{4}-[1-5][0-9a-f]{3}-[89ab][0-9a-f]{3}-[0-9a-f]{12}`, in either case. -/
def uuidShape : List (Char → Bool) :=
  List.replicate 8 isHex ++ (· == '-') :: List.replicate 4 isHex ++ (· == '-') :: (fun c => '1' ≤ c && c ≤ '5') :: List.replicate 3 isHex ++
    (· == '-') :: ['8', '9', 'a', 'b', 'A', 'B'].contains :: List.replicate 3 isHex ++ (· == '-') :: List.replicate 12 isHex

def isUuid (s : String) : Bool :=
  s.toList.length == uuidShape.length && (List.zipWith (fun p c => p c) uuidShape s.toList).all id

def History.isExpired (now : ℕ) (row : History) : Bool := row.expiresAt.any (· ≤ now) && row.cloudinaryPublicId.isSome

/-- What the cleanup selects: the hundred that expired first. -/
def State.expired (s : State) : List (String × History) :=
  ((s.histories.select fun _ row => row.isExpired s.now).insertionSort
    fun x y => x.2.expiresAt.getD 0 ≤ y.2.expiresAt.getD 0).take 100

def State.results (s : State) (resultId : String) : List (String × History) :=
  s.histories.select fun id row => row.fashnJobId == some resultId || (isUuid resultId && id == resultId.toLower)

/-- The `SET` of the cleanup, where the row still has the media. -/
def History.cleared (publicId : String) (row : History) : History :=
  if row.cloudinaryPublicId = some publicId
  then { row with status := "expired", resultUrl := none, cloudinaryPublicId := none } else row

def History.claimedBy (userId : Uuid) (expiresAt : ℕ) (row : History) : History :=
  { row with userId := some userId, expiresAt := some expiresAt }

/-- One statement, `destroy` or reading: its result, and the state it leaves. -/
def perform (op : Op) (s : State) : Except Err (op.Res × State) :=
  match op with
  | .pass ms => .ok ((), { s with now := s.now + ms })
  | .readClock => .ok (s.now, s)
  | .selectExpired => .ok (s.expired, s)
  | .destroy publicId => .ok ((), { s with images := s.images.filter (· ≠ publicId) })
  | .clearMedia id publicId => .ok ((), { s with histories := s.histories.modify id (History.cleared publicId) })
  | .findResult resultId pick => .ok ((s.results resultId)[pick]?.or (s.results resultId).head?, s)
  | .claim id userId expiresAt =>
    if (s.histories.lookup id).any (fun row => row.userId.isNone)
    then .ok (1, { s with histories := s.histories.modify id (History.claimedBy userId expiresAt) }) else .ok (0, s)
  | .findOwn id userId => .ok ((s.histories.lookup id).filter fun row => row.userId == some userId, s)

/-! ## The service -/

structure Answer where
  /-- Whether the database is there. -/
  available : Bool
  pick : ℕ

inductive Reply
  | done
  | saved (history : History)
  deriving DecidableEq

inductive Call
  | cleanupExpiredMedia
  | saveTryOnResult (resultId : String) (userId : Option Uuid)
  | pass (ms : ℕ)
  deriving DecidableEq

abbrev Procedure (α : Type) : Type := Proc Op Op.Res Call Reply Answer Err α

def act (op : Op) : Procedure op.Res := Proc.trans op

def expireHistoryMedia (history : String × History) : Procedure Unit :=
  match nonEmpty history.2.cloudinaryPublicId with
  | none => pure ()
  | some publicId => do
    act (.destroy publicId)
    act (.clearMedia history.1 publicId)

/-- The loop of the cleanup: a row that fails is left, and the next one follows. -/
def expireAll : List (String × History) → Procedure Unit
  | [] => pure ()
  | history :: rest => do
    (expireHistoryMedia history).catching fun _ => pure ()
    expireAll rest

def cleanupExpiredMedia : Procedure Reply := do
  let repository ← Proc.answer
  if repository.available then do
    let expired ← act .selectExpired
    expireAll expired
    pure .done
  else pure .done

def notCompleted : Err := .notFound "Không tìm thấy kết quả thử đồ đã hoàn tất."

/-- The row as its owner finds it. -/
def findSaved (id : String) (userId : Uuid) (message : String) : Procedure Reply := do
  let found ← act (.findOwn id userId)
  let saved ← Proc.need found (.notFound message)
  pure (.saved saved)

def saveTryOnResult (cfg : Config) (resultId : String) (userId : Option Uuid) : Procedure Reply := do
  let resolvedUserId ← Proc.need userId (.unauthorized "Authentication is required")
  let repository ← Proc.answer
  Proc.ensure (repository.available = true) (.serviceUnavailable "Try-on history is temporarily unavailable.")
  let found ← act (.findResult resultId repository.pick)
  let history ← Proc.need found notCompleted
  Proc.ensure (history.2.status = "completed" ∧ (nonEmpty history.2.resultUrl).isSome) notCompleted
  Proc.ensure (history.2.userId = none ∨ history.2.userId = some resolvedUserId) notCompleted
  if history.2.userId = none then do
    let now ← act .readClock
    let affected ← act (.claim history.1 resolvedUserId (cfg.mediaExpiryDate now))
    if affected = 1 then findSaved history.1 resolvedUserId "Không thể lưu kết quả thử đồ."
    else findSaved history.1 resolvedUserId "Kết quả thử đồ đã được lưu bởi tài khoản khác."
  else findSaved history.1 resolvedUserId "Không thể lưu kết quả thử đồ."

def Call.proc (cfg : Config) : Call → Procedure Reply
  | .cleanupExpiredMedia => TryOn.cleanupExpiredMedia
  | .saveTryOnResult resultId userId => TryOn.saveTryOnResult cfg resultId userId
  | .pass ms => do
    act (.pass ms)
    pure .done

/-- **The fitting room's history and its media.** -/
@[reducible] def tryOn (cfg : Config) : Atomic where
  State := State
  Err := Err
  Op := Op
  Res := Op.Res
  Call := Call
  Reply := Reply
  Answer := Answer
  perform := perform
  proc := Call.proc cfg
  lost := .lost

end Balii.TryOn
