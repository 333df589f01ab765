import Balii.Schema
/-!
# Returned — what an `UPDATE … RETURNING` resolves to

`query` resolves to the returned rows, or to the pair of the rows and their number.  `returnedRows` of the order service reads
both; who reads the first alone finds no column in the pair.
-/
namespace Balii

/-- A value of a column. -/
inductive Cell
  | number (n : ℤ)
  | text (s : String)
  deriving DecidableEq, Repr

/-- A returned row: its columns by name. -/
abbrev ReturnedRow := List (String × Cell)

/-- An element of the array that `query` resolves to. -/
inductive ResultElement
  | row (r : ReturnedRow)
  | rows (rs : List ReturnedRow)
  | affectedCount (n : ℕ)
  deriving DecidableEq, Repr

/-- `element[name]`: an array and a number have no such property. -/
def ResultElement.get (name : String) : ResultElement → Option Cell
  | .row r => r.lookup name
  | .rows _ => none
  | .affectedCount _ => none

inductive ResultShape
  | rows
  | rowsAndCount
  deriving DecidableEq, Repr

/-- What `query` resolves to when these rows are returned. -/
def ResultShape.result : ResultShape → List ReturnedRow → List ResultElement
  | .rows, rs => rs.map ResultElement.row
  | .rowsAndCount, rs => [.rows rs, .affectedCount rs.length]

/-- `returnedRows` of the order service. -/
def returnedRows : List ResultElement → List ResultElement
  | .rows rs :: _ => rs.map .row
  | result => result

/-- **The order service's reading does not depend on the shape.** -/
theorem returnedRows_result (shape : ResultShape) (rows : List ReturnedRow) :
    returnedRows (shape.result rows) = ResultShape.rows.result rows := by
  cases shape with
  | rows => cases rows <;> rfl
  | rowsAndCount => rfl

/-! ## The ids of returned assets -/

/-- `assets.map((asset) => asset.publicId)`. -/
def publicIds (assets : List ResultElement) : List (Option Cell) := assets.map (ResultElement.get "publicId")

/-- The assets behind the ids: `undefined` is nobody's id, neither at Cloudinary nor in `media_assets`. -/
def namedAssets (ids : List (Option Cell)) : List String := ids.filterMap fun id =>
  match id with
  | some (.text publicId) => some publicId
  | _ => none

/-- What is destroyed when the rows of these assets are returned. -/
def destroyedAssets (shape : ResultShape) (returned : List String) : List String :=
  namedAssets (publicIds (shape.result (returned.map fun id => [("publicId", .text id)])))

theorem destroyedAssets_rows (returned : List String) : destroyedAssets .rows returned = returned := by
  induction returned with
  | nil => rfl
  | cons id rest ih =>
    unfold destroyedAssets namedAssets publicIds ResultShape.result at ih ⊢
    simp only [List.map_cons, List.filterMap_cons, ResultElement.get, List.lookup_cons, beq_self_eq_true]
    rw [ih]

theorem destroyedAssets_pair (returned : List String) : destroyedAssets .rowsAndCount returned = [] := rfl

theorem mem_of_destroyed {shape : ResultShape} {returned : List String} {publicId : String}
    (h : publicId ∈ destroyedAssets shape returned) : publicId ∈ returned := by
  cases shape with
  | rows => rwa [destroyedAssets_rows] at h
  | rowsAndCount => cases h

/-- **The assets that are destroyed are the returned ones** from plain rows, and else when none was returned. -/
theorem destroyedAssets_iff (shape : ResultShape) (returned : List String) :
    destroyedAssets shape returned = returned ↔ shape = .rows ∨ returned = [] := by
  cases shape with
  | rows => simp [destroyedAssets_rows]
  | rowsAndCount => simp [destroyedAssets_pair, eq_comm]

end Balii
