import Balii.Lib.Database
/-!
# Column — writes that determine a column from what it was

`UPDATE t SET n = n + 1` makes of the column `n` what the column alone says, whatever the rest of the row is; an `UPDATE`
that sets another column does so as well.  After such writes two databases agree on the column if they did before.
-/
namespace Rowdb

variable {D : Schema} {β : Type} (t : D.Tab) (π : D.Row t → β)

namespace Database

/-- A column of all rows. -/
def column (s : Database D) (k : D.Key t) : Option β := (s.find t k).map π

end Database

/-- An `UPDATE` leaves the column as it is exactly if it sets what its row has. -/
theorem column_update_eq_iff {t : D.Tab} {π : D.Row t → β} {s : Database D} {k : D.Key t} {f : D.Row t → D.Row t} :
    ((Write.update t k f).apply s).column t π = s.column t π ↔ ∀ r, s.find t k = some r → π (f r) = π r := by
  have hat : ∀ k', ((Write.update t k f).apply s).column t π k' =
      if k' = k then ((s.find t k).map f).map π else s.column t π k' := by
    intro k'
    unfold Database.column
    rw [find_update]
    split
    · rename_i hk
      rw [hk]
    · rfl
  constructor
  · intro h r hr
    have hk := congrFun h k
    rw [hat, if_pos rfl, Database.column, hr] at hk
    exact Option.some.inj hk
  · intro h
    funext k'
    rw [hat]
    split
    · rename_i hk
      subst hk
      unfold Database.column
      cases hr : s.find t k' with
      | none => rfl
      | some r => exact congrArg some (h r hr)
    · rfl

namespace Write

/-- What the write makes of the column depends on the column alone. -/
def Alone (w : Write D) : Prop :=
  ∀ a b : Database D, a.column t π = b.column t π → (w.apply a).column t π = (w.apply b).column t π

variable {t π}

theorem alone_of_tab {w : Write D} (h : w.tab? ≠ some t) : w.Alone t π := by
  intro a b hab
  funext k
  have := congrFun hab k
  unfold Database.column at this ⊢
  rw [find_apply _ _ h, find_apply _ _ h, this]

theorem alone_update (k : D.Key t) {f : D.Row t → D.Row t} {g : β → β} (hf : ∀ r, π (f r) = g (π r)) :
    (Write.update t k f).Alone t π := by
  have hmap : ∀ x : Option (D.Row t), (x.map f).map π = (x.map π).map g := by
    intro x
    cases x with
    | none => rfl
    | some r => exact congrArg some (hf r)
  intro a b hab
  funext k'
  have := congrFun hab k'
  unfold Database.column at this ⊢
  rw [find_update, find_update]
  split
  · rw [hmap, hmap, this]
  · exact this

theorem alone_insert (k : D.Key t) (r : D.Row t) : (Write.insert t k r).Alone t π := by
  have hget : ∀ x : Option (D.Row t), (some (x.getD r)).map π = some ((x.map π).getD (π r)) := by
    intro x
    cases x <;> rfl
  intro a b hab
  funext k'
  have := congrFun hab k'
  unfold Database.column at this ⊢
  rw [find_insert, find_insert]
  split
  · rename_i hk
    subst hk
    rw [hget, hget, this]
  · exact this

theorem column_written {ws : List (Write D)} (h : ∀ w ∈ ws, w.Alone t π) {a b : Database D}
    (hab : a.column t π = b.column t π) : (written ws a).column t π = (written ws b).column t π := by
  induction ws generalizing a b with
  | nil => exact hab
  | cons w ws ih => exact ih (fun v hv => h v (List.mem_cons_of_mem _ hv)) (h w List.mem_cons_self a b hab)

end Write
end Rowdb
