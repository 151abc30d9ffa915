import Telematics.Pipeline.Request

/-!
# Reloading the position cache

The contents of the cache are replaced at once by the last stored position of
every vehicle. A vehicle whose position cannot be had is left out; if the
vehicles cannot be listed, the cache stays as it is.
-/

namespace Telematics.PositionCache

/-- The last stored position of each vehicle, added to what is known. -/
def collect : List Vehicle → Table Position → Program (Table Position)
  | [], found => pure found
  | v :: rest, found => do
    match ← Program.request (.lastPosition v.id) with
    | .ok (some (p : Position)) => collect rest (found.insert v.id.val p)
    | .ok none => collect rest found
    | .error _ => collect rest found

/-- **Reloads the cache** and yields the number of positions in it. -/
def refresh : Task StoreError Nat := do
  let vehicles ← Task.request .listVehicles
  let found ← ExceptT.lift (collect vehicles ∅)
  let () ← Task.request (.replaceCache found)
  pure found.size

theorem completes_collect (vs : List Vehicle) (found : Table Position) :
    (collect vs found).Completes := by
  induction vs generalizing found with
  | nil => exact .pure _
  | cons v rest ih =>
    refine .bind (.request rfl) fun x => ?_
    split <;> exact ih _

/-- **A reload comes to its end**: it enters nothing. -/
theorem completes_refresh : refresh.Completes :=
  .bind (.request rfl) fun _ =>
    .bind (.lift (completes_collect _ _)) fun _ =>
      .bind (.request rfl) fun _ => .pure _

end Telematics.PositionCache
