import Telematics.Geo.Position

/-!
# Thinning a track

A track is thinned by the rule of Douglas and Peucker: between two kept
points, the point farthest from the line through them is kept if it lies at
least a tolerance away, and then each half is looked at in the same way.

The segments that are still to be looked at are held on a stack, since a
day's track may split very unevenly. What decides is only which point, if
any, splits a segment; distances enter through `splitAt`, and nothing else is
assumed about them, so a distance that is no number splits nothing.
-/

namespace Telematics.Thinning

/-- Distance from the first point to the line through the other two, as
`(longitude, latitude)` in degrees; to the point itself if the line is none. -/
def lineDistance (p a b : Float × Float) : Float :=
  let dy := a.2 - b.2
  let dx := a.1 - b.1
  let norm := Plane.length dx dy
  if norm == 0.0 then Plane.length (p.1 - a.1) (p.2 - a.2)
  else
    let c := a.1 * b.2 - b.1 * a.2
    (dy * p.1 - dx * p.2 + c).abs / norm

/-- The first of the points strictly between two that is farther from their
line than all before it, and its distance; the near end of the segment if
all lie on the line. -/
def farthest (dist : Nat → Float) (first last : Nat) : Nat × Float :=
  (List.range' (first + 1) (last - (first + 1))).foldl
    (fun best i => if dist i > best.2 then (i, dist i) else best) (first, 0.0)

/-- The point at which a segment is split, if it is. -/
def splitAt (dist : Nat → Nat → Nat → Float) (tolerance : Float)
    (first last : Nat) : Option Nat :=
  if last ≤ first + 1 then none
  else
    let (index, far) := farthest (fun i => dist i first last) first last
    -- All inner points may be on the line, and the tolerance may be zero.
    if index ≠ first ∧ far ≥ tolerance then some index else none

/-- A bound on the segments that the sweep of a stack looks at. -/
def work : List (Nat × Nat) → Nat
  | [] => 0
  | (first, last) :: rest =>
    (if last ≤ first then 1 else 2 * (last - first) - 1) + work rest

/-- The interior points that are kept, in the order in which they are found.
A split outside its segment counts as none. -/
def sweep (split : Nat → Nat → Option Nat) (stack : List (Nat × Nat))
    (kept : List Nat) : List Nat :=
  match stack with
  | [] => kept
  | (first, last) :: rest =>
    match split first last with
    | none => sweep split rest kept
    | some i =>
      -- The second half is looked at first.
      if first < i ∧ i < last then
        sweep split ((i, last) :: (first, i) :: rest) (i :: kept)
      else sweep split rest kept
termination_by work stack
decreasing_by all_goals (simp only [work]; grind)

/-- The indices that are kept of `n` points, ascending: both ends, and what
the splits keep between them. -/
def kept (dist : Nat → Nat → Nat → Float) (tolerance : Float) (n : Nat) :
    List Nat :=
  if n ≤ 2 then List.range n
  else
    0 :: (sweep (splitAt dist tolerance) [(0, n - 1)] []).mergeSort ++ [n - 1]

/-- **The indices of the points that are kept**, given as
`(longitude, latitude)`. -/
def keptPoints (points : List (Float × Float)) (tolerance : Float) : List Nat :=
  let all := points.toArray
  let point := fun i => all[i]?.getD (0.0, 0.0)
  kept (fun i first last => lineDistance (point i) (point first) (point last))
    tolerance
    points.length

end Telematics.Thinning
