/-!
# Fields of a record

The formats write a record by the names of its fields or as a list of them in
order. What stands for a field is the same in both, but only a record with names
may leave out one that is optional and has no value of its own.
-/

namespace Telematics

/-- How one field of a record stands in a document. -/
inductive Field (α : Type) where
  | present (v : α)
  /-- The names of the record do not include it. -/
  | unnamed
  /-- The list ends before its place. -/
  | beyondEnd

namespace Field

/-- The fields of a list of values, for so many places. -/
def ofList (count : Nat) (items : List α) : List (Field α) :=
  (List.range count).map fun i => (items[i]?).elim .beyondEnd .present

/-- A field that has to be there. -/
def required (f : α → Option β) : Field α → Option β
  | present v => f v
  | _ => none

/-- A field with a value of its own where it is missing. -/
def withDefault (d : β) (f : α → Option β) : Field α → Option β
  | present v => f v
  | _ => some d

/-- A field that a record with names may leave out. -/
def optional (f : α → Option (Option β)) : Field α → Option (Option β)
  | present v => f v
  | unnamed => some none
  | beyondEnd => none

end Field

end Telematics
