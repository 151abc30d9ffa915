/-!
# Failures of a store

What a collaborator that keeps data can report, and the wording of it.
-/

namespace Telematics

/-- Why a store did not do what was asked. -/
inductive StoreError where
  /-- No row has that number. -/
  | notFound (row : String)
  | unavailable (reason : String)
  | backend (reason : String)
  /-- A file could not be read or written. -/
  | io (reason : String)
  /-- A text is not in the store's format. -/
  | serialization (reason : String)
  deriving DecidableEq, Repr

namespace StoreError

/-- The failure in words. -/
def message : StoreError → String
  | notFound row => row ++ " not found"
  | unavailable reason => "store unavailable: " ++ reason
  | backend reason => "store backend error: " ++ reason
  | io reason => "store IO error: " ++ reason
  | serialization reason => "store serialization error: " ++ reason

end StoreError

end Telematics
