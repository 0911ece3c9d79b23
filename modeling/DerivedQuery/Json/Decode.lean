import DerivedQuery.Json
import DerivedQuery.OrderBy
import DerivedQuery.Settings

/-!
Reading values of the library from documents. A structure is an object, or an array of its fields in
order; a field that has a default may be left out, at the end of an array too. A null stands for
nothing, and the fields that an object has beyond those are passed over.
-/

namespace DerivedQuery.Json

/-- The parts of a structure with these field names, as far as the document gives them. -/
def parts? (names : List String) : Json → Option (List (Option Json))
  | .object fields => some (names.map fun n => (fields.find? (·.1 == n)).map (·.2))
  | .array items =>
    if items.length ≤ names.length then
      some ((List.range names.length).map fun i => items[i]?)
    else none
  | _ => none

def required {α : Type} (read : Json → Option α) (part : Option Json) : Option α := part.bind read

def optional {α : Type} (default : α) (read : Json → Option α) : Option Json → Option α
  | some j => read j
  | none => some default

def bool? : Json → Option Bool
  | .bool b => some b
  | _ => none

def string? : Json → Option String
  | .string s => some s
  | _ => none

/-- A natural number below 2 ^ 64. -/
def natural? : Json → Option Nat
  | .number (.natural n) => some n
  | _ => none

def uint64? (j : Json) : Option UInt64 := j.natural?.map .ofNat

/-- A direction by its name, or as an object of that one field without a value. -/
def direction? : Json → Option Direction
  | .string "ASC" => some .asc
  | .string "DESC" => some .desc
  | .object [("ASC", .null)] => some .asc
  | .object [("DESC", .null)] => some .desc
  | _ => none

def sortKey? (j : Json) : Option SortKey := do
  match ← j.parts? ["property", "direction", "ignore_case"] with
  | [property, direction, ignoreCase] =>
    return { property := ← required string? property
             direction := ← optional .asc direction? direction
             ignoreCase := ← optional false bool? ignoreCase }
  | _ => none

def orderBy? (j : Json) : Option OrderBy := do
  match ← j.parts? ["orders"] with
  | [some (.array items)] => return ⟨← items.mapM sortKey?⟩
  | _ => none

def pageRequest? (j : Json) : Option PageRequest := do
  match ← j.parts? ["page", "size", "sort"] with
  | [page, size, orderBy] =>
    return { page := ← required uint64? page
             size := ← required uint64? size
             orderBy := ← optional {} orderBy? orderBy }
  | _ => none

def settings? (j : Json) : Option Settings := do
  match ← j.parts? ["log_statements", "strict_single_result", "plan_cache_capacity"] with
  | [logStatements, strict, capacity] =>
    let defaults : Settings := {}
    return { logStatements := ← optional defaults.logStatements bool? logStatements
             strictSingleResult := ← optional defaults.strictSingleResult bool? strict
             planCacheCapacity := ← optional defaults.planCacheCapacity natural? capacity }
  | _ => none

end DerivedQuery.Json
