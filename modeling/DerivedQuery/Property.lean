import DerivedQuery.Text.Search

/-!
Property paths: the names that lead from an entity to one of its fields, written with dots between.
-/

namespace DerivedQuery

structure PropertyPath where
  segments : List String
  deriving DecidableEq, Repr

namespace PropertyPath

/-- The path of a dotted text. -/
def parse (text : String) : PropertyPath :=
  ⟨(Text.fields '.' text.toList).map String.ofList⟩

def dotted (p : PropertyPath) : String := ".".intercalate p.segments

/-- A dotted text is the text of its path, whatever segments it has. -/
theorem dotted_parse (text : String) : (parse text).dotted = text := by
  apply String.toList_injective
  have hdot : ".".toList = ['.'] := rfl
  have hchars : String.toList ∘ String.ofList = id := funext fun _ => String.toList_ofList
  rw [parse, dotted, String.toList_intercalate, List.map_map, hdot, hchars, List.map_id,
    Text.intercalate_fields]

end PropertyPath

end DerivedQuery
