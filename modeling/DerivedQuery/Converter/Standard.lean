import DerivedQuery.Coercion

/-!
Ready-made converters for objects whose fields are scalars.
-/

namespace DerivedQuery

/-- The fields on the wire, each coerced for `tag`, as one record. The first that has no wire value
fails. -/
def recordOfFields (tag : String) (fields : List (String × Scalar)) :
    Except QueryError WireValue := do
  let values ← fields.mapM fun (name, value) => do return (name, ← value.toWire tag)
  return .record values

namespace Converter

/-- A converter from the type name and the fields of an object. Any other argument has no fields. -/
def onObject (convert : String → List (String × Scalar) → Except QueryError WireValue) : Converter
  | .object type fields => convert type fields
  | argument => convert argument.kindName []

def record (tag : String) : Converter := onObject fun _ fields => recordOfFields tag fields

/-- The first field of that name alone. -/
def field (name tag : String) : Converter :=
  onObject fun type fields =>
    match fields.find? (·.1 == name) with
    | some (_, value) => value.toWire tag
    | none => .error (.other (type ++ " without " ++ name))

def fieldCount : Converter := onObject fun _ fields => .ok (.int64 (.ofNat fields.length))

def constant (value : WireValue) : Converter := fun _ => .ok value

def failing (reason : String) : Converter := fun _ => .error (.configuration reason)

end Converter

end DerivedQuery
