/-!
What a query does with the rows it matches, and the shapes in which a method may return them.
-/

namespace DerivedQuery

inductive Operation where
  | find
  | count
  | exist
  | delete
  deriving DecidableEq, Repr

inductive ResultShape where
  | many
  | one
  | values
  | count
  | existence
  | unit
  deriving DecidableEq, Repr

def Operation.name : Operation → String
  | .find => "find"
  | .count => "count"
  | .exist => "exists"
  | .delete => "delete"

def ResultShape.name : ResultShape → String
  | .many => "Many"
  | .one => "One"
  | .values => "Values"
  | .count => "Count"
  | .existence => "Exists"
  | .unit => "Unit"

/-- Whether the operation can return its result in the shape. -/
def Operation.allows : Operation → ResultShape → Bool
  | .find, .many | .find, .one | .find, .values => true
  | .count, .count => true
  | .exist, .existence => true
  | .delete, .many | .delete, .count | .delete, .unit => true
  | _, _ => false

end DerivedQuery
