import DerivedQuery.Error

/-!
What goes to a store and comes back: statements with the values bound to their tags, and rows.
-/

namespace DerivedQuery

structure TagBinding where
  tag : String
  value : WireValue

structure Statement where
  sql : String
  /-- The bindings in the order of their tags. -/
  bindings : List TagBinding

namespace Statement

def tags (s : Statement) : List String := s.bindings.map (·.tag)

def value? (s : Statement) (tag : String) : Option WireValue :=
  (s.bindings.find? (·.tag == tag)).map (·.value)

end Statement

/-- The columns of a row in order. Of several columns of one name the first counts. -/
structure Row where
  columns : List (String × WireValue)

namespace Row

def get? (r : Row) (column : String) : Option WireValue :=
  (r.columns.find? (·.1 == column)).map (·.2)

/-- The value of a column that the row has to have. -/
def get (r : Row) (column : String) : Except QueryError WireValue :=
  match r.get? column with
  | some v => .ok v
  | none => .error (.rowMapping (.missingColumn column))

def at? (r : Row) (index : Nat) : Option WireValue := (r.columns[index]?).map (·.2)

def size (r : Row) : Nat := r.columns.length

def isEmpty (r : Row) : Bool := r.columns.isEmpty

end Row

end DerivedQuery
