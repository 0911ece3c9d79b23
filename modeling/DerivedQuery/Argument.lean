import DerivedQuery.OrderBy
import DerivedQuery.Scalar

/-!
Declared parameter types and the arguments of a call. Paging and sorting parameters are markers:
they are never bound to a tag.
-/

namespace DerivedQuery

inductive ParameterType where
  | any
  | bool
  | int
  | float
  | decimal
  | string
  | bytes
  | json
  | date
  | timestamp
  | uuid
  | enumerated (name : String)
  | list (element : ParameterType)
  | object (name : String)
  | page
  | ordering
  deriving DecidableEq, Repr

namespace ParameterType

def isMarker : ParameterType → Bool
  | .page => true
  | .ordering => true
  | _ => false

/-- The name in signatures and messages. An enumeration and an object are known by their own
name. -/
def name : ParameterType → String
  | .any => "Any"
  | .bool => "Bool"
  | .int => "Int"
  | .float => "Float"
  | .decimal => "Decimal"
  | .string => "String"
  | .bytes => "Bytes"
  | .json => "Json"
  | .date => "Date"
  | .timestamp => "Timestamp"
  | .uuid => "Uuid"
  | .enumerated n => n
  | .list element => "List<" ++ element.name ++ ">"
  | .object n => n
  | .page => "Pageable"
  | .ordering => "Sort"

/-- The wire type of a parameter where its declaration settles it. -/
def wireType? : ParameterType → Option WireType
  | .bool => some .bool
  | .int => some .int64
  | .float => some .float64
  | .decimal => some .numeric
  | .string => some .string
  | .bytes => some .bytes
  | .json => some .json
  | .date => some .date
  | .timestamp => some .timestamp
  | .uuid => some .string
  | .enumerated _ => some .string
  | .list element => element.wireType?.map .array
  | .object _ => some .record
  | .any => none
  | .page => none
  | .ordering => none

/-- The type of an untyped null, and of the elements of an empty list. -/
def nullType (t : ParameterType) : WireType := t.wireType?.getD .string

end ParameterType

inductive Argument where
  | scalar (value : Scalar)
  | list (items : List Argument)
  | enumerated (type variant : String)
  | object (type : String) (fields : List (String × Scalar))
  | null
  | page (request : PageRequest)
  | ordering (orderBy : OrderBy)

namespace Argument

def kindName : Argument → String
  | .scalar v => v.described
  | .list _ => "List"
  | .enumerated type _ => type
  | .object type _ => type
  | .null => "Null"
  | .page _ => "Pageable"
  | .ordering _ => "Sort"

def isList : Argument → Bool
  | .list _ => true
  | _ => false

end Argument

end DerivedQuery
