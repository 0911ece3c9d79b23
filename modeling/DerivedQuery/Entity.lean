import DerivedQuery.Converter
import DerivedQuery.Property
import DerivedQuery.Text.Case

/-!
Entities: a table, its columns in the order of a projection, and the converters of its object types.
A field without a column name of its own gets one in snake case.
-/

namespace DerivedQuery

/-- A column and the field it stores; the field of an embedded object has a dotted name. -/
structure Column where
  field : String
  name : String
  type : WireType
  isKey : Bool
  deriving DecidableEq, Repr

/-- The snake case of characters that have others before them, by a mapping to lower case. Before
them stands an underscore if `afterMark` holds. -/
def snakeTail (lower : Char → List Char) (afterMark : Bool) : List Char → List Char
  | [] => []
  | c :: s =>
    if c = '.' then '_' :: snakeTail lower true s
    else if Text.isUpper c then
      let lowered := lower c
      (if afterMark then lowered else '_' :: lowered) ++
        snakeTail lower (lowered.getLast?.all (· == '_')) s
    else c :: snakeTail lower (c == '_') s

/-- The snake case of a whole name, at whose front no underscore is added. -/
def snakeChars (lower : Char → List Char) : List Char → List Char
  | [] => []
  | c :: s =>
    let front := if c = '.' then ['_'] else if Text.isUpper c then lower c else [c]
    front ++ snakeTail lower (front.getLast? == some '_') s

/-- Lower case with an underscore before each character that was upper case, unless one stands there
already or the name begins there; a dot becomes an underscore. -/
def snakeCase (field : String) : String :=
  String.ofList (snakeChars Text.lower field.toList)

/-- The column of a field that has no column name of its own. -/
def Column.derived (field : String) (type : WireType) : Column :=
  ⟨field, snakeCase field, type, false⟩

structure Entity where
  table : String
  columns : List Column
  converters : ConverterRegistry := {}

namespace Entity

def addField (e : Entity) (field : String) (type : WireType) : Entity :=
  { e with columns := e.columns ++ [.derived field type] }

def primaryKey (e : Entity) : List String :=
  (e.columns.filter (·.isKey)).map (·.name)

end Entity

/-- The first column whose field has that dotted name. -/
def resolveField (table : String) (columns : List Column) (dotted : String) :
    Except MetadataFault Column :=
  match columns.find? (·.field == dotted) with
  | some c => .ok c
  | none => .error (.unknownProperty table dotted)

namespace Entity

def resolve (e : Entity) (path : PropertyPath) : Except MetadataFault Column :=
  resolveField e.table e.columns path.dotted

def converter? (e : Entity) (type : String) : Option Converter := e.converters.get? type

end Entity

end DerivedQuery
