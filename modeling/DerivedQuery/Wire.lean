import DerivedQuery.Calendar
import DerivedQuery.Json
import DerivedQuery.Number.Decimal

/-!
Wire values, the closed set of what a statement binds and a row returns. Every value has one wire
type, a null included.
-/

namespace DerivedQuery

inductive WireType where
  | bool
  | int64
  | float64
  | numeric
  | string
  | bytes
  | json
  | date
  | timestamp
  | array (element : WireType)
  | record
  deriving DecidableEq, Repr

namespace WireType

def text : WireType → String
  | .bool => "BOOL"
  | .int64 => "INT64"
  | .float64 => "FLOAT64"
  | .numeric => "NUMERIC"
  | .string => "STRING"
  | .bytes => "BYTES"
  | .json => "JSON"
  | .date => "DATE"
  | .timestamp => "TIMESTAMP"
  | .array element => "ARRAY<" ++ element.text ++ ">"
  | .record => "STRUCT"

def isArray : WireType → Bool
  | .array _ => true
  | _ => false

end WireType

inductive WireValue where
  | null (type : WireType)
  | bool (b : Bool)
  | int64 (n : Int64)
  | float64 (x : Double)
  | numeric (d : Decimal)
  | string (s : String)
  | bytes (bs : List UInt8)
  | json (document : Json)
  | date (d : Date)
  | timestamp (t : Timestamp)
  | array (element : WireType) (values : List WireValue)
  | record (fields : List (String × WireValue))
  deriving Repr, Inhabited

namespace WireValue

def type : WireValue → WireType
  | .null t => t
  | .bool _ => .bool
  | .int64 _ => .int64
  | .float64 _ => .float64
  | .numeric _ => .numeric
  | .string _ => .string
  | .bytes _ => .bytes
  | .json _ => .json
  | .date _ => .date
  | .timestamp _ => .timestamp
  | .array element _ => .array element
  | .record _ => .record

def isNull : WireValue → Bool
  | .null _ => true
  | _ => false

def bool? : WireValue → Option Bool
  | .bool b => some b
  | _ => none

def int64? : WireValue → Option Int64
  | .int64 n => some n
  | _ => none

def float64? : WireValue → Option Double
  | .float64 x => some x
  | _ => none

def numeric? : WireValue → Option Decimal
  | .numeric d => some d
  | _ => none

def string? : WireValue → Option String
  | .string s => some s
  | _ => none

/-- The elements of an array of any type. -/
def items? : WireValue → Option (List WireValue)
  | .array _ values => some values
  | _ => none

/-- The elements of an array of integers; a null among them leaves none. -/
def int64s? : WireValue → Option (List Int64)
  | .array .int64 values => values.mapM int64?
  | _ => none

/-- The elements of an array of strings; a null among them leaves none. -/
def strings? : WireValue → Option (List String)
  | .array .string values => values.mapM string?
  | _ => none

/-- The first field of that name of a record. -/
def field? (name : String) : WireValue → Option WireValue
  | .record fields => (fields.find? (·.1 == name)).map (·.2)
  | _ => none

end WireValue

end DerivedQuery
