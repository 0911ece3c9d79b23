import DerivedQuery.Json.Printer
import DerivedQuery.Uuid
import DerivedQuery.Wire

/-!
Scalars, the values that a call passes. Each variant holds a value or none: a null keeps its
variant.
-/

namespace DerivedQuery

inductive Scalar where
  | bool (v : Option Bool)
  | tinyInt (v : Option Int8)
  | smallInt (v : Option Int16)
  | int (v : Option Int32)
  | bigInt (v : Option Int64)
  | tinyUnsigned (v : Option UInt8)
  | smallUnsigned (v : Option UInt16)
  | unsigned (v : Option UInt32)
  | bigUnsigned (v : Option UInt64)
  | float (v : Option Single)
  | double (v : Option Double)
  | string (v : Option String)
  | char (v : Option Char)
  | bytes (v : Option (List UInt8))
  | json (v : Option Json)
  | decimal (v : Option Decimal)
  | uuid (v : Option Uuid)
  | date (v : Option Date)
  | timestamp (v : Option Timestamp)
  | time (v : Option TimeOfDay)
  | dateTime (v : Option DateTime)
  | zonedDateTime (v : Option ZonedDateTime)
  | localDateTime (v : Option ZonedDateTime)
  | member (type : String) (v : Option String)

namespace Scalar

/-- A variant with its value in `Some`, or `None`. -/
def describeAs {α : Type} (name : String) (written : α → String) (v : Option α) : String :=
  name ++
    match v with
    | none => "(None)"
    | some x => "(Some(" ++ written x ++ "))"

def bytesText (bs : List UInt8) : String :=
  "[" ++ ", ".intercalate (bs.map fun b => toString b.toNat) ++ "]"

/-- The variant and its value as diagnostics name them. -/
def described : Scalar → String
  | .bool v => describeAs "Bool" (fun b => if b then "true" else "false") v
  | .tinyInt v => describeAs "TinyInt" (fun n => toString n.toInt) v
  | .smallInt v => describeAs "SmallInt" (fun n => toString n.toInt) v
  | .int v => describeAs "Int" (fun n => toString n.toInt) v
  | .bigInt v => describeAs "BigInt" (fun n => toString n.toInt) v
  | .tinyUnsigned v => describeAs "TinyUnsigned" (fun n => toString n.toNat) v
  | .smallUnsigned v => describeAs "SmallUnsigned" (fun n => toString n.toNat) v
  | .unsigned v => describeAs "Unsigned" (fun n => toString n.toNat) v
  | .bigUnsigned v => describeAs "BigUnsigned" (fun n => toString n.toNat) v
  | .float v => describeAs "Float" (·.text .diagnostic) v
  | .double v => describeAs "Double" (·.text .diagnostic) v
  | .string v => describeAs "String" Text.quoted v
  | .char v => describeAs "Char" Text.quotedChar v
  | .bytes v => describeAs "Bytes" bytesText v
  | .json v => describeAs "Json" Json.described v
  | .decimal v => describeAs "Decimal" Decimal.text v
  | .uuid v => describeAs "Uuid" Uuid.text v
  | .date v => describeAs "ChronoDate" Date.text v
  | .timestamp v => describeAs "ChronoDateTimeUtc" Timestamp.text v
  | .time v => describeAs "ChronoTime" TimeOfDay.text v
  | .dateTime v => describeAs "ChronoDateTime" DateTime.text v
  | .zonedDateTime v => describeAs "ChronoDateTimeWithTimeZone" ZonedDateTime.text v
  | .localDateTime v => describeAs "ChronoDateTimeLocal" ZonedDateTime.text v
  | .member type (some v) =>
    "Enum(Some(Enum \x7b type_name: " ++ Text.quoted type ++
      ", value: " ++ Text.quoted v ++ " \x7d))"
  | .member type none => "Enum(None(" ++ Text.quoted type ++ "))"

end Scalar

end DerivedQuery
