import DerivedQuery.Converter

/-!
Coercion of arguments into wire values. The wire type of a scalar depends on its variant alone; a
list becomes an array whose elements all have one type, in which a null takes the type of the
others.
-/

namespace DerivedQuery

namespace Scalar

/-- The wire value of a variant that holds a value, or the null of its type. -/
def orNull {α : Type} (type : WireType) (make : α → WireValue) (v : Option α) : WireValue :=
  match v with
  | some x => make x
  | none => .null type

def toWire (tag : String) (value : Scalar) : Except QueryError WireValue :=
  match value with
  | .bool v => .ok (orNull .bool .bool v)
  | .tinyInt v => .ok (orNull .int64 (fun n => .int64 n.toInt64) v)
  | .smallInt v => .ok (orNull .int64 (fun n => .int64 n.toInt64) v)
  | .int v => .ok (orNull .int64 (fun n => .int64 n.toInt64) v)
  | .bigInt v => .ok (orNull .int64 .int64 v)
  | .tinyUnsigned v => .ok (orNull .int64 (fun n => .int64 (.ofNat n.toNat)) v)
  | .smallUnsigned v => .ok (orNull .int64 (fun n => .int64 (.ofNat n.toNat)) v)
  | .unsigned v => .ok (orNull .int64 (fun n => .int64 (.ofNat n.toNat)) v)
  | .bigUnsigned none => .ok (.null .int64)
  | .bigUnsigned (some n) =>
    if n.toNat < Nat.pow 2 63 then .ok (.int64 (.ofNat n.toNat))
    else .error (.unsupportedParameter tag (.exceedsInt64 n))
  | .float v => .ok (orNull .float64 (fun x => .float64 x.toDouble) v)
  | .double v => .ok (orNull .float64 .float64 v)
  | .string v => .ok (orNull .string .string v)
  | .char v => .ok (orNull .string (fun c => .string (String.ofList [c])) v)
  | .bytes v => .ok (orNull .bytes .bytes v)
  | .json v => .ok (orNull .json .json v)
  | .decimal v => .ok (orNull .numeric .numeric v)
  | .uuid v => .ok (orNull .string (fun u => .string u.text) v)
  | .date v => .ok (orNull .date .date v)
  | .timestamp v => .ok (orNull .timestamp .timestamp v)
  | .time _ | .dateTime _ | .zonedDateTime _ | .localDateTime _ | .member .. =>
    .error (.unsupportedParameter tag (.noWireForm value))

end Scalar

namespace Coercion

/-- The type of an array of these values: that of the first that is no null, else of the first. -/
def elementType (declared : ParameterType) (values : List WireValue) : WireType :=
  match values.find? (!·.isNull) with
  | some v => v.type
  | none =>
    match values with
    | v :: _ => v.type
    | [] => declared.nullType

/-- An array of the values, whose nulls take its element type. -/
def array (tag : String) (declared : ParameterType) (values : List WireValue) :
    Except QueryError WireValue :=
  let element := elementType declared values
  match values.find? fun v => v.type ≠ element && !v.isNull with
  | some v => .error (.unsupportedParameter tag (.mixedElements element v.type))
  | none => .ok (.array element (values.map fun v => if v.isNull then .null element else v))

def elementOf : ParameterType → ParameterType
  | .list element => element
  | _ => .any

def single (lookup : String → Option Converter) (tag : String) (argument : Argument)
    (declared : ParameterType) : Except QueryError WireValue :=
  match argument with
  | .scalar v => v.toWire tag
  | .enumerated _ variant => .ok (.string variant)
  | .null => .ok (.null declared.nullType)
  | .object type _ =>
    match lookup type with
    | some convert => convert argument
    | none => .error (.unsupportedParameter tag (.noConverter type))
  | .list _ => .error (.unsupportedParameter tag .nestedList)
  | .page _ | .ordering _ => .error (.unsupportedParameter tag (.marker argument))

end Coercion

/-- The wire value of an argument for the tag that binds it. The declared type settles the type of
untyped nulls and of empty lists. -/
def coerce (lookup : String → Option Converter) (tag : String) (argument : Argument)
    (declared : ParameterType) : Except QueryError WireValue :=
  match argument with
  | .list items => do
    let element := Coercion.elementOf declared
    let values ← items.mapM fun item => Coercion.single lookup tag item element
    Coercion.array tag element values
  | argument => Coercion.single lookup tag argument declared

end DerivedQuery
