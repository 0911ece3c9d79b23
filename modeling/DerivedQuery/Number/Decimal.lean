import DerivedQuery.Text.Digits
import DerivedQuery.Text.Search

/-!
Fixed-point decimals. The scale, the number of places after the point, belongs to the value, so 1.5
and 1.50 differ. Zero has no sign.
-/

namespace DerivedQuery

structure Decimal where
  negative : Bool
  coefficient : Nat
  scale : Nat
  deriving DecidableEq, Repr

namespace Decimal

/-- A decimal from its parts; the sign of zero is dropped. -/
def make (negative : Bool) (coefficient scale : Nat) : Decimal :=
  ⟨negative && coefficient != 0, coefficient, scale⟩

/-- Reads digits with an optional sign in front and an optional point among them. -/
def parse? (s : String) : Option Decimal :=
  let (negative, body) :=
    match s.toList with
    | '-' :: rest => (true, rest)
    | '+' :: rest => (false, rest)
    | rest => (false, rest)
  match Text.fields '.' body with
  | [whole] => (Text.natural? whole).map fun n => make negative n 0
  | [whole, part] => (Text.natural? (whole ++ part)).map fun n => make negative n part.length
  | _ => none

def text (d : Decimal) : String :=
  let ds := Text.padded (d.scale + 1) d.coefficient
  let whole := ds.take (ds.length - d.scale)
  let part := ds.drop (ds.length - d.scale)
  String.ofList
    ((if d.negative then ['-'] else []) ++ whole ++ (if d.scale = 0 then [] else '.' :: part))

end Decimal

end DerivedQuery
