import DerivedQuery.Number.Binary
import DerivedQuery.Text.Digits
import DerivedQuery.Text.Search

/-!
Doubles from decimal numerals: digits with a point or without, and a power of ten. The double is the
one nearest to the number that is written.
-/

namespace DerivedQuery

/-- The double nearest to `n · 10 ^ e`. Beyond the greatest and the least double no power is
built. -/
def Double.ofScientific (negative : Bool) (n : Nat) (e : Int) : Double :=
  let places : Int := (Text.numeral n).length + e
  if n = 0 then Double.ofRatio negative 0 1
  else if 400 < places then Double.infinity negative
  else if places < -400 then Double.ofRatio negative 0 1
  else Double.ofRatio negative (n * Nat.pow 10 e.toNat) (Nat.pow 10 (-e).toNat)

namespace Text

/-- A mantissa's digits as a number and the power of ten that its fraction stands for. -/
def mantissa? (s : List Char) : Option (Nat × Int) :=
  match fields '.' s with
  | [whole] => (natural? whole).map (·, 0)
  | [whole, part] => (natural? (whole ++ part)).map (·, -(part.length : Int))
  | _ => none

def isExponentMark (c : Char) : Bool := c == 'e' || c == 'E'

/-- A numeral without a sign: digits on at least one side of the point, and an exponent or none. -/
def scientific? (s : List Char) : Option (Nat × Int) := do
  let (body, rest) := s.span (!isExponentMark ·)
  let (n, shift) ← mantissa? body
  match rest with
  | [] => some (n, shift)
  | _ :: e => some (n, shift + (← integer? e))

def splitSign : List Char → Bool × List Char
  | '-' :: rest => (true, rest)
  | '+' :: rest => (false, rest)
  | rest => (false, rest)

end Text

end DerivedQuery
