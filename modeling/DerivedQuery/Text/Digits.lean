/-!
Digit strings: decimal and hexadecimal numerals as lists of characters, their values, and numerals
padded to a width.
-/

namespace DerivedQuery.Text

def isDigit (c : Char) : Bool := decide ('0' ≤ c) && decide (c ≤ '9')

def digitValue (c : Char) : Nat := c.toNat - '0'.toNat

def decimalValue (ds : List Char) : Nat :=
  ds.foldl (fun n c => 10 * n + digitValue c) 0

/-- The number of a non-empty string of decimal digits, and nothing else. -/
def natural? (ds : List Char) : Option Nat :=
  if ds ≠ [] ∧ ds.all isDigit = true then some (decimalValue ds) else none

/-- The number of exactly `width` decimal digits. -/
def fixed? (width : Nat) (ds : List Char) : Option Nat :=
  if ds.length = width then natural? ds else none

def integer? : List Char → Option Int
  | '-' :: ds => (natural? ds).map fun n => -(n : Int)
  | '+' :: ds => (natural? ds).map Int.ofNat
  | ds => (natural? ds).map Int.ofNat

def spanDigits (s : List Char) : List Char × List Char :=
  (s.takeWhile isDigit, s.dropWhile isDigit)

def numeral (n : Nat) : List Char := Nat.toDigits 10 n

/-- A numeral with zeros in front up to `width` digits. -/
def padded (width n : Nat) : List Char :=
  List.replicate (width - (numeral n).length) '0' ++ numeral n

def hexValue? (c : Char) : Option Nat :=
  if isDigit c then some (digitValue c)
  else if 'a' ≤ c ∧ c ≤ 'f' then some (c.toNat - 'a'.toNat + 10)
  else if 'A' ≤ c ∧ c ≤ 'F' then some (c.toNat - 'A'.toNat + 10)
  else none

/-- The number that a non-empty string of hexadecimal digits denotes. -/
def hexadecimal? (ds : List Char) : Option Nat :=
  if ds = [] then none
  else ds.foldl (fun n c => n.bind fun n => (hexValue? c).map (16 * n + ·)) (some 0)

def hexPadded (width n : Nat) : List Char :=
  let ds := Nat.toDigits 16 n
  List.replicate (width - ds.length) '0' ++ ds

end DerivedQuery.Text
