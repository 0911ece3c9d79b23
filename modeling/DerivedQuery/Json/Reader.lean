import DerivedQuery.Json
import DerivedQuery.Text.Digits
import DerivedQuery.Text.Search

/-!
Reading a document. Integers that fit into 64 bits stay integers; every other number becomes the
double of its leading digits, scaled by its power of ten.
-/

namespace DerivedQuery.Json

def isBlank (c : Char) : Bool := c == ' ' || c == '\t' || c == '\n' || c == '\r'

def skipBlank (s : List Char) : List Char := s.dropWhile isBlank

def greatestNatural : Nat := Nat.pow 2 64 - 1

/-- Digits read so far: those that fit into 64 bits, and the power of ten that the others left. -/
structure Significand where
  value : Nat
  exponent : Int

namespace Significand

/-- One more digit before the point; from the first that does not fit on, digits only count. -/
def ofWhole (digits : List Char) : Significand × Bool :=
  digits.foldl
    (fun (acc : Significand × Bool) c =>
      let next := 10 * acc.1.value + Text.digitValue c
      if acc.2 ∨ greatestNatural < next then (⟨acc.1.value, acc.1.exponent + 1⟩, true)
      else (⟨next, acc.1.exponent⟩, false))
    (⟨0, 0⟩, false)

/-- The digits after the point; from the first that does not fit on, they are dropped. -/
def addFraction (s : Significand) : List Char → Significand
  | [] => s
  | c :: rest =>
    let next := 10 * s.value + Text.digitValue c
    if greatestNatural < next then s else addFraction ⟨next, s.exponent - 1⟩ rest

end Significand

/-- A finite double as a quotient of naturals, its sign apart. -/
def ratio (x : Double) : Nat × Nat :=
  match x.magnitude with
  | .finite m q => (m * Nat.pow 2 q.toNat, Nat.pow 2 (-q).toNat)
  | _ => (0, 1)

def isInfinite (x : Double) : Bool := x.magnitude == .infinite

/-- The double `x · 10 ^ e` for a power within range: one rounding for the power, one for the
product. -/
def scaleOnce (x : Double) (e : Int) : Double :=
  let (a, b) := ratio x
  let (p, q) := ratio (Double.ofRatio false (Nat.pow 10 e.natAbs) 1)
  if 0 ≤ e then Double.ofRatio false (a * p) (b * q) else Double.ofRatio false (a * q) (b * p)

/-- Powers of ten beyond those of a double go in steps; too great a number has no reading. -/
def scale (x : Double) (e : Int) : Nat → Option Double
  | 0 => some x
  | steps + 1 =>
    if e.natAbs ≤ 308 then
      let y := scaleOnce x e
      if isInfinite y then none else some y
    else if x.isZero then some x
    else if 0 ≤ e then none
    else scale (scaleOnce x (-308)) (e + 308) steps

def real? (negative : Bool) (s : Significand) : Option JsonNumber :=
  (scale (Double.ofRatio false s.value 1) s.exponent 4).map fun x =>
    .real (if negative then ⟨x.bits ||| 0x8000000000000000⟩ else x)

def readExponent (s : List Char) : Option (Int × List Char) :=
  let (negative, body) :=
    match s with
    | '-' :: rest => (true, rest)
    | '+' :: rest => (false, rest)
    | rest => (false, rest)
  let (digits, rest) := Text.spanDigits body
  (Text.natural? digits).map fun n => (if negative then -(n : Int) else n, rest)

def readNumber (negative : Bool) (s : List Char) : Option (JsonNumber × List Char) := do
  let (whole, rest) := Text.spanDigits s
  if whole = [] ∨ (whole.head? = some '0' ∧ 1 < whole.length) then none
  let (significand, overflowed) := Significand.ofWhole whole
  let (fraction, rest) ←
    match rest with
    | '.' :: more =>
      let (digits, more) := Text.spanDigits more
      if digits = [] then none else some (digits, more)
    | rest => some ([], rest)
  let withFraction := significand.addFraction fraction
  let (exponent, rest) ←
    match rest with
    | 'e' :: more => (readExponent more).map fun (e, more) => (some e, more)
    | 'E' :: more => (readExponent more).map fun (e, more) => (some e, more)
    | rest => some (none, rest)
  let scaled := { withFraction with exponent := withFraction.exponent + exponent.getD 0 }
  let asReal := real? negative scaled
  if fraction = [] ∧ exponent = none ∧ overflowed = false then
    if negative = false then some (.natural significand.value, rest)
    else if 0 < significand.value ∧ significand.value ≤ Nat.pow 2 63 then
      some (.negative (-(significand.value : Int)), rest)
    else asReal.map (·, rest)
  else asReal.map (·, rest)

def readUnit : List Char → Option (Nat × List Char)
  | a :: b :: c :: d :: rest => (Text.hexadecimal? [a, b, c, d]).map (·, rest)
  | _ => none

/-- The character of an escape, after its backslash. A high surrogate needs its low one. -/
def readEscape : List Char → Option (Char × List Char)
  | '"' :: rest => some ('"', rest)
  | '\\' :: rest => some ('\\', rest)
  | '/' :: rest => some ('/', rest)
  | 'b' :: rest => some ('\x08', rest)
  | 'f' :: rest => some ('\x0c', rest)
  | 'n' :: rest => some ('\n', rest)
  | 'r' :: rest => some ('\r', rest)
  | 't' :: rest => some ('\t', rest)
  | 'u' :: rest =>
    match readUnit rest with
    | none => none
    | some (unit, rest) =>
      if 0xD800 ≤ unit ∧ unit ≤ 0xDBFF then
        match rest with
        | '\\' :: 'u' :: more =>
          match readUnit more with
          | some (low, more) =>
            if 0xDC00 ≤ low ∧ low ≤ 0xDFFF then
              some (Char.ofNat (0x10000 + (unit - 0xD800) * 0x400 + (low - 0xDC00)), more)
            else none
          | none => none
        | _ => none
      else if 0xDC00 ≤ unit ∧ unit ≤ 0xDFFF then none
      else some (Char.ofNat unit, rest)
  | _ => none

def readString : Nat → List Char → List Char → Option (String × List Char)
  | 0, _, _ => none
  | _ + 1, _, [] => none
  | fuel + 1, acc, c :: rest =>
    if c = '"' then some (String.ofList acc.reverse, rest)
    else if c = '\\' then
      match readEscape rest with
      | some (d, more) => readString fuel (d :: acc) more
      | none => none
    else if c.toNat < 0x20 then none
    else readString fuel (c :: acc) rest

def greatestDepth : Nat := 127

mutual

/-- One value after blanks. The fuel bounds the characters still to be read. -/
def readValue : Nat → Nat → List Char → Option (Json × List Char)
  | 0, _, _ => none
  | fuel + 1, depth, s =>
    match skipBlank s with
    | 'n' :: 'u' :: 'l' :: 'l' :: rest => some (.null, rest)
    | 't' :: 'r' :: 'u' :: 'e' :: rest => some (.bool true, rest)
    | 'f' :: 'a' :: 'l' :: 's' :: 'e' :: rest => some (.bool false, rest)
    | '"' :: rest => (readString (rest.length + 1) [] rest).map fun (t, rest) => (.string t, rest)
    | '[' :: rest =>
      if greatestDepth ≤ depth then none
      else
        match skipBlank rest with
        | ']' :: rest => some (.array [], rest)
        | _ => (readItems fuel (depth + 1) rest).map fun (xs, rest) => (.array xs, rest)
    | '\x7b' :: rest =>
      if greatestDepth ≤ depth then none
      else
        match skipBlank rest with
        | '\x7d' :: rest => some (.object [], rest)
        | _ => (readFields fuel (depth + 1) rest).map fun (xs, rest) => (ofFields xs, rest)
    | '-' :: rest => (readNumber true rest).map fun (n, rest) => (.number n, rest)
    | rest => (readNumber false rest).map fun (n, rest) => (.number n, rest)

def readItems : Nat → Nat → List Char → Option (List Json × List Char)
  | 0, _, _ => none
  | fuel + 1, depth, s =>
    match readValue fuel depth s with
    | none => none
    | some (x, rest) =>
      match skipBlank rest with
      | ',' :: rest => (readItems fuel depth rest).map fun (xs, rest) => (x :: xs, rest)
      | ']' :: rest => some ([x], rest)
      | _ => none

def readFields : Nat → Nat → List Char → Option (List (String × Json) × List Char)
  | 0, _, _ => none
  | fuel + 1, depth, s =>
    match skipBlank s with
    | '"' :: rest =>
      match readString (rest.length + 1) [] rest with
      | none => none
      | some (key, rest) =>
        match skipBlank rest with
        | ':' :: rest =>
          match readValue fuel depth rest with
          | none => none
          | some (value, rest) =>
            match skipBlank rest with
            | ',' :: rest =>
              (readFields fuel depth rest).map fun (xs, rest) => ((key, value) :: xs, rest)
            | '\x7d' :: rest => some ([(key, value)], rest)
            | _ => none
        | _ => none
    | _ => none

end

def parse? (text : String) : Option Json :=
  let s := text.toList
  match readValue (2 * s.length + 2) 0 s with
  | some (value, rest) => if skipBlank rest = [] then some value else none
  | none => none

end DerivedQuery.Json
