/-!
Binary floating-point numbers as their bits. A finite number is `m · 2 ^ q` with natural `m`, and
`ofRatio` rounds a quotient of naturals to the nearest such number, a tie going to the even `m`.
-/

namespace DerivedQuery

/-- A width of binary floating point: the bits of the significand, the leading one included, and
of the exponent field. -/
structure BinaryFormat where
  precision : Nat
  exponentBits : Nat

def BinaryFormat.double : BinaryFormat := ⟨53, 11⟩

def BinaryFormat.single : BinaryFormat := ⟨24, 8⟩

namespace BinaryFormat

def leastExponent (f : BinaryFormat) : Int :=
  3 - (Nat.pow 2 (f.exponentBits - 1) : Nat) - f.precision

/-- The exponent field of infinities and of what is no number. -/
def topField (f : BinaryFormat) : Nat := Nat.pow 2 f.exponentBits - 1

end BinaryFormat

/-- What a bit pattern stands for, its sign apart. -/
inductive Magnitude where
  | finite (m : Nat) (q : Int)
  | infinite
  | undefined
  deriving DecidableEq, Repr

namespace BinaryFormat

def isNegative (f : BinaryFormat) (bits : Nat) : Bool :=
  bits.testBit (f.precision + f.exponentBits - 1)

def magnitude (f : BinaryFormat) (bits : Nat) : Magnitude :=
  let fraction := bits % Nat.pow 2 (f.precision - 1)
  let field := bits / Nat.pow 2 (f.precision - 1) % Nat.pow 2 f.exponentBits
  if field = f.topField then if fraction = 0 then .infinite else .undefined
  else if field = 0 then .finite fraction f.leastExponent
  else .finite (Nat.pow 2 (f.precision - 1) + fraction) (f.leastExponent + field - 1)

/-- The bits of `m · 2 ^ q` for a significand in range, infinity when the exponent is not. -/
def assemble (f : BinaryFormat) (m : Nat) (q : Int) : Nat :=
  if m < Nat.pow 2 (f.precision - 1) then m
  else
    let field := (q - f.leastExponent + 1).toNat
    if f.topField ≤ field then f.topField * Nat.pow 2 (f.precision - 1)
    else field * Nat.pow 2 (f.precision - 1) + (m - Nat.pow 2 (f.precision - 1))

/-- The quotient rounded to a natural number, a tie going to the even neighbour. -/
def roundQuotient (num den : Nat) : Nat :=
  let floor := num / den
  let twice := 2 * (num % den)
  if den < twice ∨ (twice = den ∧ floor % 2 = 1) then floor + 1 else floor

/-- The bits of the number nearest to `num / den`. -/
def ofRatio (f : BinaryFormat) (num den : Nat) : Nat :=
  if num = 0 then 0
  else
    let guess : Int := (num.log2 : Int) - den.log2 - f.precision
    let attempt (q : Int) : Nat :=
      if 0 ≤ q then roundQuotient num (den * Nat.pow 2 q.toNat)
      else roundQuotient (num * Nat.pow 2 (-q).toNat) den
    -- the quotient has `precision` or `precision + 1` bits at the guess
    let q := max guess f.leastExponent
    let m := attempt q
    if m < Nat.pow 2 f.precision then f.assemble m q
    else
      let m' := attempt (q + 1)
      if m' < Nat.pow 2 f.precision then f.assemble m' (q + 1)
      else f.assemble (Nat.pow 2 (f.precision - 1)) (q + 2)

end BinaryFormat

structure Double where
  bits : UInt64
  deriving DecidableEq, Repr

structure Single where
  bits : UInt32
  deriving DecidableEq, Repr

namespace Double

def isNegative (x : Double) : Bool := BinaryFormat.double.isNegative x.bits.toNat

def magnitude (x : Double) : Magnitude := BinaryFormat.double.magnitude x.bits.toNat

/-- No value at all: the pattern of an undefined result. -/
def isUndefined (x : Double) : Bool := x.magnitude == .undefined

def isZero (x : Double) : Bool := x.bits == 0 || x.bits == 0x8000000000000000

def ofRatio (negative : Bool) (num den : Nat) : Double :=
  let bits := BinaryFormat.double.ofRatio num den
  ⟨.ofNat (if negative then bits + Nat.pow 2 63 else bits)⟩

def ofScaled (negative : Bool) (m : Nat) (q : Int) : Double :=
  if 0 ≤ q then ofRatio negative (m * Nat.pow 2 q.toNat) 1
  else ofRatio negative m (Nat.pow 2 (-q).toNat)

/-- The natural number up to `greatest` that is nearest, the upper one of two. What is undefined
counts as 0. -/
def nearestNatural (greatest : Nat) (x : Double) : Nat :=
  if x.isNegative then 0
  else
    match x.magnitude with
    | .undefined => 0
    | .infinite => greatest
    | .finite m q =>
      let half := Nat.pow 2 (-q).toNat
      min greatest ((2 * m * Nat.pow 2 q.toNat + half) / (2 * half))

def infinity (negative : Bool) : Double :=
  ⟨if negative then 0xFFF0000000000000 else 0x7FF0000000000000⟩

def undefined : Double := ⟨0x7FF8000000000000⟩

end Double

namespace Single

def isNegative (x : Single) : Bool := BinaryFormat.single.isNegative x.bits.toNat

def magnitude (x : Single) : Magnitude := BinaryFormat.single.magnitude x.bits.toNat

/-- The same number in double width, which holds every single. -/
def toDouble (x : Single) : Double :=
  match x.magnitude with
  | .finite m q => Double.ofScaled x.isNegative m q
  | .infinite => Double.infinity x.isNegative
  | .undefined => Double.undefined

end Single

end DerivedQuery
