import DerivedQuery.Number.Binary

/-!
Shortest decimals. A binary number is written with the fewest digits that read back as the same
number; of several such the nearest to it is taken, and of two at the same distance the one that the
style of writing asks for.
-/

namespace DerivedQuery

structure Interval where
  low : Nat
  value : Nat
  high : Nat
  den : Nat
  /-- Whether the bounds themselves belong to it. -/
  closed : Bool

inductive Tie where
  | up
  | toEven
  deriving DecidableEq, Repr

def Tie.goesDown : Tie → Nat → Bool
  | .up, _ => false
  | .toEven, below => below % 2 == 0

/-- A decimal `0.d₁d₂… · 10 ^ point`. -/
structure DecimalDigits where
  digits : List Char
  point : Int
  deriving DecidableEq, Repr

/-- The numbers that round to `m · 2 ^ q`. Below a power of two the neighbour is at half the
distance. -/
def BinaryFormat.interval (f : BinaryFormat) (m : Nat) (q : Int) : Interval :=
  let lowGap := if m = Nat.pow 2 (f.precision - 1) ∧ f.leastExponent < q then 1 else 2
  let scale := Nat.pow 2 (q - 2).toNat
  { low := (4 * m - lowGap) * scale
    value := 4 * m * scale
    high := (4 * m + 2) * scale
    den := Nat.pow 2 (2 - q).toNat
    closed := m % 2 = 0 }

namespace Interval

def holds (i : Interval) (n : Nat) (k : Int) : Bool :=
  let x := n * Nat.pow 10 k.toNat * i.den
  let by10 := Nat.pow 10 (-k).toNat
  if i.closed then decide (i.low * by10 ≤ x) && decide (x ≤ i.high * by10)
  else decide (i.low * by10 < x) && decide (x < i.high * by10)

/-- The multiple of `10 ^ k` inside that is nearest to the value, if one is inside. -/
def onGrid? (i : Interval) (tie : Tie) (k : Int) : Option Nat :=
  let den := i.den * Nat.pow 10 k.toNat
  let num := i.value * Nat.pow 10 (-k).toNat
  let below := num / den
  let takesBelow := i.holds below k && decide (0 < below)
  let takesAbove := i.holds (below + 1) k
  let twice := 2 * (num % den)
  let nearerBelow := decide (twice < den) || (twice == den && tie.goesDown below)
  if takesBelow && (!takesAbove || nearerBelow) then some below
  else if takesAbove then some (below + 1)
  else none

/-- The number of decimal places before the point, for a value of at least one; the negated number
of zeros after it for a smaller one. -/
def point (i : Interval) : Int :=
  if i.den ≤ i.value then (Nat.toDigits 10 (i.value / i.den)).length
  else 1 - (Nat.toDigits 10 ((i.den - 1) / i.value)).length

def shortest (i : Interval) (tie : Tie) : Nat → Int → Nat × Int
  | 0, k => ((i.onGrid? tie k).getD 0, k)
  | fuel + 1, k =>
    match i.onGrid? tie k with
    | some n => (n, k)
    | none => i.shortest tie fuel (k - 1)

end Interval

def dropTrailingZeros (ds : List Char) : List Char :=
  (ds.reverse.dropWhile (· == '0')).reverse

/-- The fewest digits that read back as `m · 2 ^ q`, for `m > 0`. -/
def BinaryFormat.shortest (f : BinaryFormat) (tie : Tie) (m : Nat) (q : Int) : DecimalDigits :=
  let i := f.interval m q
  let (n, k) := i.shortest tie 20 (i.point + 1)
  let ds := Nat.toDigits 10 n
  { digits := dropTrailingZeros ds, point := k + ds.length }

/-- A style of writing. Positional writing begins and ends with the least and the greatest place of
the first digit, counted from the units; beyond them an exponent is written. -/
structure FloatStyle where
  leastPlace : Int
  greatestPlace : Int
  tie : Tie
  /-- Whether an exponent that is not negative has a sign. -/
  signsExponent : Bool

namespace FloatStyle

/-- Diagnostics write numbers from 0.0001 to below 10 ^ 16 positionally, and round a tie up. -/
def diagnostic : FloatStyle := ⟨-4, 15, .up, false⟩

/-- Documents write numbers from 0.00001 to below 10 ^ 16 positionally, round a tie to an even
digit, and give every exponent its sign. -/
def document : FloatStyle := ⟨-5, 15, .toEven, true⟩

def positional (d : DecimalDigits) : List Char :=
  if d.point ≤ 0 then ['0', '.'] ++ List.replicate (-d.point).toNat '0' ++ d.digits
  else
    let whole := d.point.toNat
    if d.digits.length ≤ whole then
      d.digits ++ List.replicate (whole - d.digits.length) '0' ++ ['.', '0']
    else d.digits.take whole ++ '.' :: d.digits.drop whole

def exponential (style : FloatStyle) (d : DecimalDigits) : List Char :=
  let mantissa :=
    match d.digits with
    | [] => ['0']
    | [c] => [c]
    | c :: rest => c :: '.' :: rest
  let place := d.point - 1
  let plus := if style.signsExponent ∧ 0 ≤ place then ['+'] else []
  mantissa ++ 'e' :: plus ++ (toString place).toList

def digitsText (style : FloatStyle) (d : DecimalDigits) : List Char :=
  let place := d.point - 1
  if style.leastPlace ≤ place ∧ place ≤ style.greatestPlace then positional d
  else style.exponential d

def text (style : FloatStyle) (f : BinaryFormat) (negative : Bool) : Magnitude → String
  | .undefined => "NaN"
  | .infinite => if negative then "-inf" else "inf"
  | .finite m q =>
    let body := if m = 0 then ['0', '.', '0'] else style.digitsText (f.shortest style.tie m q)
    String.ofList (if negative then '-' :: body else body)

end FloatStyle

def Double.text (style : FloatStyle) (x : Double) : String :=
  style.text .double x.isNegative x.magnitude

def Single.text (style : FloatStyle) (x : Single) : String :=
  style.text .single x.isNegative x.magnitude

end DerivedQuery
