import DerivedQuery.Text.Digits

/-!
Paths into a tree of settings, as a name writes them: `a.b` leads to an entry of a group, `a[0]` to
the first item of a list and `a[-1]` to its last.
-/

namespace DerivedQuery

/-- One step of a path: to an entry by its name, or to an item by its position, which counts from
the end if it is negative. -/
inductive PathStep where
  | entry (name : String)
  | item (position : Int)
  deriving DecidableEq, Repr

namespace PathStep

def isNameChar (c : Char) : Bool := c.isAlphanum || c == '_' || c == '-' || c == ' '

def isBlank (c : Char) : Bool := c == ' ' || c == '\t'

def readName (s : List Char) : Option (String × List Char) :=
  match s.takeWhile isNameChar with
  | [] => none
  | word => some (String.ofList word, s.dropWhile isNameChar)

/-- A position of 64 bits and the bracket after it. -/
def readPosition (s : List Char) : Option (Int × List Char) := do
  let (negative, body) :=
    match s.dropWhile isBlank with
    | '-' :: rest => (true, rest)
    | rest => (false, rest)
  let (digits, rest) := Text.spanDigits body
  let n ← Text.natural? digits
  let position : Int := if negative then -(n : Int) else n
  if position < -Int.pow 2 63 ∨ Int.pow 2 63 ≤ position then none
  match rest.dropWhile isBlank with
  | ']' :: rest => some (position, rest)
  | _ => none

/-- The steps after the first name. Each takes at least one character of the fuel. -/
def readSteps : Nat → List Char → Option (List PathStep)
  | _, [] => some []
  | fuel + 1, '.' :: rest => do
    let (name, rest) ← readName rest
    return .entry name :: (← readSteps fuel rest)
  | fuel + 1, '[' :: rest => do
    let (position, rest) ← readPosition rest
    return .item position :: (← readSteps fuel rest)
  | _, _ => none

def parse? (s : String) : Option (List PathStep) := do
  let (name, rest) ← readName s.toList
  return .entry name :: (← readSteps rest.length rest)

/-- The steps that a name stands for. A name that is no path stands for itself. -/
def ofName (name : String) : List PathStep := (parse? name).getD [.entry name]

end PathStep

end DerivedQuery
