import DerivedQuery.Text.Case.Table

/-!
Letter case. A name is cut at upper-case characters and its parts begin in lower case, for the whole
of Unicode. ASCII is decided before any table is read, so facts about plain names need no table.
-/

namespace DerivedQuery.Text

/-- General category Lu, as of Unicode 16. -/
def isUpperLetter (c : Char) : Bool :=
  if c.toNat < 0x80 then decide ('A' ≤ c) && decide (c ≤ 'Z')
  else upperLetterSpans.any (·.contains c.toNat)

/-- The property Uppercase, as of Unicode 17: the letters of category Lu, and numerals and enclosed
letters. -/
def isUpper (c : Char) : Bool :=
  isUpperLetter c || newUpperLetterSpans.any (·.contains c.toNat) ||
    upperSymbolSpans.any (·.contains c.toNat)

def shiftChar (c : Char) (offset : Int) : Char :=
  Char.ofNat (c.toNat + offset).toNat

/-- The full lower-case form of one character. Only the dotted capital I has one of two
characters. -/
def lower (c : Char) : List Char :=
  if c.toNat < 0x80 then [if 'A' ≤ c ∧ c ≤ 'Z' then shiftChar c 32 else c]
  else if c.toNat = 0x130 then ['i', '\u0307']
  else
    match lowerShifts.find? (·.1.contains c.toNat) with
    | some (_, offset) => [shiftChar c offset]
    | none => [c]

def uncapitalize : List Char → List Char
  | [] => []
  | c :: s => lower c ++ s

/-- Whether an upper-case character comes next. -/
def startsUpper : List Char → Bool
  | [] => false
  | c :: _ => isUpper c

theorem isUpper_of_isUpperLetter {c : Char} (h : isUpperLetter c = true) : isUpper c = true := by
  simp [isUpper, h]

def lowerAll (s : String) : String :=
  String.ofList (s.toList.flatMap lower)

end DerivedQuery.Text
