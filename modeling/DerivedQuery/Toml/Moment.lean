import DerivedQuery.Calendar

/-!
Moments of a TOML document: a date, a time of day, or a date and a time with an offset or without.
They are checked and kept as they are written.
-/

namespace DerivedQuery.Toml

/-- How far hours and offsets may go. -/
structure MomentLimits where
  greatestHour : Nat
  offsetFits : (hours minutes : Nat) → Bool

namespace MomentLimits

/-- The limits on a moment that stands in a document as it is. -/
def plain : MomentLimits := ⟨23, fun h m => decide (h ≤ 23) && decide (m ≤ 59)⟩

/-- The limits on a moment that a string holds: a day may end with hour 24, and an offset is at most
a day in all. -/
def held : MomentLimits := ⟨24, fun h m => decide (60 * h + m ≤ 1440)⟩

end MomentLimits

namespace Moment

def pair? (s : List Char) : Option (Nat × List Char) :=
  (Text.fixed? 2 (s.take 2)).map (·, s.drop 2)

def afterDate? (s : List Char) : Option (List Char) := do
  let year ← Text.fixed? 4 (s.take 4)
  match s.drop 4 with
  | '-' :: rest =>
    let (month, rest) ← pair? rest
    match rest with
    | '-' :: rest =>
      let (day, rest) ← pair? rest
      if Date.isValid ⟨year, month, day⟩ then some rest else none
    | _ => none
  | _ => none

/-- The text after the fraction of a second, which has a digit if there is any. -/
def afterFraction? (s : List Char) : Option (List Char) :=
  match s with
  | '.' :: rest =>
    match Text.spanDigits rest with
    | ([], _) => none
    | (_, rest) => some rest
  | rest => some rest

/-- The text after a time of day. Second 60 is a leap second. -/
def afterTime? (limits : MomentLimits) (s : List Char) : Option (List Char) := do
  let (hour, rest) ← pair? s
  match rest with
  | ':' :: rest =>
    let (minute, rest) ← pair? rest
    match rest with
    | ':' :: rest =>
      let (second, rest) ← pair? rest
      let rest ← afterFraction? rest
      if hour ≤ limits.greatestHour ∧ minute ≤ 59 ∧ second ≤ 60 then some rest else none
    | _ => none
  | _ => none

def isOffset (limits : MomentLimits) (s : List Char) : Bool :=
  match s with
  | [] => true
  | ['Z'] => true
  | ['z'] => true
  | sign :: rest =>
    match Text.fields ':' rest with
    | [h, m] =>
      match Text.fixed? 2 h, Text.fixed? 2 m with
      | some h, some m => (sign == '+' || sign == '-') && limits.offsetFits h m
      | _, _ => false
    | _ => false

/-- What may stand between a date and a time. -/
def isMark (c : Char) : Bool := c == 'T' || c == 't' || c == ' '

/-- Whether the whole text is a moment. -/
def isValid (limits : MomentLimits) (s : List Char) : Bool :=
  match afterDate? s with
  | some [] => true
  | some (mark :: rest) => isMark mark && (afterTime? limits rest).any (isOffset limits)
  | none => afterTime? limits s == some []

end Moment

end DerivedQuery.Toml
