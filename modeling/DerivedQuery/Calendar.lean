import DerivedQuery.Text.Digits
import DerivedQuery.Text.Search

/-!
Dates, times of day and instants. Dates count in the Gregorian calendar without end; an instant with
an offset is moved to universal time through the number of its day.
-/

namespace DerivedQuery

structure Date where
  year : Int
  month : Nat
  day : Nat
  deriving DecidableEq, Repr

/-- A leap second is second 59 with a thousand million nanoseconds or more. -/
structure TimeOfDay where
  hour : Nat
  minute : Nat
  second : Nat
  nanosecond : Nat
  deriving DecidableEq, Repr

structure DateTime where
  date : Date
  time : TimeOfDay
  deriving DecidableEq, Repr

/-- A local date and time with its distance from universal time in seconds. -/
structure ZonedDateTime where
  here : DateTime
  offset : Int
  deriving DecidableEq, Repr

/-- An instant, as date and time in universal time. -/
structure Timestamp where
  utc : DateTime
  deriving DecidableEq, Repr

namespace Date

def isLeapYear (year : Int) : Bool :=
  year % 4 == 0 && (year % 100 != 0 || year % 400 == 0)

def daysInMonth (year : Int) (month : Nat) : Nat :=
  if month = 2 then (if isLeapYear year then 29 else 28)
  else if month = 4 ∨ month = 6 ∨ month = 9 ∨ month = 11 then 30
  else 31

def isValid (d : Date) : Bool :=
  decide (1 ≤ d.month) && decide (d.month ≤ 12) && decide (1 ≤ d.day) &&
    decide (d.day ≤ daysInMonth d.year d.month)

/-- Days since 1 March of the year 0. Years begin in March, so that a leap day ends one. -/
def dayNumber (d : Date) : Int :=
  let year := if d.month ≤ 2 then d.year - 1 else d.year
  let month : Int := (d.month + 9) % 12
  365 * year + year / 4 - year / 100 + year / 400 + (153 * month + 2) / 5 + d.day - 1

/-- The date of a day, found by its place in its period of 400 years. -/
def ofDayNumber (n : Int) : Date :=
  let era := n / 146097
  let dayOfEra := n % 146097
  let yearOfEra := (dayOfEra - dayOfEra / 1460 + dayOfEra / 36524 - dayOfEra / 146096) / 365
  let dayOfYear := dayOfEra - (365 * yearOfEra + yearOfEra / 4 - yearOfEra / 100)
  let shifted := (5 * dayOfYear + 2) / 153
  let day := dayOfYear - (153 * shifted + 2) / 5 + 1
  let month := if shifted < 10 then shifted + 3 else shifted - 9
  { year := yearOfEra + 400 * era + (if month ≤ 2 then 1 else 0)
    month := month.toNat
    day := day.toNat }

/-- Four digits; years outside them carry a sign. -/
def yearText (year : Int) : List Char :=
  if 0 ≤ year ∧ year ≤ 9999 then Text.padded 4 year.toNat
  else (if year < 0 then '-' else '+') :: Text.padded 4 year.natAbs

def chars (d : Date) : List Char :=
  yearText d.year ++ '-' :: Text.padded 2 d.month ++ '-' :: Text.padded 2 d.day

def text (d : Date) : String := String.ofList d.chars

/-- Reads `YYYY-MM-DD`. A year of more digits has a sign in front. -/
def ofChars? (s : List Char) : Option Date := do
  let (sign, body) :=
    match s with
    | '-' :: rest => (some (-1 : Int), rest)
    | '+' :: rest => (some 1, rest)
    | rest => (none, rest)
  match Text.fields '-' body with
  | [y, m, d] =>
    if y.length < 4 ∨ (4 < y.length ∧ sign.isNone) then none
    let year := sign.getD 1 * (← Text.natural? y : Nat)
    let date : Date := ⟨year, ← Text.fixed? 2 m, ← Text.fixed? 2 d⟩
    if date.isValid then some date else none
  | _ => none

def parse? (s : String) : Option Date := ofChars? s.toList

end Date

namespace TimeOfDay

/-- No fraction, or one of 3, 6 or 9 digits: the fewest that hold it. -/
def fractionText (nanosecond : Nat) : List Char :=
  if nanosecond = 0 then []
  else if nanosecond % 1000000 = 0 then '.' :: Text.padded 3 (nanosecond / 1000000)
  else if nanosecond % 1000 = 0 then '.' :: Text.padded 6 (nanosecond / 1000)
  else '.' :: Text.padded 9 nanosecond

def chars (t : TimeOfDay) : List Char :=
  Text.padded 2 t.hour ++ ':' :: Text.padded 2 t.minute ++
    ':' :: Text.padded 2 (t.second + t.nanosecond / 1000000000) ++
    fractionText (t.nanosecond % 1000000000)

def text (t : TimeOfDay) : String := String.ofList t.chars

/-- The first nine digits of a fraction as nanoseconds. -/
def nanoseconds (digits : List Char) : Nat :=
  Text.decimalValue ((digits ++ List.replicate 9 '0').take 9)

def make? (hour minute second nanosecond : Nat) : Option TimeOfDay :=
  if 24 ≤ hour ∨ 60 ≤ minute ∨ 61 ≤ second then none
  else if second = 60 then some ⟨hour, minute, 59, nanosecond + 1000000000⟩
  else some ⟨hour, minute, second, nanosecond⟩

/-- Reads `HH:MM:SS` with an optional fraction. -/
def ofChars? (s : List Char) : Option TimeOfDay :=
  match Text.fields ':' s with
  | [h, m, rest] => do
    match Text.fields '.' rest with
    | [sec] => make? (← Text.fixed? 2 h) (← Text.fixed? 2 m) (← Text.fixed? 2 sec) 0
    | [sec, frac] =>
      let _ ← Text.natural? frac
      make? (← Text.fixed? 2 h) (← Text.fixed? 2 m) (← Text.fixed? 2 sec) (nanoseconds frac)
    | _ => none
  | _ => none

def parse? (s : String) : Option TimeOfDay := ofChars? s.toList

end TimeOfDay

namespace DateTime

def chars (t : DateTime) : List Char := t.date.chars ++ 'T' :: t.time.chars

def text (t : DateTime) : String := String.ofList t.chars

def isDateTimeMark (c : Char) : Bool := c == 'T' || c == 't' || c == ' '

/-- A date and a time with a `T` or a blank between them. -/
def ofChars? (s : List Char) : Option DateTime := do
  let (date, rest) := s.span (!isDateTimeMark ·)
  match rest with
  | [] => none
  | _ :: time => some ⟨← Date.ofChars? date, ← TimeOfDay.ofChars? time⟩

def parse? (s : String) : Option DateTime := ofChars? s.toList

def addSeconds (t : DateTime) (seconds : Int) : DateTime :=
  let total : Int := t.date.dayNumber * 86400 +
    (t.time.hour * 3600 + t.time.minute * 60 + t.time.second : Nat) + seconds
  let rest := (total % 86400).toNat
  { date := Date.ofDayNumber (total / 86400)
    time := ⟨rest / 3600, rest / 60 % 60, rest % 60, t.time.nanosecond⟩ }

end DateTime

namespace ZonedDateTime

/-- Hours and minutes with a sign; seconds only where there are any. -/
def offsetText (offset : Int) : List Char :=
  let n := offset.natAbs
  (if offset < 0 then '-' else '+') :: Text.padded 2 (n / 3600) ++
    ':' :: Text.padded 2 (n / 60 % 60) ++
    (if n % 60 = 0 then [] else ':' :: Text.padded 2 (n % 60))

def text (t : ZonedDateTime) : String := String.ofList (t.here.chars ++ offsetText t.offset)

/-- Reads `Z` or `±HH:MM`. -/
def offset? : List Char → Option Int
  | ['Z'] => some 0
  | ['z'] => some 0
  | '+' :: rest => amount? rest
  | '-' :: rest => (amount? rest).map (- ·)
  | _ => none
where
  amount? (s : List Char) : Option Int :=
    match Text.fields ':' s with
    | [h, m] => do
      let h ← Text.fixed? 2 h
      let m ← Text.fixed? 2 m
      if 24 ≤ h ∨ 60 ≤ m then none else some (h * 3600 + m * 60 : Nat)
    | _ => none

def isOffsetMark (c : Char) : Bool := c == 'Z' || c == 'z' || c == '+' || c == '-'

/-- A date and time followed by its offset. -/
def parse? (s : String) : Option ZonedDateTime := do
  let (date, rest) := s.toList.span (!DateTime.isDateTimeMark ·)
  match rest with
  | [] => none
  | _ :: rest =>
    let (time, zone) := rest.span (!isOffsetMark ·)
    some ⟨⟨← Date.ofChars? date, ← TimeOfDay.ofChars? time⟩, ← offset? zone⟩

end ZonedDateTime

namespace Timestamp

def ofZoned (t : ZonedDateTime) : Timestamp :=
  ⟨if t.offset = 0 then t.here else t.here.addSeconds (-t.offset)⟩

def parse? (s : String) : Option Timestamp :=
  (ZonedDateTime.parse? s).map ofZoned

def text (t : Timestamp) : String := String.ofList (t.utc.chars ++ ['Z'])

end Timestamp

end DerivedQuery
