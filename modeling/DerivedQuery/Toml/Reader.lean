import DerivedQuery.Number.Scientific
import DerivedQuery.Toml.Moment
import DerivedQuery.Toml.Outline

/-!
Reading a TOML document. Each line holds a header, a key with its value, or nothing; arrays and long
strings run over several lines. The fuel of each reader is the number of characters left to it.
-/

namespace DerivedQuery.Toml

def isSpace (c : Char) : Bool := c == ' ' || c == '\t'

def skipSpace (s : List Char) : List Char := s.dropWhile isSpace

/-- The text after a line feed, which a carriage return may precede. -/
def afterNewline? : List Char → Option (List Char)
  | '\n' :: rest => some rest
  | '\r' :: '\n' :: rest => some rest
  | _ => none

/-- Characters that may not stand in a document as they are, the line feed and the tab apart. -/
def isControl (c : Char) : Bool :=
  (decide (c.toNat < 0x20) && c != '\t') || c.toNat == 0x7F

def skipComment (s : List Char) : List Char :=
  match skipSpace s with
  | '#' :: rest => rest.dropWhile (!isControl ·)
  | rest => rest

/-- The text after the end of a line, or nothing at the end of the document. -/
def endLine (s : List Char) : Option (List Char) :=
  match skipComment s with
  | [] => some []
  | rest => afterNewline? rest

def skipFiller : Nat → List Char → List Char
  | 0, s => s
  | fuel + 1, s =>
    let rest := skipComment s
    match afterNewline? rest with
    | some rest => skipFiller fuel rest
    | none => rest

/-- A character by its number, unless it is a surrogate or too great. -/
def charOf? (n : Nat) : Option Char := if n.isValidChar then some (Char.ofNat n) else none

def readEscape : List Char → Option (Char × List Char)
  | 'b' :: rest => some ('\x08', rest)
  | 't' :: rest => some ('\t', rest)
  | 'n' :: rest => some ('\n', rest)
  | 'f' :: rest => some ('\x0c', rest)
  | 'r' :: rest => some ('\r', rest)
  | '"' :: rest => some ('"', rest)
  | '\\' :: rest => some ('\\', rest)
  | 'u' :: rest => code 4 rest
  | 'U' :: rest => code 8 rest
  | _ => none
where
  code (width : Nat) (s : List Char) : Option (Char × List Char) :=
    if s.length < width then none
    else ((Text.hexadecimal? (s.take width)).bind charOf?).map (·, s.drop width)

/-- A string on one line, up to its closing `quote`. Only double quotes have escapes. -/
def readLine (quote : Char) : Nat → List Char → List Char → Option (String × List Char)
  | 0, _, _ => none
  | _ + 1, _, [] => none
  | fuel + 1, acc, c :: rest =>
    if c = quote then some (String.ofList acc.reverse, rest)
    else if c = '\\' ∧ quote = '"' then
      match readEscape rest with
      | some (d, rest) => readLine quote fuel (d :: acc) rest
      | none => none
    else if isControl c then none
    else readLine quote fuel (c :: acc) rest

def skipLines : Nat → List Char → List Char
  | 0, s => s
  | fuel + 1, s =>
    let rest := skipSpace s
    match afterNewline? rest with
    | some rest => skipLines fuel rest
    | none => rest

/-- Passes over blanks and line ends after a backslash at the end of a line. -/
def skipFold (s : List Char) : Option (List Char) :=
  (afterNewline? (skipSpace s)).map fun rest => skipLines (rest.length + 1) rest

/-- A string over several lines, up to three closing quotes, of which it may hold two itself. -/
def readLines (quote : Char) : Nat → List Char → List Char → Option (String × List Char)
  | 0, _, _ => none
  | _ + 1, _, [] => none
  | fuel + 1, acc, c :: rest =>
    if c = quote then
      let quotes := 1 + (rest.takeWhile (· == quote)).length
      let rest := rest.dropWhile (· == quote)
      if 5 < quotes then none
      else if 3 ≤ quotes then
        some (String.ofList (List.replicate (quotes - 3) quote ++ acc).reverse, rest)
      else readLines quote fuel (List.replicate quotes quote ++ acc) rest
    else if c = '\\' ∧ quote = '"' then
      match skipFold rest with
      | some rest => readLines quote fuel acc rest
      | none =>
        match readEscape rest with
        | some (d, rest) => readLines quote fuel (d :: acc) rest
        | none => none
    else
      match afterNewline? (c :: rest) with
      | some rest => readLines quote fuel ('\n' :: acc) rest
      | none => if isControl c then none else readLines quote fuel (c :: acc) rest

def dropFirstNewline (s : List Char) : List Char := (afterNewline? s).getD s

def readString (s : List Char) : Option (String × List Char) :=
  let fuel := s.length + 1
  match s with
  | '"' :: '"' :: '"' :: rest => readLines '"' fuel [] (dropFirstNewline rest)
  | '\'' :: '\'' :: '\'' :: rest => readLines '\'' fuel [] (dropFirstNewline rest)
  | '"' :: rest => readLine '"' fuel [] rest
  | '\'' :: rest => readLine '\'' fuel [] rest
  | _ => none

def isBareKeyChar (c : Char) : Bool := c.isAlphanum || c == '_' || c == '-'

/-- One key: a bare word or a string on one line. -/
def readKey (s : List Char) : Option (String × List Char) :=
  match s with
  | '"' :: rest => readLine '"' (rest.length + 1) [] rest
  | '\'' :: rest => readLine '\'' (rest.length + 1) [] rest
  | s =>
    match s.takeWhile isBareKeyChar with
    | [] => none
    | word => some (String.ofList word, s.dropWhile isBareKeyChar)

/-- Keys with dots between, blanks allowed around the dots: those in front, and the last. -/
def readKeys : Nat → List Char → Option ((List String × String) × List Char)
  | 0, _ => none
  | fuel + 1, s =>
    match readKey (skipSpace s) with
    | none => none
    | some (key, rest) =>
      match skipSpace rest with
      | '.' :: more =>
        (readKeys fuel more).map fun ((path, last), rest) => ((key :: path, last), rest)
      | _ => some (([], key), rest)

/-- How many keys one path may have, and how many arrays and tables in braces may hold a value. -/
def greatestDepth : Nat := 79

def readKeyPath (s : List Char) : Option ((List String × String) × List Char) :=
  (readKeys (s.length + 1) s).filter fun ((path, _), _) => path.length < greatestDepth

/-- Digits with single underscores between them, which are left out. -/
def ungroup (s : List Char) : Option (List Char) :=
  let groups := Text.fields '_' s
  if [] ∈ groups then none else some groups.flatten

def decimal? (s : List Char) : Option Nat := do
  let ds ← ungroup s
  if ds.head? = some '0' ∧ 1 < ds.length then none
  Text.natural? ds

def based? (base : Nat) (s : List Char) : Option Nat := do
  let ds ← ungroup s
  ds.foldlM (fun n c => do
    let d ← Text.hexValue? c
    if d < base then some (base * n + d) else none) 0

def integer? (s : List Char) : Option Toml := do
  let n : Int ←
    match s with
    | '0' :: 'x' :: rest => (based? 16 rest).map Int.ofNat
    | '0' :: 'o' :: rest => (based? 8 rest).map Int.ofNat
    | '0' :: 'b' :: rest => (based? 2 rest).map Int.ofNat
    | s =>
      let (negative, ds) := Text.splitSign s
      (decimal? ds).map fun n => if negative then -(n : Int) else n
  if -Int.pow 2 63 ≤ n ∧ n < Int.pow 2 63 then some (.integer n) else none

/-- A number with a fraction or an exponent. Too great a positive number is none. -/
def float? (s : List Char) : Option Toml := do
  let (negative, body) := Text.splitSign s
  match body with
  | ['i', 'n', 'f'] => some (.float (Double.infinity negative))
  | ['n', 'a', 'n'] => some (.float .undefined)
  | body =>
    let (number, rest) := body.span (!Text.isExponentMark ·)
    let (whole, shift) ←
      match Text.fields '.' number with
      | [whole] => if rest = [] then none else (decimal? whole).map (·, (0 : Int))
      | [whole, part] => do
        let _ ← decimal? whole
        let ds ← ungroup part
        let n ← Text.natural? ((← ungroup whole) ++ (← (Text.natural? ds).map fun _ => ds))
        some (n, -(ds.length : Int))
      | _ => none
    let exponent ←
      match rest with
      | [] => some 0
      | _ :: e => do
        let (minus, ds) := Text.splitSign e
        let n ← Text.natural? (← ungroup ds)
        some (if minus then -(n : Int) else n)
    let x := Double.ofScientific negative whole (shift + exponent)
    if x = Double.infinity false then none else some (.float x)

def isWordChar (c : Char) : Bool :=
  c.isAlphanum || c == '_' || c == '-' || c == '+' || c == '.' || c == ':'

/-- A date may have its time after a single blank. -/
def word (s : List Char) : List Char × List Char :=
  let first := s.takeWhile isWordChar
  match s.dropWhile isWordChar with
  | ' ' :: c :: rest =>
    if Moment.afterDate? first = some [] ∧ Text.isDigit c = true then
      (first ++ ' ' :: (c :: rest).takeWhile isWordChar, (c :: rest).dropWhile isWordChar)
    else (first, ' ' :: c :: rest)
  | rest => (first, rest)

def readWord (s : List Char) : Option (Toml × List Char) :=
  let (w, rest) := word s
  let value :=
    if w = ['t', 'r', 'u', 'e'] then some (Toml.boolean true)
    else if w = ['f', 'a', 'l', 's', 'e'] then some (.boolean false)
    else if Moment.isValid .plain w then some (.moment (String.ofList w))
    else (integer? w).or (float? w)
  value.map (·, rest)

mutual

def readValue : Nat → Nat → List Char → Option (Toml × List Char)
  | 0, _, _ => none
  | fuel + 1, depth, s =>
    match s, depth with
    | '"' :: _, _ => (readString s).map fun (t, rest) => (.string t, rest)
    | '\'' :: _, _ => (readString s).map fun (t, rest) => (.string t, rest)
    | '[' :: _, 0 => none
    | '[' :: rest, depth + 1 =>
      (readItems fuel depth rest).map fun (xs, rest) => (.array xs, rest)
    | '\x7b' :: _, 0 => none
    | '\x7b' :: rest, depth + 1 =>
      match skipSpace rest with
      | '\x7d' :: rest => some (.table [], rest)
      | rest =>
        (readInline fuel depth [] rest).map fun (es, rest) => (.table (entriesToToml es), rest)
    | s, _ => readWord s

def readItems : Nat → Nat → List Char → Option (List Toml × List Char)
  | 0, _, _ => none
  | fuel + 1, depth, s =>
    match skipFiller (s.length + 1) s with
    | ']' :: rest => some ([], rest)
    | s =>
      match readValue fuel depth s with
      | none => none
      | some (v, rest) =>
        match skipFiller (rest.length + 1) rest with
        | ',' :: rest => (readItems fuel depth rest).map fun (vs, rest) => (v :: vs, rest)
        | ']' :: rest => some ([v], rest)
        | _ => none

def readInline : Nat → Nat → Entries → List Char → Option (Entries × List Char)
  | 0, _, _, _ => none
  | fuel + 1, depth, es, s =>
    match readKeyPath s with
    | none => none
    | some ((path, key), rest) =>
      match skipSpace rest with
      | '=' :: rest =>
        match readValue fuel depth (skipSpace rest) with
        | none => none
        | some (v, rest) =>
          match es.addDotted path key v with
          | none => none
          | some es =>
            match skipSpace rest with
            | ',' :: rest => readInline fuel depth es rest
            | '\x7d' :: rest => some (es, rest)
            | _ => none
      | _ => none

end

/-- One line: the tables after it, the header that is in force, and the text that is left. -/
def readStatement (header : List String) (es : Entries) (s : List Char) :
    Option (List String × Entries × List Char) := do
  match skipSpace s with
  | '[' :: '[' :: rest =>
    let ((path, key), rest) ← readKeyPath rest
    match skipSpace rest with
    | ']' :: ']' :: rest => return (path ++ [key], ← es.openElement path key, ← endLine rest)
    | _ => none
  | '[' :: rest =>
    let ((path, key), rest) ← readKeyPath rest
    match skipSpace rest with
    | ']' :: rest => return (path ++ [key], ← es.openTable path key, ← endLine rest)
    | _ => none
  | s =>
    match skipComment s with
    | [] => return (header, es, [])
    | rest =>
      match afterNewline? rest with
      | some rest => return (header, es, rest)
      | none =>
        let ((path, key), rest) ← readKeyPath s
        match skipSpace rest with
        | '=' :: rest =>
          let (v, rest) ← readValue (2 * rest.length + 2) greatestDepth (skipSpace rest)
          return (header, ← es.addUnder header path key v, ← endLine rest)
        | _ => none

def readDocument : Nat → List String → Entries → List Char → Option Entries
  | _, _, es, [] => some es
  | 0, _, _, _ :: _ => none
  | fuel + 1, header, es, s =>
    match readStatement header es s with
    | none => none
    | some (header, es, rest) => readDocument fuel header es rest

/-- The key that makes a table stand for the moment under it, where it is the first key. -/
def momentKey : String := "$__toml_private_datetime"

mutual

/-- Puts moments in place of the tables that stand for them. -/
def resolve? : Toml → Option Toml
  | .array items => (resolveItems? items).map .array
  | .table [] => some (.table [])
  | .table ((key, v) :: entries) =>
    if key = momentKey then
      match v with
      | .string t => if Moment.isValid .held t.toList then some (.moment t) else none
      | _ => none
    else do return .table ((key, ← resolve? v) :: (← resolveEntries? entries))
  | v => some v

def resolveItems? : List Toml → Option (List Toml)
  | [] => some []
  | v :: rest => do return (← resolve? v) :: (← resolveItems? rest)

def resolveEntries? : List (String × Toml) → Option (List (String × Toml))
  | [] => some []
  | (key, v) :: rest => do return (key, ← resolve? v) :: (← resolveEntries? rest)

end

/-- The root table of a document. A byte order mark in front is passed over. -/
def parse? (text : String) : Option (List (String × Toml)) := do
  let s :=
    match text.toList with
    | '\uFEFF' :: rest => rest
    | s => s
  let es ← readDocument (s.length + 1) [] [] s
  match ← resolve? (.table (entriesToToml es)) with
  | .table entries => some entries
  | _ => none

end DerivedQuery.Toml
