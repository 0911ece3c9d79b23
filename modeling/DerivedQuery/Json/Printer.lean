import DerivedQuery.Json
import DerivedQuery.Number.Shortest
import DerivedQuery.Text.Digits
import DerivedQuery.Text.Quoted

/-!
Writing a document: as one line of JSON, and as the diagnostic text that names the kind of each
value.
-/

namespace DerivedQuery

def JsonNumber.text : JsonNumber → String
  | .natural n => toString n
  | .negative n => toString n
  | .real x => x.text .document

namespace Json

def escapeChar (c : Char) : List Char :=
  if c = '"' ∨ c = '\\' then ['\\', c]
  else if c.toNat < 0x20 then '\\' :: 'u' :: Text.hexPadded 4 c.toNat
  else [c]

def stringText (s : String) : String :=
  String.ofList ('"' :: s.toList.flatMap escapeChar ++ ['"'])

mutual

/-- The document on one line, without blanks. -/
def text : Json → String
  | .null => "null"
  | .bool true => "true"
  | .bool false => "false"
  | .number n => n.text
  | .string s => stringText s
  | .array items => "[" ++ ",".intercalate (itemTexts items) ++ "]"
  | .object fields => "\x7b" ++ ",".intercalate (fieldTexts fields) ++ "\x7d"

def itemTexts : List Json → List String
  | [] => []
  | x :: rest => x.text :: itemTexts rest

def fieldTexts : List (String × Json) → List String
  | [] => []
  | (k, x) :: rest => (stringText k ++ ":" ++ x.text) :: fieldTexts rest

end

mutual

/-- The document with the kind of every value in front of it. -/
def described : Json → String
  | .null => "Null"
  | .bool true => "Bool(true)"
  | .bool false => "Bool(false)"
  | .number n => "Number(" ++ n.text ++ ")"
  | .string s => "String(" ++ Text.quoted s ++ ")"
  | .array items => "Array [" ++ ", ".intercalate (describedItems items) ++ "]"
  | .object fields => "Object \x7b" ++ ", ".intercalate (describedFields fields) ++ "\x7d"

def describedItems : List Json → List String
  | [] => []
  | x :: rest => x.described :: describedItems rest

def describedFields : List (String × Json) → List String
  | [] => []
  | (k, x) :: rest => (Text.quoted k ++ ": " ++ x.described) :: describedFields rest

end

end Json

end DerivedQuery
