import DerivedQuery.Number.Scientific
import DerivedQuery.Settings.Path
import DerivedQuery.Text.Case
import DerivedQuery.Text.Search
import DerivedQuery.Toml

/-!
Where settings come from: a tree of named values, into which a document and the environment are laid
one over the other. Names count without regard to case.
-/

namespace DerivedQuery

inductive Setting where
  | absent
  | boolean (b : Bool)
  | integer (n : Int)
  | float (x : Double)
  | text (s : String)
  | list (items : List Setting)
  | group (entries : List (String × Setting))
  deriving Repr, Inhabited

namespace Setting

/-- The entries of a group; any other value has none. -/
def entries : Setting → List (String × Setting)
  | .group es => es
  | _ => []

/-- The items of a list; any other value has none. -/
def items : Setting → List Setting
  | .list xs => xs
  | _ => []

def get? (s : Setting) (name : String) : Option Setting :=
  (s.entries.find? (·.1 == name)).map (·.2)

def replace (name : String) (value : Setting) : List (String × Setting) → List (String × Setting)
  | [] => [(name, value)]
  | (n, v) :: es => if n = name then (name, value) :: es else (n, v) :: replace name value es

mutual

/-- Lays a value over what a group has under a name. A group is merged entry by entry; any other
value takes the place of the old one. -/
def lay (name : String) (value : Setting) (base : Setting) : Setting :=
  let key := Text.lowerAll name
  match value with
  | .group incoming =>
    .group (replace key (layAll incoming ((base.get? key).getD (.group []))) base.entries)
  | v => .group (replace key v base.entries)

def layAll (incoming : List (String × Setting)) (base : Setting) : Setting :=
  match incoming with
  | [] => base
  | (name, value) :: rest => layAll rest (lay name value base)

end

/-- Changes the item at a position. A list without that position is first filled up with absent
items, at the end, or in front for a position before the first. -/
def changeItem (position : Int) (f : Setting → Setting) (items : List Setting) : List Setting :=
  let n := position.natAbs
  if 0 ≤ position then
    (items ++ List.replicate (n + 1 - items.length) Setting.absent).modify n f
  else (List.replicate (n - items.length) Setting.absent ++ items).modify (items.length - n) f

/-- Lays a value at the end of a path. What stands in the way and is no group or no list, as the
path asks, gives way to one. -/
def layAt : List PathStep → Setting → Setting → Setting
  | [], value, _ => value
  | [.entry name], value, base => lay name value base
  | .entry name :: path, value, base =>
    let key := Text.lowerAll name
    .group (replace key (layAt path value ((base.get? key).getD .absent)) base.entries)
  | .item position :: path, value, base =>
    .list (changeItem position (fun item => layAt path value item) base.items)

mutual

def ofToml : Toml → Setting
  | .string s => .text s
  | .integer n => .integer n
  | .float x => .float x
  | .boolean b => .boolean b
  | .moment t => .text t
  | .array items => .list (ofItems items)
  | .table entries => .group (ofEntries entries)

def ofItems : List Toml → List Setting
  | [] => []
  | x :: rest => ofToml x :: ofItems rest

def ofEntries : List (String × Toml) → List (String × Setting)
  | [] => []
  | (n, x) :: rest => (n, ofToml x) :: ofEntries rest

end

/-- Lays the entries of a source over a base, one after another. -/
def layEntries (source : List (String × Setting)) (base : Setting) : Setting :=
  source.foldl (fun acc (name, value) => layAt (PathStep.ofName name) value acc) base

end Setting

namespace Environment

/-- What the name of a variable begins with, in lower case. -/
def namespaceMark : List Char := "partquery__".toList

/-- Two underscores lead one level down. -/
def dotted : List Char → List Char
  | '_' :: '_' :: rest => '.' :: dotted rest
  | c :: rest => c :: dotted rest
  | [] => []

def float? (s : List Char) : Option Double :=
  let (negative, body) := Text.splitSign s
  let word := body.flatMap Text.lower
  if word = "inf".toList ∨ word = "infinity".toList then some (Double.infinity negative)
  else if word = "nan".toList then some .undefined
  else (Text.scientific? body).map fun (n, e) => Double.ofScientific negative n e

def integer? (s : List Char) : Option Int :=
  (Text.integer? s).filter fun n => decide (-Int.pow 2 63 ≤ n) && decide (n < Int.pow 2 63)

/-- The value of a variable: a truth value, an integer of 64 bits, a double, or else a text. -/
def value (s : String) : Setting :=
  let word := Text.lowerAll s
  if word = "true" then .boolean true
  else if word = "false" then .boolean false
  else
    match integer? s.toList with
    | some n => .integer n
    | none =>
      match float? s.toList with
      | some x => .float x
      | none => .text s

/-- The name and value that a variable sets, if it is one of ours. -/
def entry? (name text : String) : Option (String × Setting) :=
  (Text.dropInitial? namespaceMark (Text.lowerAll name).toList).map fun rest =>
    (String.ofList (dotted rest), value text)

end Environment

end DerivedQuery
