import DerivedQuery.Toml

/-!
The tables of a document while it is read. A table that a header names is closed to other headers
and to dotted keys; one that only leads to others is open; one that dotted keys make is theirs
alone.
-/

namespace DerivedQuery.Toml

/-- How a table came to be: on the way to another, by dotted keys, or by a header. -/
inductive Origin where
  | passing
  | dotted
  | header
  deriving DecidableEq, Repr

inductive Node where
  | value (v : Toml)
  | table (origin : Origin) (entries : List (String × Node))
  | tables (items : List (List (String × Node)))

abbrev Entries := List (String × Node)

namespace Entries

def get? (key : String) (es : Entries) : Option Node := (es.find? (·.1 == key)).map (·.2)

/-- Puts a node under a key, in its place if the key is there. -/
def put (key : String) (n : Node) : Entries → Entries
  | [] => [(key, n)]
  | (k, m) :: es => if k = key then (k, n) :: es else (k, m) :: put key n es

/-- Changes the table at the end of a path, which is made if need be; the change sees the origin of
that table. Dotted keys do not enter tables that a header names. -/
def change (forDotted : Bool) (f : Origin → Entries → Option Entries) :
    List String → Origin → Entries → Option Entries
  | [], origin, es => f origin es
  | key :: path, _, es =>
    match es.get? key with
    | none => do
      let origin := if forDotted then Origin.dotted else .passing
      return es.put key (.table origin (← change forDotted f path origin []))
    | some (.value _) => none
    | some (.table origin inner) =>
      if forDotted ∧ origin = .header then none
      else do return es.put key (.table origin (← change forDotted f path origin inner))
    | some (.tables items) =>
      match items.getLast? with
      | none => none
      | some last => do
        return es.put key (.tables (items.dropLast ++ [← change forDotted f path .header last]))

def add (key : String) (v : Toml) (es : Entries) : Option Entries :=
  if (es.get? key).isSome then none else some (es.put key (.value v))

/-- Adds a value under a dotted key: the keys in front lead through tables of dotted keys only. -/
def addDotted (path : List String) (key : String) (v : Toml) (es : Entries) : Option Entries :=
  change true (fun origin inner =>
    if path ≠ [] ∧ origin ≠ .dotted then none else inner.add key v) path .header es

/-- Adds a value to the table that the last header names. -/
def addUnder (header path : List String) (key : String) (v : Toml) (es : Entries) :
    Option Entries :=
  change false (fun _ inner => inner.addDotted path key v) header .header es

/-- Opens the table of a header, once. A table that has led to others moves to the end. -/
def openTable (path : List String) (key : String) (es : Entries) : Option Entries :=
  change false (fun _ inner =>
    match inner.get? key with
    | none => some (inner.put key (.table .header []))
    | some (.table .passing entries) =>
      some (inner.filter (·.1 != key) ++ [(key, .table .header entries)])
    | some _ => none) path .header es

/-- Opens one more table of an array of tables. -/
def openElement (path : List String) (key : String) (es : Entries) : Option Entries :=
  change false (fun _ inner =>
    match inner.get? key with
    | none => some (inner.put key (.tables [[]]))
    | some (.tables items) => some (inner.put key (.tables (items ++ [[]])))
    | some _ => none) path .header es

end Entries

mutual

def Node.toToml : Node → Toml
  | .value v => v
  | .table _ entries => .table (entriesToToml entries)
  | .tables items => .array (itemsToToml items)

def entriesToToml : List (String × Node) → List (String × Toml)
  | [] => []
  | (k, n) :: es => (k, n.toToml) :: entriesToToml es

def itemsToToml : List (List (String × Node)) → List Toml
  | [] => []
  | es :: rest => .table (entriesToToml es) :: itemsToToml rest

end

end DerivedQuery.Toml
