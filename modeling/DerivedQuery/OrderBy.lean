/-!
Orderings and page requests, the arguments of a call that shape its statement and are bound to no
tag.
-/

namespace DerivedQuery

inductive Direction where
  | asc
  | desc
  deriving DecidableEq, Repr

def Direction.text : Direction → String
  | .asc => "ASC"
  | .desc => "DESC"

/-- One key of an ordering; `ignoreCase` compares it in lower case. -/
structure SortKey where
  property : String
  direction : Direction := .asc
  ignoreCase : Bool := false
  deriving DecidableEq, Repr

/-- Rows are ordered by the first key, and where it leaves a tie by the next. -/
structure OrderBy where
  keys : List SortKey := []
  deriving DecidableEq, Repr

namespace OrderBy

def ascending (properties : List String) : OrderBy :=
  ⟨properties.map fun p => { property := p }⟩

def append (o p : OrderBy) : OrderBy := ⟨o.keys ++ p.keys⟩

def isSorted (o : OrderBy) : Bool := !o.keys.isEmpty

end OrderBy

/-- A page of `size` rows, counted from page 0. -/
structure PageRequest where
  page : UInt64
  size : UInt64
  orderBy : OrderBy := {}
  deriving DecidableEq, Repr

/-- The greatest count of rows that a statement can name. -/
def greatestCount : Nat := Nat.pow 2 64 - 1

/-- The rows before the page, at most `greatestCount` of them. -/
def PageRequest.offset (p : PageRequest) : Nat :=
  min (p.page.toNat * p.size.toNat) greatestCount

end DerivedQuery
