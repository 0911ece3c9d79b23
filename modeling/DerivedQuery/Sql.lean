/-!
The text of statements. Conditions are alternatives of joint comparisons, each group in parentheses;
values stand in them only as references to tags.
-/

namespace DerivedQuery.Sql

def tagName (n : Nat) : String := "tag" ++ toString n

def reference (n : Nat) : String := "@" ++ tagName n

def lower (expression : String) : String := "LOWER(" ++ expression ++ ")"

def group (comparisons : List String) : String := "( " ++ " AND ".intercalate comparisons ++ " )"

def condition (groups : List (List String)) : String := " OR ".intercalate (groups.map group)

/-- The rows of a table that meet a condition, in order, from `offset` on and at most `limit` of
them. -/
structure Select where
  distinct : Bool
  columns : List String
  table : String
  condition : Option String
  orderBy : List String
  limit : Option Nat
  offset : Option Nat
  deriving DecidableEq, Repr

/-- A clause with its keyword, where there is one. -/
def clause (keyword : String) : Option String → String
  | some body => keyword ++ body
  | none => ""

def Select.text (s : Select) : String :=
  "SELECT " ++ (if s.distinct then "DISTINCT " else "") ++ ", ".intercalate s.columns ++
    " FROM " ++ s.table ++ clause " WHERE " s.condition ++
    clause " ORDER BY " (if s.orderBy.isEmpty then none else some (" , ".intercalate s.orderBy)) ++
    clause " LIMIT " (s.limit.map toString) ++ clause " OFFSET " (s.offset.map toString)

/-- Whether a selection has any row. -/
def anyRow (select : String) : String := "SELECT EXISTS(" ++ select ++ ")"

def count (select : String) : String := "SELECT COUNT(1) FROM (" ++ select ++ ")"

def delete (table condition : String) : String := "DELETE FROM " ++ table ++ " WHERE " ++ condition

end DerivedQuery.Sql
