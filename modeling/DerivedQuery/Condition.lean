import DerivedQuery.Operator
import DerivedQuery.Property

/-!
Conditions, the clauses of a query name: a property, an operator, and how letter case counts.
-/

namespace DerivedQuery

/-- Whether a condition ignores case: not at all, in any case, or where its column is a string. -/
inductive CasePolicy where
  | never
  | always
  | whenPossible
  deriving DecidableEq, Repr

def CasePolicy.name : CasePolicy → String
  | .never => "Never"
  | .always => "Always"
  | .whenPossible => "WhenPossible"

structure Condition where
  path : PropertyPath
  operator : Operator
  casePolicy : CasePolicy
  /-- The clause as it stands in the name. -/
  clause : String
  deriving DecidableEq, Repr

end DerivedQuery
