import DerivedQuery.Condition
import DerivedQuery.Operation
import DerivedQuery.OrderBy

/-!
What a query name says: an operation, a limit, alternatives of joint conditions, and an ordering.
-/

namespace DerivedQuery

structure QueryName where
  /-- The name as a whole. -/
  text : String
  operation : Operation
  distinct : Bool
  limit : Option Nat
  /-- The groups are alternatives; the conditions of a group hold together. -/
  groups : List (List Condition)
  orderBy : OrderBy
  deriving DecidableEq, Repr

/-- The conditions in the order of their tags. -/
def QueryName.conditions (q : QueryName) : List Condition := q.groups.flatten

end DerivedQuery
