/-!
The settings of an engine.
-/

namespace DerivedQuery

structure Settings where
  /-- Every statement is logged before it runs. -/
  logStatements : Bool := false
  /-- A method that returns one row fails when several match; otherwise it returns the first. -/
  strictSingleResult : Bool := false
  /-- How many plans are kept. Further ones serve the call that they are compiled for. -/
  planCacheCapacity : Nat := 1024
  deriving DecidableEq, Repr

def Settings.described (s : Settings) : String :=
  "QueryConfig \x7b log_statements: " ++ toString s.logStatements ++ ", strict_single_result: " ++
    toString s.strictSingleResult ++ ", plan_cache_capacity: " ++
    toString s.planCacheCapacity ++ " \x7d"

end DerivedQuery
