import DerivedQuery.Execution
import DerivedQuery.PlanCache
import DerivedQuery.QueryName.Reader

/-!
The engine serves the methods of one entity. It plans a method on first use, binds the arguments of
each call, and runs the statement.
-/

namespace DerivedQuery

structure QueryMethod where
  repository : String
  name : String
  parameters : List ParameterType
  shape : ResultShape
  deriving DecidableEq, Repr

/-- The key under which the plan of a method is kept: all of the method, as text. -/
def QueryMethod.key (m : QueryMethod) : String :=
  m.repository ++ "::" ++ m.name ++ "(" ++ ", ".intercalate (m.parameters.map (·.name)) ++
    ") -> " ++ m.shape.name

def QueryMethod.plan (m : QueryMethod) (entity : Entity) : Except QueryError Plan := do
  let query ← QueryName.parse m.name
  Plan.compile entity query m.parameters m.shape

structure Engine where
  entity : Entity
  settings : Settings
  cache : PlanCache

namespace Engine

variable {α : Type}

def create (entity : Entity) (settings : Settings) : Engine :=
  ⟨entity, settings, .empty settings.planCacheCapacity⟩

def clear (e : Engine) : Engine := { e with cache := e.cache.clear }

def described (e : Engine) : String :=
  "QueryEngine \x7b table: " ++ Text.quoted e.entity.table ++ ", plans: " ++ e.cache.described ++
    ", config: " ++ e.settings.described ++ " \x7d"

def noteFailure (key : String) (o : Outcome CompiledPlan) : Outcome CompiledPlan :=
  match o.result with
  | .ok _ => o
  | .error e =>
    let note := "Could not build a plan for " ++ key ++ ": " ++ e.message
    ⟨o.events ++ [.log .debug note], .error e⟩

/-- The plan of a method, compiled unless it is kept. -/
def plan (e : Engine) (m : QueryMethod) : Engine × Outcome CompiledPlan :=
  let (cache, outcome) := e.cache.getOrCompile m.key fun _ => m.plan e.entity
  ({ e with cache }, noteFailure m.key outcome)

def bindTo (e : Engine) (p : CompiledPlan) (arguments : List Argument) : Outcome BoundArguments :=
  .ofExcept (bind e.entity.converter? p.plan arguments)

def execute (e : Engine) (t : Transport) (map : RowMapper α) (m : QueryMethod)
    (arguments : List Argument) : Engine × Outcome (QueryResult α) :=
  let (e, planned) := e.plan m
  (e, do
    let p ← planned
    let bound ← e.bindTo p arguments
    Execution.dispatch e.settings t map p.plan bound)

/-- The statement that `execute` runs first, which is not run here. -/
def prepare (e : Engine) (m : QueryMethod) (arguments : List Argument) :
    Engine × Outcome Statement :=
  let (e, planned) := e.plan m
  (e, do
    let p ← planned
    let bound ← e.bindTo p arguments
    let sql ← Outcome.ofExcept (p.plan.render bound.orderBy bound.page)
    return ⟨sql, bound.bindings⟩)

end Engine

end DerivedQuery
