import DerivedQuery.Outcome
import DerivedQuery.Plan

/-!
The memo of compiled plans. The first plan kept for a key stays until the memo is cleared; a full
memo keeps what it has. While a plan is being compiled the memo may be asked for others, and for the
same.
-/

namespace DerivedQuery

/-- A plan with the number of its compilation, which tells equal plans apart. -/
structure CompiledPlan where
  serial : Nat
  plan : Plan
  deriving DecidableEq, Repr

structure PlanCache where
  capacity : Nat
  entries : List (String × CompiledPlan)
  /-- How many plans have been compiled so far. -/
  compiled : Nat

namespace PlanCache

def empty (capacity : Nat) : PlanCache := ⟨capacity, [], 0⟩

def get? (c : PlanCache) (key : String) : Option CompiledPlan :=
  (c.entries.find? (·.1 == key)).map (·.2)

def size (c : PlanCache) : Nat := c.entries.length

def isEmpty (c : PlanCache) : Bool := c.entries.isEmpty

def clear (c : PlanCache) : PlanCache := { c with entries := [] }

def described (c : PlanCache) : String :=
  "PlanCache \x7b cached: " ++ toString c.size ++ ", capacity: " ++ toString c.capacity ++ " \x7d"

/-- Keeps a plan unless its key is taken or the memo is full, and returns the plan that serves the
key. -/
def keep (c : PlanCache) (key : String) (plan : CompiledPlan) : PlanCache × Outcome CompiledPlan :=
  match c.get? key with
  | some kept => (c, .ok kept)
  | none =>
    if c.capacity ≤ c.size then
      (c, do
        Outcome.log .warn ("Plan cache is full (" ++ toString c.capacity ++ " plans), " ++ key ++
          " will be recompiled on every call")
        return plan)
    else
      ({ c with entries := c.entries ++ [(key, plan)] }, do
        Outcome.log .debug ("Compiled and cached plan for " ++ key)
        return plan)

/-- Takes the result of a compilation: a failure changes nothing, a plan is numbered and kept. -/
def settle (c : PlanCache) (key : String) (result : Except QueryError Plan) :
    PlanCache × Outcome CompiledPlan :=
  match result with
  | .error e => (c, .fail e)
  | .ok plan =>
    let (kept, outcome) := keep { c with compiled := c.compiled + 1 } key ⟨c.compiled, plan⟩
    (kept, do
      Outcome.emit .planCompiled
      outcome)

/-- The plan kept for a key; without one, the plan that `result` gives, which is then kept. -/
def getOrCompile (c : PlanCache) (key : String) (result : Unit → Except QueryError Plan) :
    PlanCache × Outcome CompiledPlan :=
  match c.get? key with
  | some plan =>
    (c, do
      Outcome.emit .planReused
      return plan)
  | none => c.settle key (result ())

/-- A request for the plan of a key, with the requests that its compilation makes of the same memo
before it ends with `result`. -/
inductive Request where
  | mk (key : String) (inner : List Request) (result : Except QueryError Plan)

/-- The answer to a request: the answers to its inner requests if its compilation ran, and the
plan. -/
inductive Answer where
  | mk (inner : Option (List Answer)) (result : Except QueryError CompiledPlan)

mutual

/-- Answers a request. A key that is kept needs no compilation. -/
def serve : Request → PlanCache → PlanCache × Answer
  | .mk key inner result, c =>
    match c.get? key with
    | some plan => (c, .mk none (.ok plan))
    | none =>
      let (c, answers) := serveAll inner c
      let (c, outcome) := c.settle key result
      (c, .mk (some answers) outcome.result)

def serveAll : List Request → PlanCache → PlanCache × List Answer
  | [], c => (c, [])
  | r :: rs, c =>
    let (c, answer) := serve r c
    let (c, answers) := serveAll rs c
    (c, answer :: answers)

end

end PlanCache

end DerivedQuery
