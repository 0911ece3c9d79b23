import DerivedQuery.Outcome

/-!
Counters over what calls did. Each counts events of one kind, so the counters of several calls add
up.
-/

namespace DerivedQuery

namespace Event

def isCompilation : Event → Bool
  | .planCompiled => true
  | _ => false

def isReuse : Event → Bool
  | .planReused => true
  | _ => false

/-- A statement of that operation reached the store. -/
def isExecution (operation : Operation) : Event → Bool
  | .executed op _ _ _ => op == operation
  | _ => false

/-- A statement of that operation reached the store and failed. -/
def isFailure (operation : Operation) : Event → Bool
  | .executed op _ _ succeeded => op == operation && !succeeded
  | _ => false

end Event

structure Metrics where
  plansCompiled : Nat
  planCacheHits : Nat
  queries : Operation → Nat
  errors : Operation → Nat

namespace Metrics

def ofEvents (events : List Event) : Metrics :=
  { plansCompiled := events.countP Event.isCompilation
    planCacheHits := events.countP Event.isReuse
    queries := fun op => events.countP (Event.isExecution op)
    errors := fun op => events.countP (Event.isFailure op) }

instance : Add Metrics where
  add m m' :=
    { plansCompiled := m.plansCompiled + m'.plansCompiled
      planCacheHits := m.planCacheHits + m'.planCacheHits
      queries := fun op => m.queries op + m'.queries op
      errors := fun op => m.errors op + m'.errors op }

@[simp] theorem plansCompiled_add (m m' : Metrics) :
    (m + m').plansCompiled = m.plansCompiled + m'.plansCompiled := rfl

@[simp] theorem planCacheHits_add (m m' : Metrics) :
    (m + m').planCacheHits = m.planCacheHits + m'.planCacheHits := rfl

@[simp] theorem queries_add (m m' : Metrics) (op : Operation) :
    (m + m').queries op = m.queries op + m'.queries op := rfl

@[simp] theorem errors_add (m m' : Metrics) (op : Operation) :
    (m + m').errors op = m.errors op + m'.errors op := rfl

theorem ofEvents_append (events events' : List Event) :
    ofEvents (events ++ events') = ofEvents events + ofEvents events' := by
  simp only [ofEvents, List.countP_append]
  rfl

def operations : List Operation := [.find, .count, .exist, .delete]

/-- A counter with the operation that it counts. -/
def labelled (name : String) (op : Operation) : String := name ++ "\x7b" ++ op.name ++ "\x7d"

/-- Every counter by its exported name. Each statement gives one sample of the duration. -/
def counters (m : Metrics) : List (String × Nat) :=
  [("partquery_plans_compiled_total_total", m.plansCompiled),
   ("partquery_plan_cache_hits_total_total", m.planCacheHits)] ++
  operations.flatMap fun op =>
    [(labelled "partquery_queries_total_total" op, m.queries op),
     (labelled "partquery_query_errors_total_total" op, m.errors op),
     (labelled "partquery_query_duration_seconds_seconds" op, m.queries op)]

def spanName : String := "partquery.execute"

end Metrics

end DerivedQuery
