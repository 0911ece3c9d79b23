import DerivedQuery.Statement

/-!
What a call did, in order, and how it ended. A failure keeps the events before it, so everything
that reached the store is on record whatever the result.
-/

namespace DerivedQuery

inductive LogLevel where
  | debug
  | info
  | warn
  deriving DecidableEq, Repr

/-- The two ways to run a statement: for its rows, or for the number of rows that it changes. -/
inductive Access where
  | query
  | update
  deriving DecidableEq, Repr

inductive Event where
  | log (level : LogLevel) (text : String)
  | planCompiled
  | planReused
  | executed (operation : Operation) (access : Access) (statement : Statement) (succeeded : Bool)

namespace Event

/-- The statement that reached the store, and how it was run. -/
def statement? : Event → Option (Access × Statement)
  | .executed _ access statement _ => some (access, statement)
  | _ => none

def log? : Event → Option (LogLevel × String)
  | .log level text => some (level, text)
  | _ => none

def span? : Event → Option (Operation × String)
  | .executed operation _ statement _ => some (operation, statement.sql)
  | _ => none

end Event

structure Outcome (α : Type) where
  events : List Event
  result : Except QueryError α

namespace Outcome

variable {α β : Type}

def ok (a : α) : Outcome α := ⟨[], .ok a⟩

def fail (e : QueryError) : Outcome α := ⟨[], .error e⟩

def ofExcept (r : Except QueryError α) : Outcome α := ⟨[], r⟩

def emit (e : Event) : Outcome Unit := ⟨[e], .ok ()⟩

def log (level : LogLevel) (text : String) : Outcome Unit := emit (.log level text)

/-- One step after another; after a failure there is no next one. -/
def andThen (x : Outcome α) (f : α → Outcome β) : Outcome β :=
  match x.result with
  | .ok a => ⟨x.events ++ (f a).events, (f a).result⟩
  | .error e => ⟨x.events, .error e⟩

instance : Monad Outcome where
  pure := ok
  bind := andThen

/-- The statements that reached the store, in order. -/
def statements (x : Outcome α) : List (Access × Statement) := x.events.filterMap Event.statement?

@[simp] theorem ok_andThen (a : α) (f : α → Outcome β) : (ok a).andThen f = f a := rfl

@[simp] theorem fail_andThen (e : QueryError) (f : α → Outcome β) :
    (fail e).andThen f = fail e := rfl

end Outcome

end DerivedQuery
