import DerivedQuery.Binding
import DerivedQuery.Outcome
import DerivedQuery.Plan.Render
import DerivedQuery.Settings

/-!
Running a bound call. A deletion by key queries the rows first and then deletes them by their keys;
every other operation runs one statement. The shape of the result follows from the operation and
from the shape that the method declares.
-/

namespace DerivedQuery

structure Transport where
  query : Statement → Except QueryError (List Row)
  update : Statement → Except QueryError UInt64

/-- How a row becomes an item of a result. -/
abbrev RowMapper (α : Type) := Row → Except QueryError α

inductive QueryResult (α : Type) where
  | many (items : List α)
  | one (item : Option α)
  | values (values : List WireValue)
  | count (n : Int64)
  | existence (b : Bool)
  | affected (n : UInt64)
  | unit
  deriving Repr

namespace QueryResult

variable {α : Type}

def name : QueryResult α → String
  | .many _ => "Many"
  | .one _ => "One"
  | .values _ => "Values"
  | .count _ => "Count"
  | .existence _ => "Exists"
  | .affected _ => "Affected"
  | .unit => "Unit"

def count? : QueryResult α → Option Int64
  | .count n => some n
  | _ => none

def existence? : QueryResult α → Option Bool
  | .existence b => some b
  | _ => none

def affected? : QueryResult α → Option UInt64
  | .affected n => some n
  | _ => none

end QueryResult

namespace Execution

variable {α : Type}

/-- The answer of the store to a statement, on record with a note when it failed. -/
def run (operation : Operation) (access : Access) (statement : Statement)
    (answer : Except QueryError α) : Outcome α :=
  match answer with
  | .ok a => ⟨[.executed operation access statement true], .ok a⟩
  | .error e =>
    ⟨[.executed operation access statement false,
      .log .debug (operation.name ++ " statement failed: " ++ e.message)], .error e⟩

def runQuery (t : Transport) (p : Plan) (s : Statement) : Outcome (List Row) :=
  run p.operation .query s (t.query s)

def runUpdate (t : Transport) (p : Plan) (s : Statement) : Outcome UInt64 :=
  run p.operation .update s (t.update s)

/-- The note on a statement that is about to run, where the settings ask for it. -/
def announce (settings : Settings) (p : Plan) (s : Statement) : Outcome Unit :=
  if settings.logStatements then
    .log .info (p.method ++ ": " ++ s.sql ++ " [" ++ toString s.bindings.length ++ " tags]")
  else .ok ()

def mapRows (map : RowMapper α) (rows : List Row) : Except QueryError (List α) := rows.mapM map

def firstValue? (rows : List Row) : Option WireValue := rows.head?.bind (·.at? 0)

/-- The first of the rows, if there is any; more than one may be refused. -/
def singleRow (settings : Settings) (p : Plan) (map : RowMapper α) (rows : List Row) :
    Outcome (QueryResult α) := do
  if 1 < rows.length then
    if settings.strictSingleResult then Outcome.fail (.nonUniqueResult rows.length)
    else
      Outcome.log .debug (p.method ++ " matched " ++ toString rows.length ++
        " rows for a single result, using the first")
  match rows with
  | [] => return .one none
  | row :: _ => Outcome.ofExcept ((map row).map (.one ∘ some))

def firstColumns (rows : List Row) : Except QueryError (List WireValue) :=
  rows.mapM fun row =>
    match row.at? 0 with
    | some v => .ok v
    | none => .error (.rowMapping .noColumns)

/-- The rows that a query found, in the shape of the method. -/
def shapeRows (settings : Settings) (p : Plan) (map : RowMapper α) (rows : List Row) :
    Outcome (QueryResult α) :=
  match p.shape with
  | .one => singleRow settings p map rows
  | .values => .ofExcept ((firstColumns rows).map .values)
  | _ => .ofExcept ((mapRows map rows).map .many)

/-- The number that a counting statement returned. -/
def countOf (rows : List Row) : Except QueryError Int64 :=
  match firstValue? rows with
  | none => .ok 0
  | some v =>
    match v.int64? with
    | some n => .ok n
    | none => .error (.rowMapping (.notACount v.type))

/-- Whether a testing statement found a row: by a truth value, or by a number other than zero. -/
def existenceOf (rows : List Row) : Except QueryError Bool :=
  match firstValue? rows with
  | none => .ok false
  | some v =>
    match v.bool?.or (v.int64?.map (· != 0)) with
    | some b => .ok b
    | none => .error (.rowMapping (.notAnExistence v.type))

/-- The statement that deletes fetched rows by their keys, row by row and column by column. -/
def keyDeletion (p : Plan) (rows : List Row) : Except QueryError Statement := do
  let keys ← rows.mapM fun row => p.primaryKey.mapM row.get
  return { sql := p.keyDelete rows.length
           bindings := keys.flatten.zipIdx.map fun (value, i) => ⟨Sql.tagName i, value⟩ }

/-- What remains to be done with the rows that a deletion by key has fetched. -/
def deleteRows (settings : Settings) (t : Transport) (p : Plan) (rows : List Row) :
    Outcome UInt64 :=
  if rows.isEmpty then .ok 0
  else do
    let deletion ← Outcome.ofExcept (keyDeletion p rows)
    announce settings p deletion
    runUpdate t p deletion

def deletionResult (p : Plan) (affected : UInt64) : QueryResult α :=
  match p.shape with
  | .unit => .unit
  | _ => .affected affected

/-- Runs the statement of a call and shapes the result. -/
def dispatch (settings : Settings) (t : Transport) (map : RowMapper α) (p : Plan)
    (bound : BoundArguments) : Outcome (QueryResult α) := do
  let sql ← Outcome.ofExcept (p.render bound.orderBy bound.page)
  let statement : Statement := ⟨sql, bound.bindings⟩
  announce settings p statement
  match p.operation with
  | .find =>
    let rows ← runQuery t p statement
    shapeRows settings p map rows
  | .count =>
    let rows ← runQuery t p statement
    Outcome.ofExcept ((countOf rows).map .count)
  | .exist =>
    let rows ← runQuery t p statement
    Outcome.ofExcept ((existenceOf rows).map .existence)
  | .delete =>
    if p.deletesByKey then
      let rows ← runQuery t p statement
      let affected ← deleteRows settings t p rows
      if p.shape = .many then Outcome.ofExcept ((mapRows map rows).map .many)
      else return deletionResult p affected
    else
      let affected ← runUpdate t p statement
      return deletionResult p affected

end Execution

end DerivedQuery
