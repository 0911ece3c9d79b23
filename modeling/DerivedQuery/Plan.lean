import DerivedQuery.Entity
import DerivedQuery.OrderBy
import DerivedQuery.QueryName
import DerivedQuery.Sql

/-!
Plans: a query name settled against the columns of an entity and the signature of a method. Leaves
are numbered through all groups, and the number of a leaf is its tag, whether its operator shows the
tag or not.
-/

namespace DerivedQuery

structure Leaf where
  tag : Nat
  operator : Operator
  column : String
  /-- Whether both sides are compared in lower case. -/
  fold : Bool
  deriving DecidableEq, Repr

namespace Leaf

def showsTag (l : Leaf) : Bool := 0 < l.operator.arity

/-- The two sides of the comparison, in lower case where the leaf folds. -/
def sides (l : Leaf) : String × String :=
  if l.fold then (Sql.lower l.column, Sql.lower (Sql.reference l.tag))
  else (l.column, Sql.reference l.tag)

/-- The comparison, refused for an operator that no statement expresses. -/
def render (l : Leaf) : Except QueryError String :=
  match l.operator.comparison? l.sides.1 l.sides.2 with
  | some text => .ok text
  | none => .error (.unsupportedOperator l.operator)

/-- The comparison in a statement. It is empty for an operator that no statement expresses; a plan
has no such leaf. -/
def text (l : Leaf) : String := (l.operator.comparison? l.sides.1 l.sides.2).getD ""

end Leaf

structure ColumnKey where
  column : String
  direction : Direction
  fold : Bool
  deriving DecidableEq, Repr

def ColumnKey.text (k : ColumnKey) : String :=
  (if k.fold then Sql.lower k.column else k.column) ++ " " ++ k.direction.text

structure Plan where
  method : String
  operation : Operation
  shape : ResultShape
  distinct : Bool
  limit : Option Nat
  table : String
  columns : List Column
  groups : List (List Leaf)
  orderBy : List ColumnKey
  parameters : List ParameterType
  deriving DecidableEq, Repr

namespace Plan

def leaves (p : Plan) : List Leaf := p.groups.flatten

def primaryKey (p : Plan) : List String := (p.columns.filter (·.isKey)).map (·.name)

/-- Rows are fetched and then deleted by their keys when they are returned, limited or paged. -/
def deletesByKey (p : Plan) : Bool :=
  p.operation == .delete && (p.shape == .many || p.limit.isSome || p.parameters.contains .page)

/-- The condition of the statement, unless every row matches. -/
def condition (p : Plan) : Option String :=
  if p.groups.isEmpty then none else some (Sql.condition (p.groups.map (·.map Leaf.text)))

/-- A sort key on its column. Its property is taken apart at the dots and looked up as a path. -/
def columnKey (table : String) (columns : List Column) (k : SortKey) :
    Except QueryError ColumnKey :=
  match resolveField table columns (PropertyPath.parse k.property).dotted with
  | .ok c => .ok ⟨c.name, k.direction, k.ignoreCase⟩
  | .error fault => .error (.metadata fault)

/-- The leaf of a condition. It folds case where the operator can and the policy says so. -/
def leaf (entity : Entity) (tag : Nat) (c : Condition) : Except QueryError Leaf :=
  match entity.resolve c.path with
  | .error fault => .error (.metadata fault)
  | .ok column =>
    let wanted :=
      match c.casePolicy with
      | .never => false
      | .always => true
      | .whenPossible => column.type == .string
    .ok ⟨tag, c.operator, column.name, c.operator.canFold && wanted⟩

/-- The leaves of a group, numbered from `tag` on. Each of them is rendered once, so that none is
kept that could not be. -/
def leafGroup (entity : Entity) : Nat → List Condition → Except QueryError (List Leaf)
  | _, [] => .ok []
  | tag, c :: cs => do
    let l ← leaf entity tag c
    let _ ← l.render
    return l :: (← leafGroup entity (tag + 1) cs)

/-- The leaves of all groups, numbered through. -/
def leafGroups (entity : Entity) :
    Nat → List (List Condition) → Except QueryError (List (List Leaf))
  | _, [] => .ok []
  | tag, g :: gs => do
    let ls ← leafGroup entity tag g
    return ls :: (← leafGroups entity (tag + g.length) gs)

/-- A method takes at most one paging or sorting parameter, and its shape suits its operation. -/
def checkSignature (query : QueryName) (parameters : List ParameterType) (shape : ResultShape) :
    Except QueryError Unit :=
  let pages := parameters.count .page
  let orderings := parameters.count .ordering
  if 1 < pages + orderings then
    .error (.invalidSignature query.text (.tooManyMarkers pages orderings))
  else if query.operation.allows shape then .ok ()
  else .error (.invalidSignature query.text (.shapeMismatch query.operation shape))

/-- The first operator that no statement expresses is refused before anything else is looked at. -/
def checkOperators (query : QueryName) : Except QueryError Unit :=
  match query.conditions.find? (!·.operator.isSupported) with
  | some c => .error (.unsupportedOperator c.operator)
  | none => .ok ()

/-- Rows can be deleted by key only where there is a key. -/
def checkKey (p : Plan) : Except QueryError Unit :=
  if p.deletesByKey && p.primaryKey.isEmpty then .error (.metadata (.noPrimaryKey p.table))
  else .ok ()

def compile (entity : Entity) (query : QueryName) (parameters : List ParameterType)
    (shape : ResultShape) : Except QueryError Plan := do
  checkOperators query
  checkSignature query parameters shape
  let groups ← leafGroups entity 0 query.groups
  let orderBy ← query.orderBy.keys.mapM (columnKey entity.table entity.columns)
  let plan : Plan :=
    { method := query.text
      operation := query.operation
      shape, parameters, groups, orderBy
      distinct := query.distinct
      limit := query.limit
      table := entity.table
      columns := entity.columns }
  checkKey plan
  return plan

def bindable (p : Plan) : List Bool := p.parameters.map (!·.isMarker)

end Plan

end DerivedQuery
