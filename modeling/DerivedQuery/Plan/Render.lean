import DerivedQuery.Plan

/-!
The statement of a plan for one call. Sorting and paging arguments settle its ordering and its
window; everything else is in the plan.
-/

namespace DerivedQuery

/-- The rows of a page among the first `limit` rows: how many to take and how many to pass over. -/
def window (limit : Option Nat) (page : Option PageRequest) : Option Nat × Option Nat :=
  match page with
  | none => (limit, none)
  | some p =>
    match limit with
    | none => (some p.size.toNat, some p.offset)
    | some top => (some (min p.size.toNat (top - p.offset)), some p.offset)

/-- The ordering that a call asks for: its own, else that of its page. An ordering without keys asks
for nothing. -/
def requestedOrder (orderBy : Option OrderBy) (page : Option PageRequest) : Option OrderBy :=
  (orderBy.filter (·.isSorted)).or ((page.map (·.orderBy)).filter (·.isSorted))

namespace Plan

/-- The keys of the ordering; a requested one takes the place of the plan's own. -/
def effectiveOrder (p : Plan) (orderBy : Option OrderBy) (page : Option PageRequest) :
    Except QueryError (List ColumnKey) :=
  match requestedOrder orderBy page with
  | some requested => requested.keys.mapM (columnKey p.table p.columns)
  | none => .ok p.orderBy

/-- The selection of the rows. To see whether there are any, one row is enough. -/
def select (p : Plan) (orderBy : Option OrderBy) (page : Option PageRequest) (anyRow : Bool) :
    Except QueryError Sql.Select := do
  let keys ← p.effectiveOrder orderBy page
  let (limit, offset) := window p.limit page
  return { distinct := p.distinct
           columns := p.columns.map (·.name)
           table := p.table
           condition := p.condition
           orderBy := keys.map ColumnKey.text
           limit := if anyRow then limit.or (some 1) else limit
           offset }

def bulkDelete (p : Plan) : String := Sql.delete p.table (p.condition.getD "true")

/-- The statement of a call. A plan that deletes by key selects the rows first. -/
def render (p : Plan) (orderBy : Option OrderBy) (page : Option PageRequest) :
    Except QueryError String :=
  match p.operation with
  | .find => return (← p.select orderBy page false).text
  | .exist => return Sql.anyRow (← p.select orderBy page true).text
  | .count => return Sql.count (← p.select orderBy page false).text
  | .delete =>
    if p.deletesByKey then return (← p.select orderBy page false).text
    else .ok p.bulkDelete

/-- The key columns of `rows` rows, numbered through from `tag` on. -/
def keyTags (key : List String) : Nat → Nat → List (List (String × Nat))
  | _, 0 => []
  | tag, rows + 1 => key.zipIdx tag :: keyTags key (tag + key.length) rows

theorem keyTags_eq (key : List String) (tag rows : Nat) :
    keyTags key tag rows = (List.range rows).map fun i => key.zipIdx (tag + i * key.length) := by
  induction rows generalizing tag with
  | zero => rfl
  | succ rows ih =>
    have hnext : ∀ i, tag + key.length + i * key.length = tag + (i + 1) * key.length := by
      intro i
      rw [Nat.succ_mul]
      omega
    rw [keyTags, ih, List.range_succ_eq_map, List.map_cons, List.map_map, Nat.zero_mul,
      Nat.add_zero]
    simp only [Function.comp_def, hnext]

def keyDelete (p : Plan) (rows : Nat) : String :=
  Sql.delete p.table (Sql.condition ((keyTags p.primaryKey 0 rows).map (·.map fun (column, tag) =>
    column ++ "=" ++ Sql.reference tag)))

end Plan

end DerivedQuery
