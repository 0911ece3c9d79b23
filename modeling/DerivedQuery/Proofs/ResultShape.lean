import DerivedQuery.Proofs.CallTrace
import DerivedQuery.Proofs.CompilationOutcome

/-!
The result of a bound call. Its shape follows from the operation and the declared shape, and its
content from the answers of the store: rows are mapped one by one and in order, and what cannot be
read is an error, never left out or replaced.
-/

namespace DerivedQuery

variable {α β : Type}

def Row.first (r : Row) : Except QueryError WireValue :=
  match r.columns with
  | (_, v) :: _ => .ok v
  | [] => .error (.rowMapping .noColumns)

namespace Execution

/-- One result for each element, in order, or the error of the first element that has none. -/
inductive Each (f : α → Except QueryError β) (xs : List α) : Except QueryError (List β) → Prop
  | all {ys : List β} (h : List.Forall₂ (fun x y => f x = .ok y) xs ys) : Each f xs (.ok ys)
  | stopped {before after : List α} {x : α} {e : QueryError} (split : xs = before ++ x :: after)
      (earlier : ∀ y ∈ before, ∃ b, f y = .ok b) (fails : f x = .error e) : Each f xs (.error e)

theorem each_iff {f : α → Except QueryError β} {xs : List α} {r : Except QueryError (List β)} :
    Each f xs r ↔ xs.mapM f = r := by
  constructor
  · intro h
    cases h with
    | all h => exact Fallible.mapM_eq_ok_iff.2 h
    | stopped split earlier fails =>
      exact Fallible.mapM_eq_error_iff.2 ⟨_, _, _, split, earlier, fails⟩
  · rintro rfl
    cases h : xs.mapM f with
    | ok ys => exact .all (Fallible.mapM_eq_ok_iff.1 h)
    | error e =>
      obtain ⟨before, x, after, split, earlier, fails⟩ := Fallible.mapM_eq_error_iff.1 h
      exact .stopped split earlier fails

/-- The value in the first column of the first row. -/
def IsFirstCell (rows : List Row) (v : WireValue) : Prop :=
  ∃ name cells rest, rows = ⟨(name, v) :: cells⟩ :: rest

/-- The number that the rows of a counting statement state. -/
inductive Counted (rows : List Row) : Except QueryError Int64 → Prop
  | absent (h : ∀ v, ¬IsFirstCell rows v) : Counted rows (.ok 0)
  | number {n : Int64} (h : IsFirstCell rows (.int64 n)) : Counted rows (.ok n)
  | other {v : WireValue} (h : IsFirstCell rows v) (hv : ∀ n, v ≠ .int64 n) :
      Counted rows (.error (.rowMapping (.notACount v.type)))

/-- The answer that the rows of a testing statement give. -/
inductive Tested (rows : List Row) : Except QueryError Bool → Prop
  | absent (h : ∀ v, ¬IsFirstCell rows v) : Tested rows (.ok false)
  | truth {b : Bool} (h : IsFirstCell rows (.bool b)) : Tested rows (.ok b)
  | number {n : Int64} (h : IsFirstCell rows (.int64 n)) : Tested rows (.ok (n != 0))
  | other {v : WireValue} (h : IsFirstCell rows v) (hb : ∀ b, v ≠ .bool b)
      (hn : ∀ n, v ≠ .int64 n) : Tested rows (.error (.rowMapping (.notAnExistence v.type)))

/-- The one item of the rows. The first row is read only if further ones are let pass. -/
inductive Picked (strict : Bool) (map : RowMapper α) :
    List Row → Except QueryError (Option α) → Prop
  | none : Picked strict map [] (.ok none)
  | refused {rows : List Row} (hstrict : strict = true) (h : 1 < rows.length) :
      Picked strict map rows (.error (.nonUniqueResult rows.length))
  | mapped {row : Row} {rest : List Row} {item : α} (h : strict = false ∨ rest = [])
      (hitem : map row = .ok item) : Picked strict map (row :: rest) (.ok (some item))
  | unreadable {row : Row} {rest : List Row} {e : QueryError} (h : strict = false ∨ rest = [])
      (fails : map row = .error e) : Picked strict map (row :: rest) (.error e)

/-- The number of rows that a deletion by key removes once it has fetched `rows`. -/
inductive Removed (p : Plan) (t : Transport) (rows : List Row) : Except QueryError UInt64 → Prop
  | nothing (h : rows = []) : Removed p t rows (.ok 0)
  | keyless {e : QueryError} (h : rows ≠ []) (fails : keyDeletion p rows = .error e) :
      Removed p t rows (.error e)
  | answered {d : Statement} (h : rows ≠ []) (hd : keyDeletion p rows = .ok d) :
      Removed p t rows (t.update d)

end Execution

open Execution

/-- The results that an operation gives in a shape. -/
inductive QueryResult.HasShape : Operation → ResultShape → QueryResult α → Prop
  | many (items : List α) : HasShape .find .many (.many items)
  | one (item : Option α) : HasShape .find .one (.one item)
  | values (values : List WireValue) : HasShape .find .values (.values values)
  | count (n : Int64) : HasShape .count .count (.count n)
  | existence (b : Bool) : HasShape .exist .existence (.existence b)
  | deletedRows (items : List α) : HasShape .delete .many (.many items)
  | affected (n : UInt64) : HasShape .delete .count (.affected n)
  | unit : HasShape .delete .unit .unit

/-- A method can declare the shapes that its operation has results in. -/
theorem QueryResult.exists_hasShape_iff {operation : Operation} {shape : ResultShape} :
    (∃ r : QueryResult α, r.HasShape operation shape) ↔ operation.allows shape = true := by
  constructor
  · rintro ⟨r, hr⟩
    cases hr <;> rfl
  · intro h
    cases operation with
    | find =>
      cases shape with
      | many => exact ⟨_, .many []⟩
      | one => exact ⟨_, .one none⟩
      | values => exact ⟨_, .values []⟩
      | count | existence | unit => cases h
    | count =>
      cases shape with
      | count => exact ⟨_, .count 0⟩
      | many | one | values | existence | unit => cases h
    | exist =>
      cases shape with
      | existence => exact ⟨_, .existence false⟩
      | many | one | values | count | unit => cases h
    | delete =>
      cases shape with
      | many => exact ⟨_, .deletedRows []⟩
      | count => exact ⟨_, .affected 0⟩
      | unit => exact ⟨_, .unit⟩
      | one | values | existence => cases h

/-- What comes of a statement `s` of a plan: the answers of the store, in the shape of the
method. -/
inductive Plan.Yields (p : Plan) (settings : Settings) (t : Transport) (map : RowMapper α)
    (s : Statement) : Except QueryError (QueryResult α) → Prop
  | unanswered {e : QueryError} (hreads : p.operation ≠ .delete ∨ p.deletesByKey = true)
      (fails : t.query s = .error e) : Yields p settings t map s (.error e)
  | many {rows : List Row} {items : Except QueryError (List α)} (hop : p.operation = .find)
      (hshape : p.shape = .many) (hrows : t.query s = .ok rows) (h : Each map rows items) :
      Yields p settings t map s (items.map .many)
  | one {rows : List Row} {item : Except QueryError (Option α)} (hop : p.operation = .find)
      (hshape : p.shape = .one) (hrows : t.query s = .ok rows)
      (h : Picked settings.strictSingleResult map rows item) :
      Yields p settings t map s (item.map .one)
  | values {rows : List Row} {values : Except QueryError (List WireValue)}
      (hop : p.operation = .find) (hshape : p.shape = .values) (hrows : t.query s = .ok rows)
      (h : Each Row.first rows values) : Yields p settings t map s (values.map .values)
  | count {rows : List Row} {n : Except QueryError Int64} (hop : p.operation = .count)
      (hshape : p.shape = .count) (hrows : t.query s = .ok rows) (h : Counted rows n) :
      Yields p settings t map s (n.map .count)
  | existence {rows : List Row} {b : Except QueryError Bool} (hop : p.operation = .exist)
      (hshape : p.shape = .existence) (hrows : t.query s = .ok rows) (h : Tested rows b) :
      Yields p settings t map s (b.map .existence)
  | unremoved {rows : List Row} {e : QueryError} (hkey : p.deletesByKey = true)
      (hrows : t.query s = .ok rows) (h : Removed p t rows (.error e)) :
      Yields p settings t map s (.error e)
  | deletedRows {rows : List Row} {n : UInt64} {items : Except QueryError (List α)}
      (hkey : p.deletesByKey = true) (hshape : p.shape = .many) (hrows : t.query s = .ok rows)
      (hremoved : Removed p t rows (.ok n)) (h : Each map rows items) :
      Yields p settings t map s (items.map .many)
  | affectedByKey {rows : List Row} {n : UInt64} (hkey : p.deletesByKey = true)
      (hshape : p.shape = .count) (hrows : t.query s = .ok rows)
      (hremoved : Removed p t rows (.ok n)) : Yields p settings t map s (.ok (.affected n))
  | doneByKey {rows : List Row} {n : UInt64} (hkey : p.deletesByKey = true)
      (hshape : p.shape = .unit) (hrows : t.query s = .ok rows)
      (hremoved : Removed p t rows (.ok n)) : Yields p settings t map s (.ok .unit)
  | affected {n : Except QueryError UInt64} (hop : p.operation = .delete)
      (hkey : p.deletesByKey = false) (hshape : p.shape = .count) (h : t.update s = n) :
      Yields p settings t map s (n.map .affected)
  | done {n : Except QueryError UInt64} (hop : p.operation = .delete)
      (hkey : p.deletesByKey = false) (hshape : p.shape = .unit) (h : t.update s = n) :
      Yields p settings t map s (n.map fun _ => .unit)

namespace Execution

open Outcome

variable {rows : List Row} {v : WireValue} {settings : Settings} {t : Transport}
  {map : RowMapper α} {p : Plan} {s : Statement}

theorem firstColumns_eq (rows : List Row) : firstColumns rows = rows.mapM Row.first := by
  refine Fallible.mapM_congr fun row _ => ?_
  obtain ⟨columns⟩ := row
  cases columns <;> rfl

theorem firstValue?_eq_some_iff : firstValue? rows = some v ↔ IsFirstCell rows v := by
  unfold IsFirstCell firstValue?
  cases rows with
  | nil => simp
  | cons row rest =>
    obtain ⟨columns⟩ := row
    cases columns with
    | nil => simp [Row.at?]
    | cons cell cells =>
      obtain ⟨name, value⟩ := cell
      simp [Row.at?]

theorem firstValue?_eq_none_iff : firstValue? rows = none ↔ ∀ v, ¬IsFirstCell rows v := by
  simp only [← firstValue?_eq_some_iff]
  exact Option.eq_none_iff_forall_ne_some

theorem counted_iff {n : Except QueryError Int64} : Counted rows n ↔ countOf rows = n := by
  constructor
  · intro h
    unfold countOf
    cases h with
    | absent h => rw [firstValue?_eq_none_iff.2 h]
    | number h => rw [firstValue?_eq_some_iff.2 h]; rfl
    | @other v h hv =>
      rw [firstValue?_eq_some_iff.2 h]
      cases v with
      | int64 n => exact absurd rfl (hv n)
      | _ => rfl
  · rintro rfl
    unfold countOf
    split
    · next h => exact .absent (firstValue?_eq_none_iff.1 h)
    · next v h =>
      have hcell := firstValue?_eq_some_iff.1 h
      cases v with
      | int64 n => exact .number hcell
      | _ => exact .other hcell (by simp)

theorem tested_iff {b : Except QueryError Bool} : Tested rows b ↔ existenceOf rows = b := by
  constructor
  · intro h
    unfold existenceOf
    cases h with
    | absent h => rw [firstValue?_eq_none_iff.2 h]
    | truth h => rw [firstValue?_eq_some_iff.2 h]; rfl
    | number h => rw [firstValue?_eq_some_iff.2 h]; rfl
    | @other v h hb hn =>
      rw [firstValue?_eq_some_iff.2 h]
      cases v with
      | bool b => exact absurd rfl (hb b)
      | int64 n => exact absurd rfl (hn n)
      | _ => rfl
  · rintro rfl
    unfold existenceOf
    split
    · next h => exact .absent (firstValue?_eq_none_iff.1 h)
    · next v h =>
      have hcell := firstValue?_eq_some_iff.1 h
      cases v with
      | bool b => exact .truth hcell
      | int64 n => exact .number hcell
      | _ => exact .other hcell (by simp) (by simp)

theorem result_singleRow_cons {row : Row} {rest : List Row}
    (h : settings.strictSingleResult = false ∨ rest = []) :
    (singleRow settings p map (row :: rest)).result = (map row).map (.one ∘ some) := by
  unfold singleRow
  cases rest with
  | nil => rfl
  | cons second rest =>
    have hstrict := h.resolve_right (List.cons_ne_nil second rest)
    rw [if_pos (by simp), if_neg (by simp [hstrict])]
    rfl

theorem result_singleRow_of_picked {item : Except QueryError (Option α)}
    (h : Picked settings.strictSingleResult map rows item) :
    (singleRow settings p map rows).result = item.map .one := by
  cases h with
  | none => rfl
  | refused hstrict hmany =>
    unfold singleRow
    rw [if_pos hmany, if_pos hstrict]
    rfl
  | mapped h hitem =>
    rw [result_singleRow_cons h, hitem]
    rfl
  | unreadable h fails =>
    rw [result_singleRow_cons h, fails]
    rfl

theorem exists_picked (strict : Bool) (map : RowMapper α) (rows : List Row) :
    ∃ item, Picked strict map rows item := by
  cases rows with
  | nil => exact ⟨_, .none⟩
  | cons row rest =>
    by_cases h : strict = false ∨ rest = []
    · cases hrow : map row with
      | ok item => exact ⟨_, .mapped h hrow⟩
      | error e => exact ⟨_, .unreadable h hrow⟩
    · rw [not_or, Bool.not_eq_false] at h
      have hrest := List.length_pos_iff.2 h.2
      exact ⟨_, .refused h.1 (by rw [List.length_cons]; omega)⟩

theorem removed_iff {n : Except QueryError UInt64} :
    Removed p t rows n ↔
      (if rows.isEmpty then .ok 0 else (keyDeletion p rows).bind t.update) = n := by
  by_cases hrows : rows = []
  · rw [if_pos (by simp [hrows])]
    constructor
    · intro h
      cases h with
      | nothing => rfl
      | keyless hne => exact absurd hrows hne
      | answered hne => exact absurd hrows hne
    · rintro rfl
      exact .nothing hrows
  · rw [if_neg (by simp [hrows])]
    constructor
    · intro h
      cases h with
      | nothing h => exact absurd h hrows
      | keyless _ fails => rw [fails]; rfl
      | answered _ hd => rw [hd]; rfl
    · rintro rfl
      cases hd : keyDeletion p rows with
      | error e => exact .keyless hrows hd
      | ok d => exact .answered hrows hd

theorem result_afterAnnouncement_of_find (hop : p.operation = .find) :
    (afterAnnouncement settings t map p s).result =
      (t.query s).bind fun rows => (shapeRows settings p map rows).result := by
  simp only [afterAnnouncement, hop, result_andThen, runQuery, result_run]

theorem result_afterAnnouncement_of_count (hop : p.operation = .count) :
    (afterAnnouncement settings t map p s).result =
      (t.query s).bind fun rows => (countOf rows).map .count := by
  simp only [afterAnnouncement, hop, result_andThen, runQuery, result_run, result_ofExcept]

theorem result_afterAnnouncement_of_exist (hop : p.operation = .exist) :
    (afterAnnouncement settings t map p s).result =
      (t.query s).bind fun rows => (existenceOf rows).map .existence := by
  simp only [afterAnnouncement, hop, result_andThen, runQuery, result_run, result_ofExcept]

theorem result_afterAnnouncement_of_removed {n : Except QueryError UInt64}
    (hkey : p.deletesByKey = true) (hrows : t.query s = .ok rows) (h : Removed p t rows n) :
    (afterAnnouncement settings t map p s).result = n.bind fun affected =>
      if p.shape = .many then (mapRows map rows).map .many
      else .ok (deletionResult p affected) := by
  rw [result_afterAnnouncement_of_deletesByKey hkey, hrows, ← removed_iff.1 h]
  rfl

theorem deletionResult_of_count (h : p.shape = .count) :
    deletionResult p = (.affected : UInt64 → QueryResult α) := by
  funext n
  rw [deletionResult, h]

theorem deletionResult_of_unit (h : p.shape = .unit) :
    deletionResult p = fun _ : UInt64 => (.unit : QueryResult α) := by
  funext n
  rw [deletionResult, h]

/-- A store that refuses a plan its rows fails the call. -/
theorem result_afterAnnouncement_of_unanswered {e : QueryError}
    (hreads : p.operation ≠ .delete ∨ p.deletesByKey = true) (h : t.query s = .error e) :
    (afterAnnouncement settings t map p s).result = .error e := by
  cases hop : p.operation with
  | find => rw [result_afterAnnouncement_of_find hop, h]; rfl
  | count => rw [result_afterAnnouncement_of_count hop, h]; rfl
  | exist => rw [result_afterAnnouncement_of_exist hop, h]; rfl
  | delete =>
    have hkey := hreads.resolve_left fun hne => hne hop
    rw [result_afterAnnouncement_of_deletesByKey hkey, h]
    rfl

end Execution

namespace Plan.Yields

variable {settings : Settings} {t : Transport} {map : RowMapper α} {p : Plan} {s : Statement}
  {r : Except QueryError (QueryResult α)}

theorem result_eq (h : p.Yields settings t map s r) :
    (afterAnnouncement settings t map p s).result = r := by
  cases h with
  | unanswered hreads fails => exact result_afterAnnouncement_of_unanswered hreads fails
  | many hop hshape hrows h =>
    rw [result_afterAnnouncement_of_find hop, hrows, ← each_iff.1 h, Except.bind, shapeRows, hshape]
    rfl
  | one hop hshape hrows h =>
    rw [result_afterAnnouncement_of_find hop, hrows, Except.bind, shapeRows, hshape]
    exact result_singleRow_of_picked h
  | values hop hshape hrows h =>
    rw [result_afterAnnouncement_of_find hop, hrows, ← each_iff.1 h, Except.bind, shapeRows, hshape,
      ← firstColumns_eq]
    rfl
  | count hop hshape hrows h =>
    rw [result_afterAnnouncement_of_count hop, hrows, ← counted_iff.1 h]
    rfl
  | existence hop hshape hrows h =>
    rw [result_afterAnnouncement_of_exist hop, hrows, ← tested_iff.1 h]
    rfl
  | unremoved hkey hrows h => exact result_afterAnnouncement_of_removed hkey hrows h
  | deletedRows hkey hshape hrows hremoved h =>
    rw [result_afterAnnouncement_of_removed hkey hrows hremoved, Except.bind, if_pos hshape,
      ← each_iff.1 h]
    rfl
  | affectedByKey hkey hshape hrows hremoved =>
    rw [result_afterAnnouncement_of_removed hkey hrows hremoved, Except.bind,
      if_neg (by simp [hshape]), deletionResult_of_count hshape]
  | doneByKey hkey hshape hrows hremoved =>
    rw [result_afterAnnouncement_of_removed hkey hrows hremoved, Except.bind,
      if_neg (by simp [hshape]), deletionResult_of_unit hshape]
  | affected hop hkey hshape h =>
    rw [result_afterAnnouncement_of_bulk hop hkey, h, deletionResult_of_count hshape]
  | done hop hkey hshape h =>
    rw [result_afterAnnouncement_of_bulk hop hkey, h, deletionResult_of_unit hshape]

end Plan.Yields

namespace Plan

variable {settings : Settings} {t : Transport} {map : RowMapper α} {p : Plan} {s : Statement}

theorem exists_yields_of_query (hreads : p.operation ≠ .delete ∨ p.deletesByKey = true)
    (h : ∀ rows, t.query s = .ok rows → ∃ r, p.Yields settings t map s r) :
    ∃ r, p.Yields settings t map s r := by
  cases hrows : t.query s with
  | error e => exact ⟨_, .unanswered hreads hrows⟩
  | ok rows => exact h rows hrows

theorem exists_yields_of_key (hkey : p.deletesByKey = true)
    (h : ∀ rows n, t.query s = .ok rows → Removed p t rows (.ok n) →
      ∃ r, p.Yields settings t map s r) : ∃ r, p.Yields settings t map s r := by
  refine exists_yields_of_query (Or.inr hkey) fun rows hrows => ?_
  cases hremoved : (if rows.isEmpty then .ok 0 else (keyDeletion p rows).bind t.update) with
  | error e => exact ⟨_, .unremoved hkey hrows (removed_iff.2 hremoved)⟩
  | ok n => exact h rows n hrows (removed_iff.2 hremoved)

/-- In every shape that the operation has results in, something comes of the statement. -/
theorem exists_yields (h : p.operation.allows p.shape = true) :
    ∃ r, p.Yields settings t map s r := by
  obtain ⟨r, hr⟩ : ∃ r : QueryResult α, r.HasShape p.operation p.shape :=
    QueryResult.exists_hasShape_iff.2 h
  generalize hop : p.operation = operation, hshape : p.shape = shape at hr
  have hreads (hne : operation ≠ .delete) : p.operation ≠ .delete ∨ p.deletesByKey = true :=
    Or.inl (hop ▸ hne)
  cases hr with
  | many =>
    refine exists_yields_of_query (hreads nofun) fun rows hrows => ?_
    exact ⟨_, .many hop hshape hrows (each_iff.2 rfl)⟩
  | one =>
    refine exists_yields_of_query (hreads nofun) fun rows hrows => ?_
    obtain ⟨item, hitem⟩ := exists_picked settings.strictSingleResult map rows
    exact ⟨_, .one hop hshape hrows hitem⟩
  | values =>
    refine exists_yields_of_query (hreads nofun) fun rows hrows => ?_
    exact ⟨_, .values hop hshape hrows (each_iff.2 rfl)⟩
  | count =>
    refine exists_yields_of_query (hreads nofun) fun rows hrows => ?_
    exact ⟨_, .count hop hshape hrows (counted_iff.2 rfl)⟩
  | existence =>
    refine exists_yields_of_query (hreads nofun) fun rows hrows => ?_
    exact ⟨_, .existence hop hshape hrows (tested_iff.2 rfl)⟩
  | deletedRows =>
    have hkey : p.deletesByKey = true := deletesByKey_eq_true_iff.2 ⟨hop, Or.inl hshape⟩
    refine exists_yields_of_key hkey fun rows n hrows hremoved => ?_
    exact ⟨_, .deletedRows hkey hshape hrows hremoved (each_iff.2 rfl)⟩
  | affected =>
    cases hkey : p.deletesByKey with
    | true =>
      exact exists_yields_of_key hkey fun rows n hrows hremoved =>
        ⟨_, .affectedByKey hkey hshape hrows hremoved⟩
    | false => exact ⟨_, .affected hop hkey hshape rfl⟩
  | unit =>
    cases hkey : p.deletesByKey with
    | true =>
      exact exists_yields_of_key hkey fun rows n hrows hremoved =>
        ⟨_, .doneByKey hkey hshape hrows hremoved⟩
    | false => exact ⟨_, .done hop hkey hshape rfl⟩

theorem yields_iff (h : p.operation.allows p.shape = true)
    {r : Except QueryError (QueryResult α)} :
    p.Yields settings t map s r ↔ (afterAnnouncement settings t map p s).result = r := by
  constructor
  · exact Yields.result_eq
  · rintro rfl
    obtain ⟨r, hr⟩ : ∃ r, p.Yields settings t map s r := exists_yields h
    rw [hr.result_eq]
    exact hr

theorem hasShape_of_map {β : Type} {f : β → QueryResult α} {operation : Operation}
    {shape : ResultShape} (hop : p.operation = operation) (hshape : p.shape = shape)
    (hf : ∀ b, (f b).HasShape operation shape) {x : Except QueryError β} {r : QueryResult α}
    (h : x.map f = .ok r) : r.HasShape p.operation p.shape := by
  obtain ⟨b, -, rfl⟩ := Fallible.map_eq_ok_iff.1 h
  rw [hop, hshape]
  exact hf b

theorem Yields.hasShape {r : QueryResult α} (h : p.Yields settings t map s (.ok r)) :
    r.HasShape p.operation p.shape := by
  generalize hresult : Except.ok r = result at h
  cases h with
  | unanswered | unremoved => cases hresult
  | many hop hshape => exact hasShape_of_map hop hshape .many hresult.symm
  | one hop hshape => exact hasShape_of_map hop hshape .one hresult.symm
  | values hop hshape => exact hasShape_of_map hop hshape .values hresult.symm
  | count hop hshape => exact hasShape_of_map hop hshape .count hresult.symm
  | existence hop hshape => exact hasShape_of_map hop hshape .existence hresult.symm
  | deletedRows hkey hshape =>
    exact hasShape_of_map (operation_of_deletesByKey hkey) hshape .deletedRows hresult.symm
  | affectedByKey hkey hshape =>
    cases hresult
    rw [operation_of_deletesByKey hkey, hshape]
    exact .affected _
  | doneByKey hkey hshape =>
    cases hresult
    rw [operation_of_deletesByKey hkey, hshape]
    exact .unit
  | affected hop _ hshape => exact hasShape_of_map hop hshape .affected hresult.symm
  | done hop _ hshape => exact hasShape_of_map hop hshape (fun _ => .unit) hresult.symm

/-- A plan that has been compiled gives the results of its operation in the declared shape, and no
others. Once its statement is rendered, what comes of it is settled by the answers of the store. -/
theorem result_has_declared_shape {entity : Entity} {query : QueryName}
    {parameters : List ParameterType} {shape : ResultShape}
    (hcompile : compile entity query parameters shape = .ok p) (settings : Settings) (t : Transport)
    (map : RowMapper α) (bound : BoundArguments) :
    (∀ e, p.render bound.orderBy bound.page = .error e →
      (dispatch settings t map p bound).result = .error e) ∧
    (∀ sql, p.render bound.orderBy bound.page = .ok sql → ∀ r,
      (dispatch settings t map p bound).result = r ↔
        p.Yields settings t map ⟨sql, bound.bindings⟩ r) ∧
    ∀ r, (dispatch settings t map p bound).result = .ok r → r.HasShape query.operation shape := by
  have hfrom := compiledFrom_of_compile hcompile
  have hallowed : p.operation.allows p.shape = true := by
    rw [hfrom.operation, hfrom.shape]
    exact (checkSignature_eq_ok_iff.1 hfrom.signature).shape
  have hfailed : ∀ e, p.render bound.orderBy bound.page = .error e →
      (dispatch settings t map p bound).result = .error e := by
    intro e h
    rw [dispatch_of_render_error h, Outcome.result_fail]
  have hyields : ∀ sql, p.render bound.orderBy bound.page = .ok sql → ∀ r,
      (dispatch settings t map p bound).result = r ↔
        p.Yields settings t map ⟨sql, bound.bindings⟩ r := by
    intro sql h r
    rw [result_dispatch_of_render h, yields_iff hallowed]
  refine ⟨hfailed, hyields, fun r hr => ?_⟩
  cases hrender : p.render bound.orderBy bound.page with
  | error e =>
    rw [hfailed e hrender] at hr
    cases hr
  | ok sql =>
    rw [← hfrom.operation, ← hfrom.shape]
    exact ((hyields sql hrender _).1 hr).hasShape

end Plan

namespace Example

open Plan

def boughtTrades : BoundArguments := ⟨[⟨"tag0", .string "BUY"⟩], none, none⟩

/-- A single trade is asked for and two are found: they are refused unread. -/
theorem result_has_declared_shape_twoTrades :
    ∃ query p sql, QueryName.parse "findByAction" = .ok query ∧
      compile trades query [.string] .one = .ok p ∧ p.render none none = .ok sql ∧
      ∀ map : RowMapper Trade,
        p.Yields { strictSingleResult := true } twoTrades map ⟨sql, boughtTrades.bindings⟩
          (.error (.nonUniqueResult 2)) ∧
        (dispatch { strictSingleResult := true } twoTrades map p boughtTrades).result =
          .error (.nonUniqueResult 2) := by
  have hparts : (QueryName.parse "findByAction").toOption.bind (fun query =>
      (compile trades query [.string] .one).toOption.map fun p =>
        (p.operation, p.shape, (p.render none none).toOption.isSome)) =
      some (.find, .one, true) := by
    decide +kernel
  obtain ⟨query, hquery, hparts⟩ := Option.bind_eq_some_iff.1 hparts
  obtain ⟨p, hp, hparts⟩ := Option.map_eq_some_iff.1 hparts
  obtain ⟨hop, hparts⟩ := Prod.mk.inj hparts
  obtain ⟨hshape, hrendered⟩ := Prod.mk.inj hparts
  obtain ⟨sql, hsql⟩ := Option.isSome_iff_exists.1 hrendered
  have hcompile := Fallible.eq_ok_of_toOption hp
  have hrender := Fallible.eq_ok_of_toOption hsql
  refine ⟨query, p, sql, Fallible.eq_ok_of_toOption hquery, hcompile, hrender, fun map => ?_⟩
  obtain ⟨-, hyields, -⟩ := result_has_declared_shape hcompile { strictSingleResult := true }
    twoTrades map boughtTrades
  have hpicked : Execution.Picked true map
      [⟨[("id", .string "t1")]⟩, ⟨[("id", .string "t2")]⟩] (.error (.nonUniqueResult 2)) :=
    .refused rfl (by decide)
  have hrefused : p.Yields { strictSingleResult := true } twoTrades map
      ⟨sql, boughtTrades.bindings⟩ ((Except.error (.nonUniqueResult 2)).map .one) :=
    .one hop hshape rfl hpicked
  exact ⟨hrefused, (hyields sql hrender _).2 hrefused⟩

end Example

end DerivedQuery
