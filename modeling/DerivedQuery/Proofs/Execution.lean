import DerivedQuery.Execution
import DerivedQuery.Proofs.Fallible
import DerivedQuery.Proofs.Outcome

/-!
The statements of a bound call as data: `statements_dispatch` gives them in order, whatever the
store answers and however the call ends.
-/

namespace DerivedQuery

/-- The statements that reach the store after a plan's own one has returned rows. -/
def Plan.deletions (p : Plan) (rows : List Row) : List (Access × Statement) :=
  if rows.isEmpty then []
  else
    match Execution.keyDeletion p rows with
    | .ok deletion => [(.update, deletion)]
    | .error _ => []

/-- The statements that reach the store when the plan's own one is `s`. -/
def Plan.accesses (p : Plan) (t : Transport) (s : Statement) : List (Access × Statement) :=
  if p.deletesByKey then
    (.query, s) :: match t.query s with
      | .ok rows => p.deletions rows
      | .error _ => []
  else if p.operation = .delete then [(.update, s)]
  else [(.query, s)]

namespace Plan

variable {p : Plan} {t : Transport} {s : Statement}

theorem operation_of_deletesByKey (h : p.deletesByKey = true) : p.operation = .delete := by
  simp only [deletesByKey, Bool.and_eq_true, beq_iff_eq] at h
  exact h.1

theorem mem_deletions {rows : List Row} {access : Access} {d : Statement} :
    (access, d) ∈ p.deletions rows ↔
      access = .update ∧ rows ≠ [] ∧ Execution.keyDeletion p rows = .ok d := by
  unfold deletions
  cases rows with
  | nil => simp
  | cons row rows =>
    cases h : Execution.keyDeletion p (row :: rows) with
    | error e => simp
    | ok deletion => simp [eq_comm]

theorem mem_accesses_query {d : Statement} :
    (Access.query, d) ∈ p.accesses t s ↔
      d = s ∧ (p.deletesByKey = true ∨ p.operation ≠ .delete) := by
  unfold accesses
  by_cases hkey : p.deletesByKey = true
  · cases hrows : t.query s with
    | error e => simp [hkey]
    | ok rows => simp [hkey, mem_deletions]
  · by_cases hop : p.operation = .delete <;> simp [hkey, hop]

theorem mem_accesses_update {d : Statement} :
    (Access.update, d) ∈ p.accesses t s ↔
      p.operation = .delete ∧ p.deletesByKey = false ∧ d = s ∨
      p.deletesByKey = true ∧
        ∃ rows, t.query s = .ok rows ∧ rows ≠ [] ∧ Execution.keyDeletion p rows = .ok d := by
  unfold accesses
  by_cases hkey : p.deletesByKey = true
  · cases hrows : t.query s with
    | error e => simp [hkey]
    | ok rows => simp [hkey, mem_deletions]
  · by_cases hop : p.operation = .delete <;> simp [hkey, hop]

end Plan

theorem Row.get_eq_ok_iff {r : Row} {column : String} {v : WireValue} :
    r.get column = .ok v ↔ r.get? column = some v := by
  unfold Row.get
  cases r.get? column <;> simp

namespace Execution

variable {α : Type}

open Outcome

/-- Rows can be deleted by their keys exactly if each has every key column. -/
theorem exists_keyDeletion_iff {p : Plan} {rows : List Row} :
    (∃ d, keyDeletion p rows = .ok d) ↔
      ∀ row ∈ rows, ∀ column ∈ p.primaryKey, (row.get? column).isSome := by
  have hkeys : (∃ d, keyDeletion p rows = .ok d) ↔
      ∃ keys, rows.mapM (fun row => p.primaryKey.mapM row.get) = .ok keys := by
    unfold keyDeletion
    simp only [Fallible.bind_eq_ok_iff]
    constructor
    · rintro ⟨d, keys, hkeys, -⟩
      exact ⟨keys, hkeys⟩
    · rintro ⟨keys, hkeys⟩
      exact ⟨_, keys, hkeys, rfl⟩
  rw [hkeys, Fallible.exists_mapM_eq_ok_iff]
  simp only [Fallible.exists_mapM_eq_ok_iff, Row.get_eq_ok_iff, Option.isSome_iff_exists]

@[simp] theorem result_run (operation : Operation) (access : Access) (s : Statement)
    (answer : Except QueryError α) : (run operation access s answer).result = answer := by
  cases answer <;> rfl

@[simp] theorem statements_run (operation : Operation) (access : Access) (s : Statement)
    (answer : Except QueryError α) :
    (run operation access s answer).statements = [(access, s)] := by
  cases answer <;> rfl

@[simp] theorem result_announce (settings : Settings) (p : Plan) (s : Statement) :
    (announce settings p s).result = .ok () := by
  unfold announce
  split <;> rfl

@[simp] theorem statements_announce (settings : Settings) (p : Plan) (s : Statement) :
    (announce settings p s).statements = [] := by
  unfold announce
  split <;> rfl

theorem statements_singleRow (settings : Settings) (p : Plan) (map : RowMapper α)
    (rows : List Row) : (singleRow settings p map rows).statements = [] := by
  unfold singleRow
  cases rows with
  | nil => rfl
  | cons row rows =>
    cases rows with
    | nil => rfl
    | cons second rows => cases h : settings.strictSingleResult <;> rfl

theorem statements_shapeRows (settings : Settings) (p : Plan) (map : RowMapper α)
    (rows : List Row) : (shapeRows settings p map rows).statements = [] := by
  unfold shapeRows
  split
  · exact statements_singleRow settings p map rows
  · rfl
  · rfl

theorem statements_deleteRows (settings : Settings) (t : Transport) (p : Plan)
    (rows : List Row) : (deleteRows settings t p rows).statements = p.deletions rows := by
  unfold deleteRows Plan.deletions
  split
  · rfl
  · cases keyDeletion p rows with
    | error e => rfl
    | ok deletion =>
      simp only [bind_eq_andThen, ofExcept_ok, ok_andThen]
      rw [statements_andThen_of_ok _ (result_announce settings p deletion), statements_announce]
      exact statements_run ..

theorem result_deleteRows (settings : Settings) (t : Transport) (p : Plan) (rows : List Row) :
    (deleteRows settings t p rows).result =
      if rows.isEmpty then .ok 0 else (keyDeletion p rows).bind t.update := by
  unfold deleteRows
  split
  · rfl
  · cases keyDeletion p rows with
    | error e => rfl
    | ok deletion =>
      simp only [bind_eq_andThen, ofExcept_ok, ok_andThen]
      rw [result_andThen, result_announce]
      exact result_run ..

/-- What `dispatch` does after it has announced its own statement. -/
def afterAnnouncement (settings : Settings) (t : Transport) (map : RowMapper α) (p : Plan)
    (s : Statement) : Outcome (QueryResult α) :=
  match p.operation with
  | .find => (runQuery t p s).andThen (shapeRows settings p map)
  | .count => (runQuery t p s).andThen fun rows => ofExcept ((countOf rows).map .count)
  | .exist => (runQuery t p s).andThen fun rows => ofExcept ((existenceOf rows).map .existence)
  | .delete =>
    if p.deletesByKey then
      (runQuery t p s).andThen fun rows =>
        (deleteRows settings t p rows).andThen fun affected =>
          if p.shape = .many then ofExcept ((mapRows map rows).map .many)
          else ok (deletionResult p affected)
    else (runUpdate t p s).andThen fun affected => ok (deletionResult p affected)

theorem dispatch_eq (settings : Settings) (t : Transport) (map : RowMapper α) (p : Plan)
    (bound : BoundArguments) :
    dispatch settings t map p bound =
      (ofExcept (p.render bound.orderBy bound.page)).andThen fun sql =>
        (announce settings p ⟨sql, bound.bindings⟩).andThen fun _ =>
          afterAnnouncement settings t map p ⟨sql, bound.bindings⟩ := by
  rfl

theorem statements_afterAnnouncement (settings : Settings) (t : Transport) (map : RowMapper α)
    (p : Plan) (s : Statement) :
    (afterAnnouncement settings t map p s).statements = p.accesses t s := by
  unfold afterAnnouncement Plan.accesses
  by_cases hkey : p.deletesByKey = true
  · simp only [Plan.operation_of_deletesByKey hkey, hkey, if_true]
    have hquery : (runQuery t p s).result = t.query s := result_run ..
    cases hrows : t.query s with
    | error e =>
      rw [statements_andThen_of_error _ (hquery.trans hrows)]
      exact statements_run ..
    | ok rows =>
      rw [statements_andThen_of_ok _ (hquery.trans hrows),
        statements_andThen_of_silent (by intro affected; split <;> rfl), statements_deleteRows]
      simp only [runQuery, statements_run, List.singleton_append]
  · cases hop : p.operation <;> simp only [hkey, if_false, reduceCtorEq, if_true]
    · rw [statements_andThen_of_silent (statements_shapeRows settings p map)]
      exact statements_run ..
    · rw [statements_andThen_of_silent (fun _ => rfl)]
      exact statements_run ..
    · rw [statements_andThen_of_silent (fun _ => rfl)]
      exact statements_run ..
    · rw [statements_andThen_of_silent (fun _ => rfl)]
      exact statements_run ..

/-- A deletion by key ends with the rows or with their number. -/
theorem result_afterAnnouncement_of_deletesByKey {p : Plan} (h : p.deletesByKey = true)
    (settings : Settings) (t : Transport) (map : RowMapper α) (s : Statement) :
    (afterAnnouncement settings t map p s).result =
      (t.query s).bind fun rows =>
        (if rows.isEmpty then .ok 0 else (keyDeletion p rows).bind t.update).bind fun affected =>
          if p.shape = .many then (mapRows map rows).map .many
          else .ok (deletionResult p affected) := by
  unfold afterAnnouncement
  simp only [Plan.operation_of_deletesByKey h, h, if_true, result_andThen, runQuery, result_run,
    result_deleteRows]
  cases t.query s with
  | error e => rfl
  | ok rows =>
    by_cases hshape : p.shape = .many
    · simp only [Except.bind, hshape, if_true, result_ofExcept]
    · simp only [Except.bind, hshape, if_false, result_ok]

theorem result_afterAnnouncement_of_bulk {p : Plan} (hop : p.operation = .delete)
    (h : p.deletesByKey = false) (settings : Settings) (t : Transport) (map : RowMapper α)
    (s : Statement) :
    (afterAnnouncement settings t map p s).result = (t.update s).map (deletionResult p) := by
  unfold afterAnnouncement
  simp only [hop, h, Bool.false_eq_true, if_false, result_andThen, runUpdate, result_run]
  cases t.update s <;> rfl

section Errors

open Fallible

variable {P : QueryError → Prop}

theorem fails_andThen {β : Type} {x : Outcome α} {f : α → Outcome β} (hx : Fails P x.result)
    (hf : ∀ a, Fails P (f a).result) : Fails P (x.andThen f).result := by
  rw [result_andThen]
  exact .bind hx hf

theorem fails_get (hP : ∀ fault, P (.rowMapping fault)) (r : Row) (column : String) :
    Fails P (r.get column) := by
  unfold Row.get
  split
  · exact .ok _
  · exact .error (hP _)

theorem fails_keyDeletion (hP : ∀ fault, P (.rowMapping fault)) (p : Plan) (rows : List Row) :
    Fails P (keyDeletion p rows) :=
  .bind (.mapM fun row _ => .mapM fun column _ => fails_get hP row column) fun _ => .ok _

theorem fails_countOf (hP : ∀ fault, P (.rowMapping fault)) (rows : List Row) :
    Fails P (countOf rows) := by
  unfold countOf
  split
  · exact .ok _
  · split
    · exact .ok _
    · exact .error (hP _)

theorem fails_existenceOf (hP : ∀ fault, P (.rowMapping fault)) (rows : List Row) :
    Fails P (existenceOf rows) := by
  unfold existenceOf
  split
  · exact .ok _
  · split
    · exact .ok _
    · exact .error (hP _)

variable {settings : Settings} {t : Transport} {map : RowMapper α}
  (hP : ∀ fault, P (.rowMapping fault)) (hunique : ∀ n, P (.nonUniqueResult n))
  (hmap : ∀ row, Fails P (map row))

include hP hunique hmap

theorem fails_shapeRows (p : Plan) (rows : List Row) :
    Fails P (shapeRows settings p map rows).result := by
  unfold shapeRows
  split
  · unfold singleRow
    cases rows with
    | nil => exact .ok _
    | cons row rows =>
      cases rows with
      | nil => exact .map _ (hmap row)
      | cons second rows =>
        cases h : settings.strictSingleResult with
        | true => exact .error (hunique _)
        | false => exact .map _ (hmap row)
  · refine .map _ (.mapM fun row _ => ?_)
    split
    · exact .ok _
    · exact .error (hP _)
  · exact .map _ (.mapM fun row _ => hmap row)

/-- An announced statement fails as the store and the row mapper do, or over the rows. -/
theorem fails_afterAnnouncement (hquery : ∀ s, Fails P (t.query s))
    (hupdate : ∀ s, Fails P (t.update s)) (p : Plan) (s : Statement) :
    Fails P (afterAnnouncement settings t map p s).result := by
  have hrows : Fails P (runQuery t p s).result := by
    rw [runQuery, result_run]
    exact hquery s
  unfold afterAnnouncement
  split
  · exact fails_andThen hrows fun rows => fails_shapeRows hP hunique hmap p rows
  · exact fails_andThen hrows fun rows => .map _ (fails_countOf hP rows)
  · exact fails_andThen hrows fun rows => .map _ (fails_existenceOf hP rows)
  · split
    · refine fails_andThen hrows fun rows => fails_andThen ?_ fun affected => ?_
      · rw [result_deleteRows]
        split
        · exact .ok _
        · exact .bind (fails_keyDeletion hP p rows) hupdate
      · split
        · exact .map _ (.mapM fun row _ => hmap row)
        · exact .ok _
    · refine fails_andThen ?_ fun affected => .ok _
      rw [runUpdate, result_run]
      exact hupdate s

end Errors

theorem statements_dispatch_of_render {settings : Settings} {t : Transport} {map : RowMapper α}
    {p : Plan} {bound : BoundArguments} {sql : String}
    (h : p.render bound.orderBy bound.page = .ok sql) :
    (dispatch settings t map p bound).statements = p.accesses t ⟨sql, bound.bindings⟩ := by
  rw [dispatch_eq, h, ofExcept_ok, ok_andThen, statements_andThen_of_ok _ (result_announce ..),
    statements_announce, List.nil_append, statements_afterAnnouncement]

theorem result_dispatch_of_render {settings : Settings} {t : Transport} {map : RowMapper α}
    {p : Plan} {bound : BoundArguments} {sql : String}
    (h : p.render bound.orderBy bound.page = .ok sql) :
    (dispatch settings t map p bound).result =
      (afterAnnouncement settings t map p ⟨sql, bound.bindings⟩).result := by
  rw [dispatch_eq, h, ofExcept_ok, ok_andThen, result_andThen, result_announce]
  rfl

theorem dispatch_of_render_error {settings : Settings} {t : Transport} {map : RowMapper α}
    {p : Plan} {bound : BoundArguments} {e : QueryError}
    (h : p.render bound.orderBy bound.page = .error e) :
    dispatch settings t map p bound = fail e := by
  rw [dispatch_eq, h, ofExcept_error, fail_andThen]

end Execution

end DerivedQuery
