import DerivedQuery.Proofs.Execution
import DerivedQuery.Proofs.Numeral

/-!
Deletions by key. The comparisons in their text and the values in their bindings are numbered apart,
yet both count through the key columns of one fetched row after another. So a stored row meets the
condition of a deletion exactly if its key is the key of a fetched row.
-/

namespace DerivedQuery

namespace Sql

/-- The comparison of a column with the value bound to a tag. -/
structure Equation where
  column : String
  tag : Nat
  deriving DecidableEq, Repr

namespace Equation

def text (e : Equation) : String := e.column ++ "=@tag" ++ toString e.tag

theorem text_eq (e : Equation) : e.text = e.column ++ "=" ++ reference e.tag := by
  have hmark : "=" ++ ("@" ++ "tag") = "=@tag" := rfl
  rw [text, reference, tagName, ← hmark]
  simp only [String.append_assoc]

/-- The row has the bound value in the column. -/
def Holds (s : Statement) (stored : Row) (e : Equation) : Prop :=
  ∃ v, s.value? ("tag" ++ toString e.tag) = some v ∧ stored.get? e.column = some v

end Equation

end Sql

/-- One of the groups holds, with all its comparisons. -/
def Statement.Selects (s : Statement) (groups : List (List Sql.Equation)) (stored : Row) : Prop :=
  ∃ g ∈ groups, ∀ e ∈ g, e.Holds s stored

namespace Plan

open Sql

/-- The values of a row in the key columns, where it has them. -/
def keyOf (p : Plan) (r : Row) : List (Option WireValue) := p.primaryKey.map r.get?

def HasKey (p : Plan) (r : Row) : Prop := ∀ column ∈ p.primaryKey, (r.get? column).isSome

/-- The comparisons for the `i`-th fetched row, one for each key column. -/
def keyGroup (p : Plan) (i : Nat) : List Equation :=
  p.primaryKey.mapIdx fun j column => ⟨column, i * p.primaryKey.length + j⟩

def keyGroups (p : Plan) (rows : Nat) : List (List Equation) := (List.range rows).map p.keyGroup

/-- The condition on the keys of that many fetched rows, as a statement has it. -/
def keyCondition (p : Plan) (rows : Nat) : String :=
  " OR ".intercalate ((p.keyGroups rows).map fun g =>
    "( " ++ " AND ".intercalate (g.map Equation.text) ++ " )")

/-- A deletion of the stored rows that have the key of a fetched row. -/
structure Targets (p : Plan) (rows : List Row) (d : Statement) : Prop where
  text : d.sql = "DELETE FROM " ++ p.table ++ " WHERE " ++ p.keyCondition rows.length
  length : d.bindings.length = rows.length * p.primaryKey.length
  bound : ∀ i j row column, rows[i]? = some row → p.primaryKey[j]? = some column →
    d.value? ("tag" ++ toString (i * p.primaryKey.length + j)) = row.get? column
  selects : ∀ stored, d.Selects (p.keyGroups rows.length) stored ↔
    ∃ row ∈ rows, p.keyOf stored = p.keyOf row

/-- Of all key columns that a row lacks, row by row, this is the first. -/
inductive FirstMissing (p : Plan) : List Row → String → Prop
  | mk {before after : List Row} {row : Row} {present absent : List String} {column : String}
      (complete : ∀ r ∈ before, p.HasKey r) (key : p.primaryKey = present ++ column :: absent)
      (has : ∀ c ∈ present, (row.get? c).isSome) (lacks : row.get? column = none) :
      FirstMissing p (before ++ row :: after) column

/-- Values bound to the tags of their positions. -/
def bindInOrder (values : List WireValue) : List TagBinding :=
  values.zipIdx.map fun (value, i) => ⟨tagName i, value⟩

theorem length_bindInOrder (values : List WireValue) :
    (bindInOrder values).length = values.length := by
  simp [bindInOrder]

theorem tags_bindInOrder (values : List WireValue) :
    (bindInOrder values).map (·.tag) = (List.range values.length).map tagName := by
  rw [List.range_eq_range', ← List.zipIdx_map_snd, bindInOrder, List.map_map, List.map_map]
  rfl

theorem value?_bindInOrder (sql : String) (values : List WireValue) (n : Nat) :
    (⟨sql, bindInOrder values⟩ : Statement).value? (tagName n) = values[n]? := by
  have hfind : ∀ start m, ((values.zipIdx start).find? fun entry =>
      tagName entry.2 == tagName (start + m)).map (·.1) = values[m]? := by
    induction values with
    | nil => simp
    | cons value values ih =>
      intro start m
      cases m with
      | zero => simp
      | succ m =>
        have hne : tagName start ≠ tagName (start + (m + 1)) := by
          intro heq
          have := tagName_injective heq
          omega
        have hnext : start + (m + 1) = start + 1 + m := by omega
        rw [List.zipIdx_cons, List.find?_cons_of_neg (by simpa using hne), hnext, ih]
        simp
  have hzero := hfind 0 n
  rw [Nat.zero_add] at hzero
  rw [Statement.value?, bindInOrder, List.find?_map, Option.map_map]
  exact hzero

variable {p : Plan} {rows : List Row}

theorem keyCondition_eq (p : Plan) (rows : Nat) :
    p.keyCondition rows = Sql.condition ((p.keyGroups rows).map (·.map Equation.text)) := by
  rw [keyCondition, Sql.condition, List.map_map]
  rfl

/-- The counter of the text gives each row and column the tag of its place. -/
theorem map_text_keyTags (p : Plan) (rows : Nat) :
    (keyTags p.primaryKey 0 rows).map (·.map fun entry => entry.1 ++ "=" ++ reference entry.2) =
      (p.keyGroups rows).map (·.map Equation.text) := by
  rw [keyTags_eq, keyGroups, List.map_map, List.map_map]
  refine List.map_congr_left fun i _ => ?_
  rw [Function.comp_apply, Function.comp_apply, keyGroup, List.mapIdx_eq_zipIdx_map,
    List.zipIdx_eq_map_add, Nat.zero_add, List.map_map, List.map_map]
  refine List.map_congr_left fun (column, j) _ => ?_
  exact (Equation.text_eq ⟨column, i * p.primaryKey.length + j⟩).symm

theorem keyDelete_eq (p : Plan) (rows : Nat) :
    p.keyDelete rows = "DELETE FROM " ++ p.table ++ " WHERE " ++ p.keyCondition rows := by
  rw [keyCondition_eq, ← map_text_keyTags]
  rfl

theorem forall₂_keys {keys : List (List WireValue)}
    (h : rows.mapM (fun row => p.primaryKey.mapM row.get) = .ok keys) :
    List.Forall₂ (fun row key => p.keyOf row = key.map some) rows keys := by
  refine (Fallible.mapM_eq_ok_iff.1 h).imp fun row key hkey => ?_
  have hvalues := Fallible.mapM_eq_ok_iff.1 hkey
  rw [keyOf, ← List.forall₂_eq_eq_eq, List.forall₂_map_left_iff, List.forall₂_map_right_iff]
  exact hvalues.imp fun column v hv => Row.get_eq_ok_iff.1 hv

theorem length_of_mem_keys {keys : List (List WireValue)}
    (h : rows.mapM (fun row => p.primaryKey.mapM row.get) = .ok keys) :
    ∀ key ∈ keys, key.length = p.primaryKey.length := by
  intro key hkey
  obtain ⟨row, -, hrow⟩ := Fallible.exists_mem_of_forall₂ (forall₂_keys h) hkey
  simpa [keyOf] using (congrArg List.length hrow).symm

theorem length_flatten_of_keys {keys : List (List WireValue)}
    (h : rows.mapM (fun row => p.primaryKey.mapM row.get) = .ok keys) :
    keys.flatten.length = rows.length * p.primaryKey.length := by
  have hwidths : keys.map List.length = List.replicate keys.length p.primaryKey.length :=
    List.eq_replicate_iff.2 ⟨by simp, by simpa using length_of_mem_keys h⟩
  rw [List.length_flatten, hwidths, List.sum_replicate_nat, (forall₂_keys h).length_eq]

/-- In a list of rows of one width, the `j`-th of the `i`-th row. -/
theorem getElem?_flatten_of_length {α : Type} {xss : List (List α)} {width : Nat}
    (h : ∀ xs ∈ xss, xs.length = width) {j : Nat} (hj : j < width) (i : Nat) :
    xss.flatten[i * width + j]? = xss[i]?.bind (·[j]?) := by
  induction xss generalizing i with
  | nil => simp
  | cons xs xss ih =>
    obtain ⟨hxs, hxss⟩ := List.forall_mem_cons.1 h
    cases i with
    | zero =>
      rw [List.flatten_cons, List.getElem?_append_left (by omega)]
      simp
    | succ i =>
      have hskip : (i + 1) * width + j - xs.length = i * width + j := by
        rw [Nat.succ_mul, hxs]
        omega
      have hle : xs.length ≤ (i + 1) * width + j := by
        rw [Nat.succ_mul, hxs]
        omega
      rw [List.flatten_cons, List.getElem?_append_right hle, hskip, ih hxss,
        List.getElem?_cons_succ]

/-- The value bound for a row and a key column. -/
theorem getElem?_flatten_of_keys {keys : List (List WireValue)}
    (h : rows.mapM (fun row => p.primaryKey.mapM row.get) = .ok keys) {i j : Nat} {row : Row}
    {column : String} (hi : rows[i]? = some row) (hj : p.primaryKey[j]? = some column) :
    keys.flatten[i * p.primaryKey.length + j]? = row.get? column := by
  have hlt : j < p.primaryKey.length := (List.getElem?_eq_some_iff.1 hj).1
  rw [getElem?_flatten_of_length (length_of_mem_keys h) hlt]
  have hkeys : rows.map p.keyOf = keys.map (·.map some) := by
    rw [← List.forall₂_eq_eq_eq, List.forall₂_map_left_iff, List.forall₂_map_right_iff]
    exact forall₂_keys h
  have hkey : (keys.map (·.map some))[i]? = some (p.keyOf row) := by
    rw [← hkeys, List.getElem?_map, hi]
    rfl
  obtain ⟨key, hmem, hkeyOf⟩ := Option.map_eq_some_iff.1 (List.getElem?_map.symm.trans hkey)
  have hvalue : key[j]?.map some = some (row.get? column) := by
    rw [← List.getElem?_map, hkeyOf, keyOf, List.getElem?_map, hj]
    rfl
  obtain ⟨v, hv, hsome⟩ := Option.map_eq_some_iff.1 hvalue
  rw [hmem, Option.bind_some, hv, hsome]

theorem mem_keyGroup {i : Nat} {e : Equation} :
    e ∈ p.keyGroup i ↔
      ∃ j column, p.primaryKey[j]? = some column ∧ e = ⟨column, i * p.primaryKey.length + j⟩ := by
  rw [List.mem_iff_getElem?]
  simp only [keyGroup, List.getElem?_mapIdx, Option.map_eq_some_iff]
  constructor
  · rintro ⟨j, column, hj, rfl⟩
    exact ⟨j, column, hj, rfl⟩
  · rintro ⟨j, column, hj, rfl⟩
    exact ⟨j, column, hj, rfl⟩

variable {d : Statement}

/-- The comparisons for a fetched row hold of the stored rows that have its key. -/
theorem holds_keyGroup_iff {i : Nat} {row : Row} (hkey : p.HasKey row)
    (hbound : ∀ j column, p.primaryKey[j]? = some column →
      d.value? (tagName (i * p.primaryKey.length + j)) = row.get? column) (stored : Row) :
    (∀ e ∈ p.keyGroup i, e.Holds d stored) ↔ p.keyOf stored = p.keyOf row := by
  rw [keyOf, keyOf, List.map_inj_left]
  constructor
  · intro h column hcolumn
    obtain ⟨j, hj⟩ := List.mem_iff_getElem?.1 hcolumn
    obtain ⟨v, hv, hstored⟩ := h _ (mem_keyGroup.2 ⟨j, column, hj, rfl⟩)
    exact hstored.trans (hv.symm.trans (hbound j column hj))
  · intro h e he
    obtain ⟨j, column, hj, rfl⟩ := mem_keyGroup.1 he
    have hcolumn : column ∈ p.primaryKey := List.mem_of_getElem? hj
    obtain ⟨v, hv⟩ := Option.isSome_iff_exists.1 (hkey column hcolumn)
    exact ⟨v, (hbound j column hj).trans hv, (h column hcolumn).trans hv⟩

theorem selects_keyGroups_iff (hkeys : ∀ row ∈ rows, p.HasKey row)
    (hbound : ∀ i j row column, rows[i]? = some row → p.primaryKey[j]? = some column →
      d.value? (tagName (i * p.primaryKey.length + j)) = row.get? column) (stored : Row) :
    d.Selects (p.keyGroups rows.length) stored ↔ ∃ row ∈ rows, p.keyOf stored = p.keyOf row := by
  have hgroup : ∀ i row, rows[i]? = some row →
      ((∀ e ∈ p.keyGroup i, e.Holds d stored) ↔ p.keyOf stored = p.keyOf row) := fun i row hi =>
    holds_keyGroup_iff (hkeys row (List.mem_of_getElem? hi))
      (fun j column hj => hbound i j row column hi hj) stored
  constructor
  · rintro ⟨g, hg, hall⟩
    obtain ⟨i, hi, rfl⟩ := List.mem_map.1 hg
    have hlt : i < rows.length := List.mem_range.1 hi
    have hrow : rows[i]? = some rows[i] := List.getElem?_eq_getElem hlt
    exact ⟨rows[i], List.getElem_mem hlt, (hgroup i _ hrow).1 hall⟩
  · rintro ⟨row, hrow, hkey⟩
    obtain ⟨i, hi⟩ := List.mem_iff_getElem?.1 hrow
    have hlt : i < rows.length := (List.getElem?_eq_some_iff.1 hi).1
    exact ⟨p.keyGroup i, List.mem_map_of_mem (List.mem_range.2 hlt), (hgroup i row hi).2 hkey⟩

end Plan

namespace Execution

open Sql Plan

variable {p : Plan} {rows : List Row} {d : Statement}

theorem keyDeletion_eq_ok_iff :
    keyDeletion p rows = .ok d ↔
      ∃ keys, rows.mapM (fun row => p.primaryKey.mapM row.get) = .ok keys ∧
        d = ⟨p.keyDelete rows.length, bindInOrder keys.flatten⟩ := by
  unfold keyDeletion
  rw [Fallible.bind_eq_ok_iff]
  constructor
  · rintro ⟨keys, hkeys, hd⟩
    exact ⟨keys, hkeys, (Except.ok.inj hd).symm⟩
  · rintro ⟨keys, hkeys, rfl⟩
    exact ⟨keys, hkeys, rfl⟩

theorem targets_of_keyDeletion (h : keyDeletion p rows = .ok d) : p.Targets rows d := by
  obtain ⟨keys, hkeys, hd⟩ := keyDeletion_eq_ok_iff.1 h
  have hbound : ∀ i j row column, rows[i]? = some row → p.primaryKey[j]? = some column →
      d.value? (tagName (i * p.primaryKey.length + j)) = row.get? column := by
    intro i j row column hi hj
    rw [hd, value?_bindInOrder]
    exact getElem?_flatten_of_keys hkeys hi hj
  refine ⟨?_, ?_, hbound, selects_keyGroups_iff (exists_keyDeletion_iff.1 ⟨d, h⟩) hbound⟩
  · rw [hd]
    exact keyDelete_eq p rows.length
  · rw [hd, length_bindInOrder, length_flatten_of_keys hkeys]

theorem get_eq_error_iff {r : Row} {column : String} {e : QueryError} :
    r.get column = .error e ↔ r.get? column = none ∧ e = .rowMapping (.missingColumn column) := by
  unfold Row.get
  cases r.get? column <;> simp [eq_comm]

theorem exists_get_iff {r : Row} {column : String} :
    (∃ v, r.get column = .ok v) ↔ (r.get? column).isSome := by
  simp only [Row.get_eq_ok_iff, Option.isSome_iff_exists]

theorem firstMissing_of_keyDeletion {e : QueryError} (h : keyDeletion p rows = .error e) :
    ∃ column, p.FirstMissing rows column ∧ e = .rowMapping (.missingColumn column) := by
  rcases Fallible.bind_eq_error_iff.1 h with hkeys | ⟨keys, -, hpure⟩
  · obtain ⟨before, row, after, rfl, hbefore, hrow⟩ := Fallible.mapM_eq_error_iff.1 hkeys
    obtain ⟨present, column, absent, hkey, hpresent, hcolumn⟩ := Fallible.mapM_eq_error_iff.1 hrow
    obtain ⟨hlacks, he⟩ := get_eq_error_iff.1 hcolumn
    refine ⟨column, .mk (fun r hr => ?_) hkey (fun c hc => ?_) hlacks, he⟩
    · intro c hc
      exact exists_get_iff.1 (Fallible.exists_mapM_eq_ok_iff.1 (hbefore r hr) c hc)
    · exact exists_get_iff.1 (hpresent c hc)
  · cases hpure

/-- Fetched rows that have their keys are deleted by them: the condition names the `j`-th key column
of the `i`-th row by the tag that its value is bound to, and it holds of the stored rows that have
the key of a fetched one. Otherwise nothing is deleted, for want of the first key column missing. -/
theorem keyDeletion_targets_fetched_rows (p : Plan) (rows : List Row) :
    ((∀ row ∈ rows, p.HasKey row) → ∃ d, keyDeletion p rows = .ok d ∧ p.Targets rows d) ∧
    ((∃ row ∈ rows, ¬p.HasKey row) → ∃ column, p.FirstMissing rows column ∧
      keyDeletion p rows = .error (.rowMapping (.missingColumn column))) := by
  constructor
  · intro hkeys
    obtain ⟨d, hd⟩ := exists_keyDeletion_iff.2 hkeys
    exact ⟨d, hd, targets_of_keyDeletion hd⟩
  · rintro ⟨row, hrow, hlacks⟩
    cases h : keyDeletion p rows with
    | ok d => exact absurd (exists_keyDeletion_iff.1 ⟨d, h⟩ row hrow) hlacks
    | error e =>
      obtain ⟨column, hfirst, rfl⟩ := firstMissing_of_keyDeletion h
      exact ⟨column, hfirst, rfl⟩

end Execution

namespace Example

/-- A deletion of lots, which are known by their symbol and their day. -/
def deleteLots : Plan where
  method := "deleteBy"
  operation := .delete
  shape := .many
  distinct := false
  limit := none
  table := "lots"
  columns :=
    [⟨"symbol", "symbol", .string, true⟩, ⟨"amount", "amount", .int64, false⟩,
     ⟨"day", "day", .string, true⟩]
  groups := []
  orderBy := []
  parameters := []

def lot (symbol day : String) : Row :=
  ⟨[("symbol", .string symbol), ("amount", .int64 5), ("day", .string day)]⟩

def lots : List Row := [lot "ABC" "Monday", lot "ABC" "Friday"]

def undated : Row := ⟨[("symbol", .string "XYZ"), ("amount", .int64 7)]⟩

example : (Execution.keyDeletion deleteLots lots).toOption.map (·.sql) =
    some ("DELETE FROM lots WHERE ( symbol=@tag0 AND day=@tag1 ) OR " ++
      "( symbol=@tag2 AND day=@tag3 )") := by
  decide +kernel

theorem keyDeletion_targets_lots :
    (∃ d, Execution.keyDeletion deleteLots lots = .ok d ∧ deleteLots.Targets lots d) ∧
      ∃ column, deleteLots.FirstMissing (lots ++ [undated]) column ∧
        Execution.keyDeletion deleteLots (lots ++ [undated]) =
          .error (.rowMapping (.missingColumn column)) := by
  have hdated : ∀ row ∈ lots, ∀ column ∈ deleteLots.primaryKey, (row.get? column).isSome := by
    decide +kernel
  have hundated : ¬∀ column ∈ deleteLots.primaryKey, (undated.get? column).isSome := by
    decide +kernel
  exact ⟨(Execution.keyDeletion_targets_fetched_rows deleteLots lots).1 hdated,
    (Execution.keyDeletion_targets_fetched_rows deleteLots (lots ++ [undated])).2
      ⟨undated, by simp, hundated⟩⟩

end Example

end DerivedQuery
