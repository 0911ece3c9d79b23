import Mathlib.Data.List.Nodup
import DerivedQuery.Plan.Render
import DerivedQuery.Proofs.Compile
import DerivedQuery.Proofs.References

/-!
What the statements of a plan refer to. A rendered statement refers to the leaves that compare with
a value, a deletion by key to every key value, and both in order.
-/

namespace DerivedQuery

open Sql

/-- Neither the table nor a column has an at sign in its name. -/
structure Entity.PlainNames (entity : Entity) : Prop where
  table : Plain entity.table
  columns : ∀ c ∈ entity.columns, Plain c.name

namespace Plan

/-- The numbers of the leaves whose tags the statement shows. -/
def shown (p : Plan) : List Nat := (p.leaves.filter (·.showsTag)).map (·.tag)

/-- What a plan needs for its tags to be read back from its statements. -/
structure WellTagged (p : Plan) : Prop where
  numbered : p.leaves.map (·.tag) = List.range p.leaves.length
  supported : ∀ l ∈ p.leaves, l.operator.isSupported = true
  table : Plain p.table
  columns : ∀ c ∈ p.columns, Plain c.name
  leaves : ∀ l ∈ p.leaves, Plain l.column
  orderBy : ∀ k ∈ p.orderBy, Plain k.column

theorem exists_column_of_columnKey {table : String} {columns : List Column} {k : SortKey}
    {key : ColumnKey} (h : columnKey table columns k = .ok key) :
    ∃ c ∈ columns, c.name = key.column := by
  obtain ⟨c, hfirst, rfl⟩ := columnKey_eq_ok_iff.1 h
  exact ⟨c, hfirst.mem, rfl⟩

theorem plain_of_mapM_columnKey {table : String} {columns : List Column} {keys : List SortKey}
    {columnKeys : List ColumnKey} (hcolumns : ∀ c ∈ columns, Plain c.name)
    (h : keys.mapM (columnKey table columns) = .ok columnKeys) :
    ∀ k ∈ columnKeys, Plain k.column := by
  intro k hk
  obtain ⟨key, -, hkey⟩ := Fallible.exists_mem_of_forall₂ (Fallible.mapM_eq_ok_iff.1 h) hk
  obtain ⟨c, hc, hname⟩ := exists_column_of_columnKey hkey
  exact hname ▸ hcolumns c hc

theorem wellTagged_of_compiledFrom {entity : Entity} {query : QueryName}
    {parameters : List ParameterType} {shape : ResultShape} {p : Plan}
    (h : CompiledFrom entity query parameters shape p) (hplain : entity.PlainNames) :
    p.WellTagged := by
  refine ⟨h.tags, h.supported, h.table ▸ hplain.table, h.columns ▸ hplain.columns, ?_,
    plain_of_mapM_columnKey hplain.columns h.orderBy⟩
  intro l hl
  obtain ⟨column, hcolumn, hname⟩ := h.exists_column l hl
  exact hname ▸ hplain.columns column hcolumn

theorem refersTo_leaf {l : Leaf} (hcolumn : Plain l.column)
    (hsupported : l.operator.isSupported = true) :
    RefersTo l.text (if l.showsTag then [l.tag] else []) := by
  have hcomparison : ∀ column parameter, Plain column → RefersTo parameter [l.tag] →
      RefersTo ((l.operator.comparison? column parameter).getD "")
        (if l.showsTag then [l.tag] else []) := by
    intro column parameter hcolumn hparameter
    have hsome := (l.operator.isSome_comparison? column parameter).trans hsupported
    obtain ⟨text, htext⟩ := Option.isSome_iff_exists.1 hsome
    rw [htext]
    simpa [Leaf.showsTag] using refersTo_comparison hcolumn hparameter htext
  unfold Leaf.text Leaf.sides
  cases l.fold with
  | true => exact hcomparison _ _ (plain_lower hcolumn) (refersTo_lower (refersTo_reference _))
  | false => exact hcomparison _ _ hcolumn (refersTo_reference _)

variable {p : Plan}

theorem shown_eq_flatten (p : Plan) :
    p.shown =
      (p.groups.map (·.map fun l => if l.showsTag then [l.tag] else [])).flatten.flatten := by
  rw [← List.map_flatten, shown, leaves]
  induction p.groups.flatten with
  | nil => rfl
  | cons l ls ih => cases h : l.showsTag <;> simp [h, ih]

theorem refersTo_condition (h : p.WellTagged) :
    RefersTo (Sql.condition (p.groups.map (·.map Leaf.text))) p.shown := by
  rw [shown_eq_flatten]
  apply Sql.refersTo_condition
  rw [List.forall₂_map_left_iff, List.forall₂_map_right_iff, List.forall₂_same]
  intro g hg
  rw [List.forall₂_map_left_iff, List.forall₂_map_right_iff, List.forall₂_same]
  intro l hl
  have hmem : l ∈ p.leaves := List.mem_flatten.2 ⟨g, hg, hl⟩
  exact refersTo_leaf (h.leaves l hmem) (h.supported l hmem)

theorem shown_of_no_groups (h : p.groups = []) : p.shown = [] := by simp [shown, leaves, h]

theorem refersTo_bulkDelete (h : p.WellTagged) : RefersTo p.bulkDelete p.shown := by
  have hcondition : RefersTo (p.condition.getD "true") p.shown := by
    unfold condition
    split
    · next hempty =>
      rw [shown_of_no_groups (List.isEmpty_iff.1 hempty)]
      exact Plain.refersTo (by decide)
    · exact refersTo_condition h
  exact hcondition.plain_append ((Plain.append (by decide) h.table).append (by decide))

theorem refersTo_where (h : p.WellTagged) : RefersTo (clause " WHERE " p.condition) p.shown := by
  unfold condition
  split
  · next hempty =>
    rw [shown_of_no_groups (List.isEmpty_iff.1 hempty)]
    exact Plain.refersTo (by decide)
  · exact (refersTo_condition h).plain_append (by decide)

theorem plain_key {k : ColumnKey} (h : Plain k.column) : Plain k.text := by
  have hcolumn : Plain (if k.fold then Sql.lower k.column else k.column) := by
    split
    · exact plain_lower h
    · exact h
  have hdirection : Plain k.direction.text := by cases k.direction <;> decide
  exact (hcolumn.append (by decide)).append hdirection

theorem plain_effectiveOrder (h : p.WellTagged) {orderBy : Option OrderBy}
    {page : Option PageRequest} {keys : List ColumnKey}
    (hkeys : p.effectiveOrder orderBy page = .ok keys) : ∀ k ∈ keys, Plain k.column := by
  unfold effectiveOrder at hkeys
  split at hkeys
  · exact plain_of_mapM_columnKey h.columns hkeys
  · cases hkeys
    exact h.orderBy

theorem refersTo_select (h : p.WellTagged) {orderBy : Option OrderBy} {page : Option PageRequest}
    {anyRow : Bool} {s : Select} (hs : p.select orderBy page anyRow = .ok s) :
    RefersTo s.text p.shown := by
  obtain ⟨keys, hkeys, hs⟩ := Fallible.bind_eq_ok_iff.1 hs
  cases hs
  refine Select.refersTo_text ?_ h.table (refersTo_where h) ?_
  · exact List.forall_mem_map.2 h.columns
  · exact List.forall_mem_map.2 fun k hk => plain_key (plain_effectiveOrder h hkeys k hk)

theorem refersTo_render (h : p.WellTagged) {orderBy : Option OrderBy} {page : Option PageRequest}
    {sql : String} (hr : p.render orderBy page = .ok sql) : RefersTo sql p.shown := by
  unfold render at hr
  cases hop : p.operation with
  | find =>
    rw [hop] at hr
    obtain ⟨s, hs, hr⟩ := Fallible.bind_eq_ok_iff.1 hr
    cases hr
    exact refersTo_select h hs
  | exist =>
    rw [hop] at hr
    obtain ⟨s, hs, hr⟩ := Fallible.bind_eq_ok_iff.1 hr
    cases hr
    exact ((refersTo_select h hs).plain_append (by decide)).append_mark (by decide)
  | count =>
    rw [hop] at hr
    obtain ⟨s, hs, hr⟩ := Fallible.bind_eq_ok_iff.1 hr
    cases hr
    exact ((refersTo_select h hs).plain_append (by decide)).append_mark (by decide)
  | delete =>
    simp only [hop] at hr
    split at hr
    · obtain ⟨s, hs, hr⟩ := Fallible.bind_eq_ok_iff.1 hr
      cases hr
      exact refersTo_select h hs
    · cases hr
      exact refersTo_bulkDelete h

theorem flatten_keyTags (key : List String) (tag rows : Nat) :
    (keyTags key tag rows).flatten.map (·.2) = List.range' tag (rows * key.length) := by
  induction rows generalizing tag with
  | zero => simp [keyTags]
  | succ rows ih =>
    rw [keyTags, List.flatten_cons, List.map_append, ih, List.zipIdx_map_snd, Nat.succ_mul,
      Nat.add_comm (rows * key.length), List.range'_append_1]

theorem refersTo_keyDelete (h : p.WellTagged) (rows : Nat) :
    RefersTo (p.keyDelete rows) (List.range (rows * p.primaryKey.length)) := by
  have hkey : ∀ column ∈ p.primaryKey, Plain column :=
    List.forall_mem_map.2 fun c hc => h.columns c (List.mem_of_mem_filter hc)
  have hcondition : RefersTo
      (Sql.condition ((keyTags p.primaryKey 0 rows).map (·.map fun key =>
        key.1 ++ "=" ++ reference key.2)))
      ((keyTags p.primaryKey 0 rows).map (·.map fun key => [key.2])).flatten.flatten := by
    apply Sql.refersTo_condition
    rw [List.forall₂_map_left_iff, List.forall₂_map_right_iff, List.forall₂_same]
    intro g hg
    rw [List.forall₂_map_left_iff, List.forall₂_map_right_iff, List.forall₂_same]
    rintro ⟨column, tag⟩ hcolumn
    obtain ⟨i, -, rfl⟩ := List.mem_map.1 (keyTags_eq .. ▸ hg)
    have hplain : Plain column := hkey column (List.fst_mem_of_mem_zipIdx hcolumn)
    exact (refersTo_reference tag).plain_append (hplain.append (by decide))
  have htags : ((keyTags p.primaryKey 0 rows).map (·.map fun key => [key.2])).flatten.flatten =
      List.range (rows * p.primaryKey.length) := by
    rw [List.range_eq_range', ← flatten_keyTags, ← List.map_flatten]
    exact List.map_eq_flatMap.symm
  rw [htags] at hcondition
  exact hcondition.plain_append ((Plain.append (by decide) h.table).append (by decide))

theorem pairwise_shown (h : p.WellTagged) : p.shown.Pairwise (· < ·) := by
  have hsub : p.shown.Sublist (p.leaves.map (·.tag)) := List.filter_sublist.map _
  rw [h.numbered] at hsub
  exact List.pairwise_lt_range.sublist hsub

theorem lt_of_mem_shown (h : p.WellTagged) {k : Nat} (hk : k ∈ p.shown) :
    k < p.leaves.length := by
  have hsub : p.shown.Sublist (p.leaves.map (·.tag)) := List.filter_sublist.map _
  rw [h.numbered] at hsub
  exact List.mem_range.1 (hsub.subset hk)

theorem tag_of_getElem? (h : p.WellTagged) {k : Nat} {l : Leaf} (hl : p.leaves[k]? = some l) :
    l.tag = k :=
  tag_of_numbered h.numbered hl

theorem mem_shown_iff (h : p.WellTagged) {k : Nat} {l : Leaf} (hl : p.leaves[k]? = some l) :
    k ∈ p.shown ↔ 0 < l.operator.arity := by
  constructor
  · intro hk
    obtain ⟨l', hl', htag⟩ := List.mem_map.1 hk
    obtain ⟨hmem, hshows⟩ := List.mem_filter.1 hl'
    obtain ⟨k', hk'⟩ := List.getElem?_of_mem hmem
    have hsame : k' = k := (tag_of_getElem? h hk').symm.trans htag
    rw [hsame, hl] at hk'
    cases hk'
    simpa [Leaf.showsTag] using hshows
  · intro harity
    refine List.mem_map.2 ⟨l, List.mem_filter.2 ⟨List.mem_of_getElem? hl, ?_⟩, tag_of_getElem? h hl⟩
    simpa [Leaf.showsTag] using harity

/-- A leaf is shown once or not at all, as its operator says. -/
theorem count_shown (h : p.WellTagged) {k : Nat} {l : Leaf} (hl : p.leaves[k]? = some l) :
    p.shown.count k = if 0 < l.operator.arity then 1 else 0 := by
  have hnodup : p.shown.Nodup := (pairwise_shown h).imp Nat.ne_of_lt
  rw [hnodup.count]
  simp only [mem_shown_iff h hl]

end Plan

end DerivedQuery
