import DerivedQuery.Engine
import DerivedQuery.Proofs.Readable
import DerivedQuery.Proofs.Resolution

/-!
What a compiled plan is made of. Its parts come from the query, the signature and the entity, its
leaves are numbered in order and have operators that a statement can express, and a plan that
deletes by key has a key.
-/

namespace DerivedQuery

namespace Plan

variable {entity : Entity} {query : QueryName} {parameters : List ParameterType}
  {shape : ResultShape} {p : Plan}

/-- Everything that a successful compilation has checked and built. -/
structure CompiledFrom (entity : Entity) (query : QueryName) (parameters : List ParameterType)
    (shape : ResultShape) (p : Plan) : Prop where
  operators : checkOperators query = .ok ()
  signature : checkSignature query parameters shape = .ok ()
  groups : leafGroups entity 0 query.groups = .ok p.groups
  orderBy : query.orderBy.keys.mapM (columnKey entity.table entity.columns) = .ok p.orderBy
  key : checkKey p = .ok ()
  method : p.method = query.text
  operation : p.operation = query.operation
  shape : p.shape = shape
  distinct : p.distinct = query.distinct
  limit : p.limit = query.limit
  table : p.table = entity.table
  columns : p.columns = entity.columns
  parameters : p.parameters = parameters

theorem compiledFrom_of_compile (h : compile entity query parameters shape = .ok p) :
    CompiledFrom entity query parameters shape p := by
  unfold compile at h
  obtain ⟨_, hop, h⟩ := Fallible.bind_eq_ok_iff.1 h
  obtain ⟨_, hsig, h⟩ := Fallible.bind_eq_ok_iff.1 h
  obtain ⟨groups, hgroups, h⟩ := Fallible.bind_eq_ok_iff.1 h
  obtain ⟨orderBy, horder, h⟩ := Fallible.bind_eq_ok_iff.1 h
  obtain ⟨_, hkey, h⟩ := Fallible.bind_eq_ok_iff.1 h
  cases h
  exact ⟨hop, hsig, hgroups, horder, hkey, rfl, rfl, rfl, rfl, rfl, rfl, rfl, rfl⟩

/-- What every leaf keeps of its condition. -/
structure LeafOf (entity : Entity) (c : Condition) (l : Leaf) : Prop where
  operator : l.operator = c.operator
  column : ∃ column ∈ entity.columns, column.name = l.column

theorem leafOf_of_leaf {tag : Nat} {c : Condition} {l : Leaf} (h : leaf entity tag c = .ok l) :
    l.tag = tag ∧ LeafOf entity c l := by
  obtain ⟨column, hfirst, rfl⟩ := leaf_eq_ok_iff.1 h
  exact ⟨rfl, rfl, column, hfirst.mem, rfl⟩

/-- A group that has leaves has one for its first condition, which was rendered. -/
theorem exists_of_leafGroup_cons {tag : Nat} {c : Condition} {cs : List Condition} {ls : List Leaf}
    (h : leafGroup entity tag (c :: cs) = .ok ls) :
    ∃ l ls', leaf entity tag c = .ok l ∧ leafGroup entity (tag + 1) cs = .ok ls' ∧
      ls = l :: ls' := by
  obtain ⟨l, hl, h⟩ := Fallible.bind_eq_ok_iff.1 h
  obtain ⟨_, -, h⟩ := Fallible.bind_eq_ok_iff.1 h
  obtain ⟨ls', hls, h⟩ := Fallible.bind_eq_ok_iff.1 h
  exact ⟨l, ls', hl, hls, (Except.ok.inj h).symm⟩

theorem leafGroup_spec {tag : Nat} {cs : List Condition} {ls : List Leaf}
    (h : leafGroup entity tag cs = .ok ls) :
    ls.map (·.tag) = List.range' tag cs.length ∧ List.Forall₂ (LeafOf entity) cs ls := by
  induction cs generalizing tag ls with
  | nil => cases h; exact ⟨rfl, .nil⟩
  | cons c cs ih =>
    obtain ⟨l, ls', hl, hls, rfl⟩ := exists_of_leafGroup_cons h
    obtain ⟨htag, hleaf⟩ := leafOf_of_leaf hl
    obtain ⟨htags, hrest⟩ := ih hls
    refine ⟨?_, .cons hleaf hrest⟩
    rw [List.map_cons, htag, htags, List.length_cons, List.range'_succ]

theorem leafGroups_spec {tag : Nat} {gs : List (List Condition)} {ls : List (List Leaf)}
    (h : leafGroups entity tag gs = .ok ls) :
    ls.flatten.map (·.tag) = List.range' tag gs.flatten.length ∧
      List.Forall₂ (List.Forall₂ (LeafOf entity)) gs ls := by
  induction gs generalizing tag ls with
  | nil => cases h; exact ⟨rfl, .nil⟩
  | cons g gs ih =>
    obtain ⟨l, hl, h⟩ := Fallible.bind_eq_ok_iff.1 h
    obtain ⟨ls', hls, h⟩ := Fallible.bind_eq_ok_iff.1 h
    cases h
    obtain ⟨htag, hleaf⟩ := leafGroup_spec hl
    obtain ⟨htags, hrest⟩ := ih hls
    refine ⟨?_, .cons hleaf hrest⟩
    rw [List.flatten_cons, List.map_append, htag, htags, List.flatten_cons, List.length_append,
      List.range'_append_1]

theorem isSupported_of_checkOperators (h : checkOperators query = .ok ()) :
    ∀ c ∈ query.conditions, c.operator.isSupported = true := by
  unfold checkOperators at h
  split at h
  · cases h
  · next hfind =>
    intro c hc
    simpa using List.find?_eq_none.1 hfind c hc

/-- A leaf in leaves that are numbered in order has the number of its position. -/
theorem tag_of_numbered (h : p.leaves.map (·.tag) = List.range p.leaves.length) {k : Nat}
    {l : Leaf} (hl : p.leaves[k]? = some l) : l.tag = k := by
  have hlt : k < p.leaves.length := (List.getElem?_eq_some_iff.1 hl).1
  have htag : (p.leaves.map (·.tag))[k]? = some l.tag := by rw [List.getElem?_map, hl]; rfl
  rw [h, List.getElem?_range hlt] at htag
  exact (Option.some.inj htag).symm

theorem markers_of_checkSignature (h : checkSignature query parameters shape = .ok ()) :
    parameters.count .page + parameters.count .ordering ≤ 1 := by
  unfold checkSignature at h
  dsimp only at h
  split at h
  · cases h
  · omega

namespace CompiledFrom

theorem leaves (h : CompiledFrom entity query parameters shape p) :
    List.Forall₂ (LeafOf entity) query.conditions p.leaves :=
  List.rel_flatten (leafGroups_spec h.groups).2

theorem tags (h : CompiledFrom entity query parameters shape p) :
    p.leaves.map (·.tag) = List.range p.leaves.length := by
  have hlength : query.conditions.length = p.leaves.length := h.leaves.length_eq
  rw [← hlength, List.range_eq_range']
  exact (leafGroups_spec h.groups).1

theorem supported (h : CompiledFrom entity query parameters shape p) :
    ∀ l ∈ p.leaves, l.operator.isSupported = true := by
  intro l hl
  obtain ⟨c, hc, hleaf⟩ := Fallible.exists_mem_of_forall₂ h.leaves hl
  exact hleaf.operator ▸ isSupported_of_checkOperators h.operators c hc

theorem exists_column (h : CompiledFrom entity query parameters shape p) :
    ∀ l ∈ p.leaves, ∃ column ∈ entity.columns, column.name = l.column := by
  intro l hl
  obtain ⟨c, -, hleaf⟩ := Fallible.exists_mem_of_forall₂ h.leaves hl
  exact hleaf.column

theorem groups_eq_nil_iff (h : CompiledFrom entity query parameters shape p) :
    p.groups = [] ↔ query.groups = [] := by
  rw [← List.length_eq_zero_iff, ← List.length_eq_zero_iff,
    (leafGroups_spec h.groups).2.length_eq]

theorem ne_nil_of_mem_groups (h : CompiledFrom entity query parameters shape p)
    (hgroups : ∀ g ∈ query.groups, g ≠ []) : ∀ ls ∈ p.groups, ls ≠ [] := by
  rintro _ hls rfl
  obtain ⟨g, hg, hgroup⟩ := Fallible.exists_mem_of_forall₂ (leafGroups_spec h.groups).2 hls
  exact hgroups g hg (List.forall₂_nil_right_iff.1 hgroup)

end CompiledFrom

end Plan

theorem QueryName.text_of_parse {name : String} {query : QueryName}
    (h : parse name = .ok query) : query.text = name := by
  obtain ⟨sections, hread⟩ := parse_eq_ok_iff.1 h
  exact hread.text.trans String.ofList_toList

theorem QueryMethod.plan_eq_ok_iff {m : QueryMethod} {entity : Entity} {p : Plan} :
    m.plan entity = .ok p ↔
      ∃ query, QueryName.parse m.name = .ok query ∧
        Plan.compile entity query m.parameters m.shape = .ok p :=
  Fallible.bind_eq_ok_iff

section Errors

open Fallible

variable (entity : Entity)

theorem Plan.fails_leaf (tag : Nat) (c : Condition) :
    Fails (·.isPlanError = true) (leaf entity tag c) := by
  unfold leaf
  split
  · exact .error rfl
  · exact .ok _

theorem Leaf.fails_render (l : Leaf) : Fails (·.isPlanError = true) l.render := by
  unfold Leaf.render
  split
  · exact .ok _
  · exact .error rfl

theorem Plan.fails_leafGroup (tag : Nat) (cs : List Condition) :
    Fails (·.isPlanError = true) (leafGroup entity tag cs) := by
  induction cs generalizing tag with
  | nil => exact .ok []
  | cons c cs ih =>
    refine .bind (fails_leaf entity tag c) fun l => .bind l.fails_render fun _ => ?_
    exact .bind (ih _) fun _ => .ok _

theorem Plan.fails_leafGroups (tag : Nat) (gs : List (List Condition)) :
    Fails (·.isPlanError = true) (leafGroups entity tag gs) := by
  induction gs generalizing tag with
  | nil => exact .ok []
  | cons g gs ih => exact .bind (fails_leafGroup entity tag g) fun _ => .bind (ih _) fun _ => .ok _

theorem Plan.fails_columnKey (table : String) (columns : List Column) (k : SortKey) :
    Fails (·.isPlanError = true) (columnKey table columns k) := by
  unfold columnKey
  split
  · exact .ok _
  · exact .error rfl

theorem Plan.fails_compile (query : QueryName) (parameters : List ParameterType)
    (shape : ResultShape) :
    Fails (·.isPlanError = true) (compile entity query parameters shape) := by
  have hoperators : Fails (·.isPlanError = true) (checkOperators query) := by
    unfold checkOperators
    split
    · exact .error rfl
    · exact .ok ()
  have hsignature : Fails (·.isPlanError = true) (checkSignature query parameters shape) := by
    unfold checkSignature
    dsimp only
    split
    · exact .error rfl
    · split
      · exact .ok ()
      · exact .error rfl
  have hkey : ∀ p, Fails (·.isPlanError = true) (checkKey p) := by
    intro p
    unfold checkKey
    split
    · exact .error rfl
    · exact .ok ()
  unfold compile
  refine .bind hoperators fun _ => .bind hsignature fun _ => ?_
  refine .bind (fails_leafGroups entity 0 query.groups) fun groups => ?_
  refine .bind (.mapM fun k _ => fails_columnKey _ _ k) fun orderBy => ?_
  exact .bind (hkey _) fun _ => .ok _

theorem QueryName.fails_parse (name : String) : Fails (·.isPlanError = true) (parse name) := by
  unfold parse
  split
  · exact .ok _
  · exact .error rfl

/-- A method that has no plan shows a plan error. -/
theorem QueryMethod.fails_plan (m : QueryMethod) : Fails (·.isPlanError = true) (m.plan entity) :=
  .bind (QueryName.fails_parse m.name) fun query =>
    Plan.fails_compile entity query m.parameters m.shape

end Errors

/-- A plan carries the name and the signature of its method. -/
theorem QueryMethod.identity_of_plan {m : QueryMethod} {entity : Entity} {p : Plan}
    (h : m.plan entity = .ok p) :
    p.method = m.name ∧ p.parameters = m.parameters ∧ p.shape = m.shape := by
  obtain ⟨query, hparse, hcompile⟩ := plan_eq_ok_iff.1 h
  have hfrom := Plan.compiledFrom_of_compile hcompile
  exact ⟨hfrom.method.trans (QueryName.text_of_parse hparse), hfrom.parameters, hfrom.shape⟩

end DerivedQuery
