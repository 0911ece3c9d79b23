import DerivedQuery.Example.Trades
import DerivedQuery.Proofs.Compile

/-!
What becomes of a query when it is compiled. The checks follow one another in a fixed order, so that
a query without a plan is refused for one reason only, and a query that none of them refuses has a
plan. The operators that pass the first check are those that a leaf can be rendered with.
-/

namespace DerivedQuery

namespace Leaf

variable {l : Leaf}

theorem exists_render_iff : (∃ text, l.render = .ok text) ↔ l.operator.isSupported = true := by
  rw [← l.operator.isSome_comparison? l.sides.1 l.sides.2, render]
  cases l.operator.comparison? l.sides.1 l.sides.2 <;> simp

theorem render_eq_text (h : l.operator.isSupported = true) : l.render = .ok l.text := by
  rw [← l.operator.isSome_comparison? l.sides.1 l.sides.2] at h
  obtain ⟨text, htext⟩ := Option.isSome_iff_exists.1 h
  rw [render, Leaf.text, htext]
  rfl

end Leaf

namespace Plan

variable {entity : Entity} {query : QueryName} {parameters : List ParameterType}
  {shape : ResultShape} {p : Plan} {e : QueryError}

/-- A statement can express every operator of the query. -/
def Expressible (query : QueryName) : Prop :=
  ∀ c ∈ query.conditions, c.operator.isSupported = true

/-- At most one parameter pages or sorts, and the operation has results of the shape. -/
structure Signed (query : QueryName) (parameters : List ParameterType) (shape : ResultShape) :
    Prop where
  markers : parameters.count .page + parameters.count .ordering ≤ 1
  shape : query.operation.allows shape = true

/-- Every condition is on a field of the entity. -/
def Resolved (entity : Entity) (query : QueryName) : Prop :=
  ∀ c ∈ query.conditions, ¬entity.Lacks c.path.dotted

/-- Every key of the ordering is a field of the entity. -/
def Sortable (entity : Entity) (query : QueryName) : Prop :=
  ∀ k ∈ query.orderBy.keys, ¬entity.Lacks k.property

/-- The rows are deleted by their keys: a deletion that returns, limits or pages them. -/
def ByKey (query : QueryName) (parameters : List ParameterType) (shape : ResultShape) : Prop :=
  query.operation = .delete ∧
    (shape = .many ∨ query.limit ≠ none ∨ ParameterType.page ∈ parameters)

/-- Everything that a query needs for a plan. -/
structure Plannable (entity : Entity) (query : QueryName) (parameters : List ParameterType)
    (shape : ResultShape) : Prop where
  operators : Expressible query
  signature : Signed query parameters shape
  conditions : Resolved entity query
  ordering : Sortable entity query
  key : ByKey query parameters shape → ∃ column ∈ entity.columns, column.isKey = true

/-- Why a query has no plan. A reason counts only where no reason above it does. -/
inductive Refusal (entity : Entity) (query : QueryName) (parameters : List ParameterType)
    (shape : ResultShape) : QueryError → Prop
  | operator {c : Condition}
      (first : IsFirst (·.operator.isSupported = false) query.conditions c) :
    Refusal entity query parameters shape (.unsupportedOperator c.operator)
  | markers (operators : Expressible query)
      (many : 1 < parameters.count .page + parameters.count .ordering) :
    Refusal entity query parameters shape (.invalidSignature query.text
      (.tooManyMarkers (parameters.count .page) (parameters.count .ordering)))
  | shape (operators : Expressible query)
      (markers : parameters.count .page + parameters.count .ordering ≤ 1)
      (unfit : query.operation.allows shape = false) :
    Refusal entity query parameters shape (.invalidSignature query.text
      (.shapeMismatch query.operation shape))
  | condition (operators : Expressible query) (signature : Signed query parameters shape)
      {c : Condition} (first : IsFirst (entity.Lacks ·.path.dotted) query.conditions c) :
    Refusal entity query parameters shape
      (.metadata (.unknownProperty entity.table c.path.dotted))
  | ordering (operators : Expressible query) (signature : Signed query parameters shape)
      (conditions : Resolved entity query) {k : SortKey}
      (first : IsFirst (entity.Lacks ·.property) query.orderBy.keys k) :
    Refusal entity query parameters shape
      (.metadata (.unknownProperty entity.table k.property))
  | key (operators : Expressible query) (signature : Signed query parameters shape)
      (conditions : Resolved entity query) (ordering : Sortable entity query)
      (byKey : ByKey query parameters shape)
      (keyless : ∀ column ∈ entity.columns, column.isKey = false) :
    Refusal entity query parameters shape (.metadata (.noPrimaryKey entity.table))

/-- What a leaf has of its condition and of the entity; `tag` is its number. -/
structure SettledOn (entity : Entity) (tag : Nat) (c : Condition) (l : Leaf) : Prop where
  tag : l.tag = tag
  operator : l.operator = c.operator
  column : ∃ column, IsFirst (·.field = c.path.dotted) entity.columns column ∧
    l.column = column.name ∧
    (l.fold = true ↔ c.operator.canFold = true ∧
      (c.casePolicy = .always ∨ c.casePolicy = .whenPossible ∧ column.type = .string))
  rendered : l.render = .ok l.text

theorem checkOperators_eq_error_iff :
    checkOperators query = .error e ↔
      ∃ c, IsFirst (·.operator.isSupported = false) query.conditions c ∧
        e = .unsupportedOperator c.operator := by
  have hfirst : ∀ c, IsFirst (·.operator.isSupported = false) query.conditions c ↔
      query.conditions.find? (!·.operator.isSupported) = some c := by
    intro c
    rw [find?_eq_some_iff_isFirst]
    simp
  simp only [hfirst]
  rw [checkOperators]
  cases query.conditions.find? (!·.operator.isSupported) <;> simp [eq_comm]

theorem checkOperators_eq_ok_iff : checkOperators query = .ok () ↔ Expressible query := by
  rw [checkOperators]
  constructor
  · exact isSupported_of_checkOperators
  · intro h
    have hnone : query.conditions.find? (!·.operator.isSupported) = none := by
      rw [List.find?_eq_none]
      exact fun c hc => by simp [h c hc]
    rw [hnone]

theorem checkSignature_eq_error_iff :
    checkSignature query parameters shape = .error e ↔
      1 < parameters.count .page + parameters.count .ordering ∧
        e = .invalidSignature query.text
          (.tooManyMarkers (parameters.count .page) (parameters.count .ordering)) ∨
      parameters.count .page + parameters.count .ordering ≤ 1 ∧
        query.operation.allows shape = false ∧
        e = .invalidSignature query.text (.shapeMismatch query.operation shape) := by
  rw [checkSignature]
  by_cases hmany : 1 < parameters.count .page + parameters.count .ordering
  · simp only [hmany, if_true, Except.error.injEq, Nat.not_le.2 hmany, true_and, false_and,
      or_false]
    exact eq_comm
  · have hfew : parameters.count .page + parameters.count .ordering ≤ 1 := Nat.not_lt.1 hmany
    cases hshape : query.operation.allows shape with
    | false =>
      simp only [hmany, hfew, if_false, Bool.false_eq_true, Except.error.injEq, false_and, true_and,
        false_or]
      exact eq_comm
    | true => simp [hmany]

theorem checkSignature_eq_ok_iff :
    checkSignature query parameters shape = .ok () ↔ Signed query parameters shape := by
  rw [checkSignature]
  by_cases hmany : 1 < parameters.count .page + parameters.count .ordering
  · simp only [hmany, if_true, reduceCtorEq, false_iff]
    exact fun h => absurd h.markers (Nat.not_le.2 hmany)
  · have hfew : parameters.count .page + parameters.count .ordering ≤ 1 := Nat.not_lt.1 hmany
    simp only [hmany, if_false]
    cases hshape : query.operation.allows shape with
    | false =>
      simp only [Bool.false_eq_true, if_false, reduceCtorEq, false_iff]
      exact fun h => absurd h.shape (by simp [hshape])
    | true => simpa using (⟨hfew, hshape⟩ : Signed query parameters shape)

def numberedLeaf (entity : Entity) (c : Condition × Nat) : Except QueryError Leaf :=
  leaf entity c.2 c.1

theorem leafGroup_eq_mapM {cs : List Condition}
    (h : ∀ c ∈ cs, c.operator.isSupported = true) (tag : Nat) :
    leafGroup entity tag cs = (cs.zipIdx tag).mapM (numberedLeaf entity) := by
  induction cs generalizing tag with
  | nil => rfl
  | cons c cs ih =>
    obtain ⟨hc, hcs⟩ := List.forall_mem_cons.1 h
    rw [List.zipIdx_cons, List.mapM_cons, leafGroup, ih hcs, numberedLeaf]
    cases hleaf : leaf entity tag c with
    | error e => rfl
    | ok l =>
      have hsupported : l.operator.isSupported = true := by
        obtain ⟨column, -, rfl⟩ := leaf_eq_ok_iff.1 hleaf
        exact hc
      change (l.render >>= fun _ => _) = _
      rw [Leaf.render_eq_text hsupported]
      rfl

/-- Conditions that can be expressed are settled one after the other, whatever groups they are
in. -/
theorem flatten_leafGroups {gs : List (List Condition)}
    (h : ∀ c ∈ gs.flatten, c.operator.isSupported = true) (tag : Nat) :
    (leafGroups entity tag gs).map List.flatten =
      (gs.flatten.zipIdx tag).mapM (numberedLeaf entity) := by
  induction gs generalizing tag with
  | nil => rfl
  | cons g gs ih =>
    rw [List.flatten_cons] at h ⊢
    obtain ⟨hg, hgs⟩ := List.forall_mem_append.1 h
    rw [List.zipIdx_append, List.mapM_append, ← leafGroup_eq_mapM hg, ← ih hgs, leafGroups]
    cases leafGroup entity tag g with
    | error e => rfl
    | ok ls => cases leafGroups entity (tag + g.length) gs <;> rfl

theorem leafGroups_eq_error_iff (h : Expressible query) :
    leafGroups entity 0 query.groups = .error e ↔
      ∃ c, IsFirst (entity.Lacks ·.path.dotted) query.conditions c ∧
        e = .metadata (.unknownProperty entity.table c.path.dotted) := by
  have hflatten : leafGroups entity 0 query.groups = .error e ↔
      (query.conditions.zipIdx).mapM (numberedLeaf entity) = .error e := by
    rw [QueryName.conditions, ← flatten_leafGroups h]
    exact Fallible.map_eq_error_iff.symm
  have hfirst : ∀ c, IsFirst (entity.Lacks ·.path.dotted) query.conditions c ↔
      ∃ n, IsFirst (fun n : Condition × Nat => entity.Lacks n.1.path.dotted)
        query.conditions.zipIdx n ∧ n.1 = c := by
    intro c
    have hmap : IsFirst (fun c : Condition => entity.Lacks c.path.dotted)
        (query.conditions.zipIdx.map Prod.fst) c ↔
          ∃ n, IsFirst (fun n : Condition × Nat => entity.Lacks n.1.path.dotted)
            query.conditions.zipIdx n ∧ n.1 = c :=
      isFirst_map_iff
    rwa [List.zipIdx_map_fst] at hmap
  have hleaf : ∀ n ∈ query.conditions.zipIdx, ∀ e, numberedLeaf entity n = .error e ↔
      entity.Lacks n.1.path.dotted ∧
        e = .metadata (.unknownProperty entity.table n.1.path.dotted) :=
    fun _ _ _ => leaf_eq_error_iff
  rw [hflatten, Fallible.mapM_eq_error_iff_isFirst hleaf]
  simp only [hfirst]
  constructor
  · rintro ⟨n, hn, rfl⟩
    exact ⟨n.1, ⟨n, hn, rfl⟩, rfl⟩
  · rintro ⟨c, ⟨n, hn, rfl⟩, rfl⟩
    exact ⟨n, hn, rfl⟩

theorem exists_leafGroups_iff (h : Expressible query) :
    (∃ groups, leafGroups entity 0 query.groups = .ok groups) ↔ Resolved entity query := by
  rw [← not_iff_not, ← Fallible.exists_error_iff]
  simp only [leafGroups_eq_error_iff h, Resolved, not_forall, not_not, exists_prop]
  constructor
  · rintro ⟨e, c, hfirst, -⟩
    exact ⟨c, hfirst.mem, hfirst.holds⟩
  · rintro ⟨c, hc, hlacks⟩
    obtain ⟨first, hfirst⟩ :=
      (exists_isFirst_iff (P := fun c : Condition => entity.Lacks c.path.dotted)).2 ⟨c, hc, hlacks⟩
    exact ⟨_, first, hfirst, rfl⟩

theorem mapM_columnKey_eq_error_iff {keys : List SortKey} :
    keys.mapM (columnKey entity.table entity.columns) = .error e ↔
      ∃ k, IsFirst (entity.Lacks ·.property) keys k ∧
        e = .metadata (.unknownProperty entity.table k.property) :=
  Fallible.mapM_eq_error_iff_isFirst fun _ _ _ => columnKey_eq_error_iff

theorem exists_mapM_columnKey_iff :
    (∃ keys, query.orderBy.keys.mapM (columnKey entity.table entity.columns) = .ok keys) ↔
      Sortable entity query := by
  rw [Fallible.exists_mapM_eq_ok_iff]
  refine forall₂_congr fun k _ => ?_
  rw [← not_iff_not, ← Fallible.exists_error_iff, not_not]
  simp [columnKey_eq_error_iff, Entity.Lacks]

theorem deletesByKey_eq_true_iff :
    p.deletesByKey = true ↔ p.operation = .delete ∧
      (p.shape = .many ∨ p.limit ≠ none ∨ ParameterType.page ∈ p.parameters) := by
  simp [deletesByKey, Option.isSome_iff_ne_none, or_assoc]

theorem checkKey_eq_error_iff :
    checkKey p = .error e ↔ p.deletesByKey = true ∧ (∀ c ∈ p.columns, c.isKey = false) ∧
      e = .metadata (.noPrimaryKey p.table) := by
  have hkeyless : p.primaryKey = [] ↔ ∀ c ∈ p.columns, c.isKey = false := by simp [primaryKey]
  rw [checkKey, ← hkeyless]
  cases p.deletesByKey <;> cases p.primaryKey <;> simp
  exact eq_comm

/-- A query is refused for the first reason there is. -/
theorem compile_eq_error_iff :
    compile entity query parameters shape = .error e ↔
      Refusal entity query parameters shape e := by
  unfold compile
  constructor
  · intro h
    rcases Fallible.bind_eq_error_iff.1 h with hop | ⟨_, hop, h⟩
    · obtain ⟨c, hfirst, rfl⟩ := checkOperators_eq_error_iff.1 hop
      exact .operator hfirst
    have hoperators := checkOperators_eq_ok_iff.1 hop
    rcases Fallible.bind_eq_error_iff.1 h with hsign | ⟨_, hsign, h⟩
    · rcases checkSignature_eq_error_iff.1 hsign with ⟨hmany, rfl⟩ | ⟨hfew, hunfit, rfl⟩
      · exact .markers hoperators hmany
      · exact .shape hoperators hfew hunfit
    have hsigned := checkSignature_eq_ok_iff.1 hsign
    rcases Fallible.bind_eq_error_iff.1 h with hgroups | ⟨groups, hgroups, h⟩
    · obtain ⟨c, hfirst, rfl⟩ := (leafGroups_eq_error_iff hoperators).1 hgroups
      exact .condition hoperators hsigned hfirst
    have hresolved := (exists_leafGroups_iff hoperators).1 ⟨groups, hgroups⟩
    rcases Fallible.bind_eq_error_iff.1 h with hkeys | ⟨keys, hkeys, h⟩
    · obtain ⟨k, hfirst, rfl⟩ := mapM_columnKey_eq_error_iff.1 hkeys
      exact .ordering hoperators hsigned hresolved hfirst
    have hsortable := exists_mapM_columnKey_iff.1 ⟨keys, hkeys⟩
    rcases Fallible.bind_eq_error_iff.1 h with hkey | ⟨_, -, h⟩
    · obtain ⟨hdeletes, hkeyless, rfl⟩ := checkKey_eq_error_iff.1 hkey
      exact .key hoperators hsigned hresolved hsortable (deletesByKey_eq_true_iff.1 hdeletes)
        hkeyless
    · cases h
  · intro h
    cases h with
    | operator first =>
      rw [Fallible.bind_of_error (checkOperators_eq_error_iff.2 ⟨_, first, rfl⟩)]
    | markers operators many =>
      rw [Fallible.bind_of_ok (checkOperators_eq_ok_iff.2 operators),
        Fallible.bind_of_error (checkSignature_eq_error_iff.2 (Or.inl ⟨many, rfl⟩))]
    | shape operators markers unfit =>
      rw [Fallible.bind_of_ok (checkOperators_eq_ok_iff.2 operators),
        Fallible.bind_of_error (checkSignature_eq_error_iff.2 (Or.inr ⟨markers, unfit, rfl⟩))]
    | condition operators signature first =>
      rw [Fallible.bind_of_ok (checkOperators_eq_ok_iff.2 operators),
        Fallible.bind_of_ok (checkSignature_eq_ok_iff.2 signature),
        Fallible.bind_of_error ((leafGroups_eq_error_iff operators).2 ⟨_, first, rfl⟩)]
    | ordering operators signature conditions first =>
      obtain ⟨groups, hgroups⟩ := (exists_leafGroups_iff operators).2 conditions
      rw [Fallible.bind_of_ok (checkOperators_eq_ok_iff.2 operators),
        Fallible.bind_of_ok (checkSignature_eq_ok_iff.2 signature), Fallible.bind_of_ok hgroups,
        Fallible.bind_of_error (mapM_columnKey_eq_error_iff.2 ⟨_, first, rfl⟩)]
    | key operators signature conditions ordering byKey keyless =>
      obtain ⟨groups, hgroups⟩ := (exists_leafGroups_iff operators).2 conditions
      obtain ⟨keys, hkeys⟩ := exists_mapM_columnKey_iff.2 ordering
      rw [Fallible.bind_of_ok (checkOperators_eq_ok_iff.2 operators),
        Fallible.bind_of_ok (checkSignature_eq_ok_iff.2 signature), Fallible.bind_of_ok hgroups,
        Fallible.bind_of_ok hkeys]
      refine Fallible.bind_of_error (checkKey_eq_error_iff.2 ⟨?_, keyless, rfl⟩)
      exact deletesByKey_eq_true_iff.2 byKey

theorem exists_compile_iff :
    (∃ p, compile entity query parameters shape = .ok p) ↔
      Plannable entity query parameters shape := by
  constructor
  · rintro ⟨p, hp⟩
    have h := compiledFrom_of_compile hp
    have hoperators := checkOperators_eq_ok_iff.1 h.operators
    refine ⟨hoperators, checkSignature_eq_ok_iff.1 h.signature,
      (exists_leafGroups_iff hoperators).1 ⟨_, h.groups⟩,
      exists_mapM_columnKey_iff.1 ⟨_, h.orderBy⟩, fun hbyKey => ?_⟩
    by_contra hnone
    have hdeletes : p.deletesByKey = true := by
      rw [deletesByKey_eq_true_iff, h.operation, h.shape, h.limit, h.parameters]
      exact hbyKey
    have hkeyless : ∀ c ∈ p.columns, c.isKey = false := by simpa [h.columns] using hnone
    have hfail := checkKey_eq_error_iff.2 ⟨hdeletes, hkeyless, rfl⟩
    rw [h.key] at hfail
    cases hfail
  · intro h
    by_contra hnone
    obtain ⟨e, he⟩ := Fallible.exists_error_iff.2 hnone
    cases compile_eq_error_iff.1 he with
    | operator first => simpa [first.holds] using h.operators _ first.mem
    | markers _ many => exact absurd h.signature.markers (Nat.not_le.2 many)
    | shape _ _ unfit => simpa [unfit] using h.signature.shape
    | condition _ _ first => exact h.conditions _ first.mem first.holds
    | ordering _ _ _ first => exact h.ordering _ first.mem first.holds
    | key _ _ _ _ byKey keyless =>
      obtain ⟨column, hmem, hkey⟩ := h.key byKey
      simp [keyless column hmem] at hkey

/-- A leaf of a plan is the leaf of the condition in its place. -/
theorem CompiledFrom.leaf_of_condition (h : CompiledFrom entity query parameters shape p) {i : Nat}
    {c : Condition} (hc : query.conditions[i]? = some c) :
    ∃ l, p.leaves[i]? = some l ∧ leaf entity i c = .ok l := by
  have hleaves : (query.conditions.zipIdx).mapM (numberedLeaf entity) = .ok p.leaves := by
    rw [QueryName.conditions, ← flatten_leafGroups (checkOperators_eq_ok_iff.1 h.operators),
      h.groups]
    rfl
  have hi : query.conditions.zipIdx[i]? = some (c, i) := by simp [hc]
  exact (Fallible.mapM_eq_ok_iff_getElem?.1 hleaves).2 i (c, i) hi

theorem settledOn_of_leaf {tag : Nat} {c : Condition} {l : Leaf} (h : leaf entity tag c = .ok l)
    (hc : c.operator.isSupported = true) : SettledOn entity tag c l := by
  obtain ⟨column, hfirst, rfl⟩ := leaf_eq_ok_iff.1 h
  refine ⟨rfl, rfl, ⟨column, hfirst, rfl, ?_⟩, ?_⟩
  · rw [Bool.and_eq_true, CasePolicy.folds_eq_true_iff]
  · exact Leaf.render_eq_text hc

/-- A query is refused for the first reason there is, and it has a plan exactly if there is none.
The leaves of the plan are settled on the conditions one by one, and a leaf can be rendered exactly
if its operator passes the check. -/
theorem compile_outcome (entity : Entity) (query : QueryName) (parameters : List ParameterType)
    (shape : ResultShape) :
    (∀ e, compile entity query parameters shape = .error e ↔
      Refusal entity query parameters shape e) ∧
    ((∃ p, compile entity query parameters shape = .ok p) ↔
      Plannable entity query parameters shape) ∧
    (∀ p, compile entity query parameters shape = .ok p →
      p.leaves.length = query.conditions.length ∧
        ∀ (i : Nat) (c : Condition), query.conditions[i]? = some c →
          ∃ l, p.leaves[i]? = some l ∧ SettledOn entity i c l) ∧
    ∀ l : Leaf, (∃ text, l.render = .ok text) ↔ l.operator.isSupported = true := by
  refine ⟨fun e => compile_eq_error_iff, exists_compile_iff, fun p hp => ?_,
    fun l => Leaf.exists_render_iff⟩
  have h := compiledFrom_of_compile hp
  refine ⟨h.leaves.length_eq.symm, fun i c hc => ?_⟩
  obtain ⟨l, hl, hleaf⟩ := h.leaf_of_condition hc
  have hsupported := checkOperators_eq_ok_iff.1 h.operators c (List.mem_of_getElem? hc)
  exact ⟨l, hl, settledOn_of_leaf hleaf hsupported⟩

end Plan

namespace Example

open Plan

/-- The condition on the price, which is no string. -/
def underPrice : Condition := ⟨⟨["price"]⟩, .less, .whenPossible, "PriceLessThan"⟩

/-- Of two conditions that ignore case where they can, the one on a string alone folds. -/
theorem compile_outcome_underPrice :
    ∃ query p l, QueryName.parse "findBySymbolAndPriceLessThanAllIgnoreCase" = .ok query ∧
      compile trades query [.string, .float] .many = .ok p ∧
      query.conditions[1]? = some underPrice ∧ p.leaves[1]? = some l ∧
      SettledOn trades 1 underPrice l ∧ p.leaves = [⟨0, .equals, "ticker", true⟩, l] := by
  have hparts : (QueryName.parse "findBySymbolAndPriceLessThanAllIgnoreCase").toOption.map
      (fun query => (query.conditions[1]?,
        (compile trades query [.string, .float] .many).toOption.map (·.leaves))) =
      some (some underPrice, some [⟨0, .equals, "ticker", true⟩, ⟨1, .less, "price", false⟩]) := by
    decide +kernel
  obtain ⟨query, hquery, heq⟩ := Option.map_eq_some_iff.1 hparts
  obtain ⟨hcondition, hplan⟩ := Prod.mk.inj heq
  obtain ⟨p, hp, hleaves⟩ := Option.map_eq_some_iff.1 hplan
  have hcompile := Fallible.eq_ok_of_toOption hp
  obtain ⟨-, hsettled⟩ :=
    (compile_outcome trades query [.string, .float] .many).2.2.1 p hcompile
  obtain ⟨l, hl, hsettledOn⟩ := hsettled 1 underPrice hcondition
  have hl' : l = ⟨1, .less, "price", false⟩ := by
    rw [hleaves] at hl
    exact (Option.some.inj hl).symm
  exact ⟨query, p, l, Fallible.eq_ok_of_toOption hquery, hcompile, hcondition, hl, hsettledOn,
    hl' ▸ hleaves⟩

end Example

end DerivedQuery
