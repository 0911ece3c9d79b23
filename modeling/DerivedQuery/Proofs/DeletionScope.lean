import DerivedQuery.Proofs.CallTrace
import DerivedQuery.Proofs.KeyDeletion
import DerivedQuery.Proofs.PlanErrors
import DerivedQuery.Proofs.Readable

/-!
How much a deletion deletes. A statement that deletes every row runs only for a name without
conditions and a method that neither limits nor pages nor returns the rows. Every other deletion is
held to the conditions of its name or to the keys of rows that were fetched. The method meant is the
one that the plan was compiled for, which another method of the same key may have left behind.
-/

namespace DerivedQuery

namespace Sql

/-- Groups of comparisons, with nothing empty among them. -/
structure Proper (groups : List (List String)) : Prop where
  ne_nil : groups ≠ []
  joint : ∀ g ∈ groups, g ≠ []
  written : ∀ g ∈ groups, ∀ c ∈ g, c ≠ ""

theorem proper_map {α : Type} {text : α → String} {gs : List (List α)} (hne : gs ≠ [])
    (hjoint : ∀ g ∈ gs, g ≠ []) (hwritten : ∀ g ∈ gs, ∀ a ∈ g, text a ≠ "") :
    Proper (gs.map (·.map text)) := by
  refine ⟨by simpa using hne, ?_, ?_⟩
  · intro texts htexts
    obtain ⟨g, hg, rfl⟩ := List.mem_map.1 htexts
    simpa using hjoint g hg
  · intro texts htexts c hc
    obtain ⟨g, hg, rfl⟩ := List.mem_map.1 htexts
    obtain ⟨a, ha, rfl⟩ := List.mem_map.1 hc
    exact hwritten g hg a ha

/-- A condition begins with the parenthesis of its first group. -/
theorem condition_ne_true {groups : List (List String)} (h : groups ≠ []) :
    condition groups ≠ "true" := by
  intro htrue
  have hchars := congrArg String.toList htrue
  cases groups with
  | nil => exact h rfl
  | cons g gs => cases gs <;> simp [condition, group, String.toList_intercalate] at hchars

theorem Equation.text_ne_empty (e : Equation) : e.text ≠ "" := by
  intro hempty
  have hchars := congrArg String.toList hempty
  simp [text] at hchars

end Sql

open Sql

theorem Leaf.text_ne_empty {l : Leaf} (h : l.operator.isSupported = true) : l.text ≠ "" := by
  intro hempty
  have hchars := congrArg String.toList hempty
  obtain ⟨tag, op, column, fold⟩ := l
  cases op <;> cases h <;> cases fold <;> simp [text, sides, Operator.comparison?] at hchars

/-- The method deletes whatever there is: its name has no condition and no limit, and it neither
pages nor returns the rows. -/
structure QueryMethod.DeletesAll (m : QueryMethod) (query : QueryName) : Prop where
  groups : query.groups = []
  shape : m.shape ≠ .many
  limit : query.limit = none
  page : ParameterType.page ∉ m.parameters

namespace Plan

/-- The comparisons that a deletion is held to: those of all groups of the name, or the keys of rows
that were fetched. -/
inductive Restricts (p : Plan) (entity : Entity) (query : QueryName) (fetched : List Row → Prop) :
    List (List String) → Prop
  | matching (leaves : List.Forall₂ (List.Forall₂ (LeafOf entity)) query.groups p.groups) :
      Restricts p entity query fetched (p.groups.map (·.map Leaf.text))
  | keys {rows : List Row} (found : fetched rows) (rows_ne_nil : rows ≠ [])
      (key_ne_nil : entity.primaryKey ≠ []) :
      Restricts p entity query fetched ((p.keyGroups rows.length).map (·.map Equation.text))

/-- What a deletion for a method is held to. -/
structure Scope (p : Plan) (entity : Entity) (m : QueryMethod) (query : QueryName)
    (fetched : List Row → Prop) (condition : String) : Prop where
  all : condition = "true" ↔ m.DeletesAll query
  restricted : condition ≠ "true" → ∃ groups,
    condition = " OR ".intercalate (groups.map fun g => "( " ++ " AND ".intercalate g ++ " )") ∧
      Proper groups ∧ p.Restricts entity query fetched groups

variable {p : Plan}

theorem deletesByKey_eq_false_iff (hop : p.operation = .delete) :
    p.deletesByKey = false ↔ p.shape ≠ .many ∧ p.limit = none ∧ .page ∉ p.parameters := by
  simp [deletesByKey, hop, and_assoc]

namespace CompiledFrom

variable {entity : Entity} {query : QueryName} {m : QueryMethod} {fetched : List Row → Prop}

theorem deletesAll_iff (h : CompiledFrom entity query m.parameters m.shape p)
    (hop : p.operation = .delete) :
    m.DeletesAll query ↔ p.groups = [] ∧ p.deletesByKey = false := by
  rw [deletesByKey_eq_false_iff hop, h.groups_eq_nil_iff, h.shape, h.limit, h.parameters]
  constructor
  · rintro ⟨hgroups, hshape, hlimit, hpage⟩
    exact ⟨hgroups, hshape, hlimit, hpage⟩
  · rintro ⟨hgroups, hshape, hlimit, hpage⟩
    exact ⟨hgroups, hshape, hlimit, hpage⟩

theorem proper_groups (h : CompiledFrom entity query m.parameters m.shape p)
    (hread : ∀ g ∈ query.groups, g ≠ []) (hne : p.groups ≠ []) :
    Proper (p.groups.map (·.map Leaf.text)) := by
  refine proper_map hne (h.ne_nil_of_mem_groups hread) fun g hg l hl => ?_
  exact Leaf.text_ne_empty (h.supported l (List.mem_flatten.2 ⟨g, hg, hl⟩))

/-- A deletion that runs at once is held to the conditions of its name, if there are any. -/
theorem scope_of_bulk (h : CompiledFrom entity query m.parameters m.shape p)
    (hread : ∀ g ∈ query.groups, g ≠ []) (hop : p.operation = .delete)
    (hkey : p.deletesByKey = false) :
    p.Scope entity m query fetched (p.condition.getD "true") := by
  by_cases hgroups : p.groups = []
  · have hnone : p.condition.getD "true" = "true" := by simp [condition, hgroups]
    rw [hnone]
    exact ⟨by simp [h.deletesAll_iff hop, hgroups, hkey], fun hne => absurd rfl hne⟩
  · have hsome : p.condition.getD "true" = Sql.condition (p.groups.map (·.map Leaf.text)) := by
      simp [condition, hgroups]
    have hproper := h.proper_groups hread hgroups
    rw [hsome]
    refine ⟨?_, fun _ => ⟨_, rfl, hproper, .matching (leafGroups_spec h.groups).2⟩⟩
    simp [h.deletesAll_iff hop, hgroups, condition_ne_true hproper.ne_nil]

end CompiledFrom

theorem proper_keyGroups {rows : Nat} (hrows : rows ≠ 0) (hkey : p.primaryKey ≠ []) :
    Proper ((p.keyGroups rows).map (·.map Equation.text)) := by
  refine proper_map (by simpa [keyGroups] using hrows) ?_ fun _ _ e _ => e.text_ne_empty
  intro g hg
  obtain ⟨i, -, rfl⟩ := List.mem_map.1 hg
  simpa [keyGroup] using hkey

theorem primaryKey_ne_nil_of_checkKey (h : checkKey p = .ok ()) (hkey : p.deletesByKey = true) :
    p.primaryKey ≠ [] := by
  intro hnil
  simp [checkKey, hkey, hnil] at h

/-- A deletion of fetched rows is held to their keys. -/
theorem CompiledFrom.scope_of_keys {entity : Entity} {query : QueryName} {m : QueryMethod}
    {fetched : List Row → Prop} (h : CompiledFrom entity query m.parameters m.shape p)
    (hkey : p.deletesByKey = true) {rows : List Row} (hrows : fetched rows) (hne : rows ≠ []) :
    p.Scope entity m query fetched (p.keyCondition rows.length) := by
  have hprimary : p.primaryKey ≠ [] := primaryKey_ne_nil_of_checkKey h.key hkey
  have hcolumns : p.primaryKey = entity.primaryKey := by
    rw [primaryKey, h.columns, Entity.primaryKey]
  have hproper : Proper ((p.keyGroups rows.length).map (·.map Equation.text)) :=
    proper_keyGroups (by simpa using hne) hprimary
  rw [keyCondition_eq]
  refine ⟨?_, fun _ => ⟨_, rfl, hproper, .keys hrows hne (hcolumns ▸ hprimary)⟩⟩
  have hall := h.deletesAll_iff (operation_of_deletesByKey hkey)
  simp [hall, hkey, condition_ne_true hproper.ne_nil]

end Plan

/-- Whatever was called before, a deletion that reaches the store has the scope that the method of
its plan gives it. That method is the one called, or another one of the same key. -/
theorem deletion_has_scope (entity : Entity) (settings : Settings) (calls : List Call) {α : Type}
    (t : Transport) (map : RowMapper α) (m : QueryMethod) (arguments : List Argument) :
    let statements :=
      (((Engine.create entity settings).after calls).execute t map m arguments).2.statements
    ∀ s, (.update, s) ∈ statements →
      ∃ m' query p condition, m.ServedAs calls m' ∧ QueryName.parse m'.name = .ok query ∧
        Plan.compile entity query m'.parameters m'.shape = .ok p ∧
        s.sql = "DELETE FROM " ++ entity.table ++ " WHERE " ++ condition ∧
        p.Scope entity m' query
          (fun rows => ∃ own, (.query, own) ∈ statements ∧ t.query own = .ok rows) condition := by
  intro statements s hs
  have hstatements : statements = _ := Engine.statements_execute _ t map m arguments
  rcases Entity.executePlanned_cases _ _ t map _ arguments with
    ⟨err, hexec, -⟩ | ⟨p, bound, own, hserved, -, hrender, -, -, haccesses, -⟩
  · rw [hstatements, hexec] at hs
    cases hs
  rw [haccesses] at hstatements
  obtain ⟨m', hm', hplan⟩ := Engine.exists_servedAs hserved
  obtain ⟨query, hparse, hcompile⟩ := QueryMethod.plan_eq_ok_iff.1 hplan
  have hfrom := Plan.compiledFrom_of_compile hcompile
  rw [hstatements] at hs
  rcases Plan.mem_accesses_update.1 hs with ⟨hop, hkey, rfl⟩ | ⟨hkey, rows, hrows, hne, hdel⟩
  · have hselects : p.selects = false := by simp [Plan.selects, hop, hkey]
    rw [Plan.render_of_not_selects hselects] at hrender
    refine ⟨m', query, p, _, hm', hparse, hcompile, ?_,
      hfrom.scope_of_bulk (QueryName.ne_nil_of_mem_groups hparse) hop hkey⟩
    rw [← Except.ok.inj hrender, Plan.bulkDelete, Sql.delete, hfrom.table]
  · have hown : (.query, own) ∈ statements := by
      rw [hstatements]
      exact Plan.mem_accesses_query.2 ⟨rfl, Or.inl hkey⟩
    refine ⟨m', query, p, _, hm', hparse, hcompile, ?_,
      hfrom.scope_of_keys hkey ⟨own, hown, hrows⟩ hne⟩
    rw [(Execution.targets_of_keyDeletion hdel).text, hfrom.table]

namespace Example

def deleteAll : QueryMethod := ⟨"shop::deleteTop3", "delete", [], .count⟩

/-- A deletion of three trades at most; its key is that of `deleteAll`. -/
def deleteThree : QueryMethod := ⟨"shop", "deleteTop3::delete", [], .count⟩

/-- The calls before `deleteThree` is called. -/
def deletedAll : List Call := [.execute emptyStore Trade.ofRow deleteAll []]

def deletedThree : Outcome (QueryResult Trade) :=
  (((Engine.create trades {}).after deletedAll).execute emptyStore Trade.ofRow deleteThree []).2

theorem exists_update_deletedThree :
    ∃ s, (.update, s) ∈ deletedThree.statements ∧ s.sql = "DELETE FROM trades WHERE true" :=
  exists_statement_of_sql (by decide +kernel)

/-- The plan kept for another method deletes every trade, despite the limit. -/
theorem limited_deletion_deletes_all :
    (∃ query, QueryName.parse deleteThree.name = .ok query ∧ query.operation = .delete ∧
      query.limit = some 3) ∧
    ∃ s, (.update, s) ∈ deletedThree.statements ∧ s.sql = "DELETE FROM trades WHERE true" := by
  have hname : (QueryName.parse deleteThree.name).toOption.map (fun query =>
      (query.operation, query.limit)) = some (.delete, some 3) := by
    decide +kernel
  obtain ⟨query, hquery, hparts⟩ := Option.map_eq_some_iff.1 hname
  obtain ⟨hoperation, hlimit⟩ := Prod.mk.inj hparts
  exact ⟨⟨query, Fallible.eq_ok_of_toOption hquery, hoperation, hlimit⟩, exists_update_deletedThree⟩

def deleteTopTwo : QueryMethod := ⟨"shop", "deleteTop2ByAction", [.string], .count⟩

/-- A deletion of two trades, which are fetched first. -/
def deletedTwo : Outcome (QueryResult Trade) :=
  ((Engine.create trades {}).execute twoTrades Trade.ofRow deleteTopTwo
    [.scalar (.string (some "BUY"))]).2

def twoKeys : String := "( id=@tag0 ) OR ( id=@tag1 )"

/-- One deletion runs without a restriction, the other one is held to the keys of two trades. -/
theorem deletion_has_scope_deletedThree :
    (∃ s, (.update, s) ∈ deletedThree.statements ∧
      ∃ m' query p condition, deleteThree.ServedAs deletedAll m' ∧
        QueryName.parse m'.name = .ok query ∧
        Plan.compile trades query m'.parameters m'.shape = .ok p ∧
        s.sql = "DELETE FROM " ++ trades.table ++ " WHERE " ++ condition ∧
        p.Scope trades m' query
          (fun rows => ∃ own, (.query, own) ∈ deletedThree.statements ∧
            emptyStore.query own = .ok rows) condition) ∧
    ∃ s, (.update, s) ∈ deletedTwo.statements ∧
      s.sql = "DELETE FROM " ++ trades.table ++ " WHERE " ++ twoKeys ∧
      ∃ query p groups, QueryName.parse deleteTopTwo.name = .ok query ∧
        Plan.compile trades query deleteTopTwo.parameters deleteTopTwo.shape = .ok p ∧
        twoKeys = " OR ".intercalate (groups.map fun g => "( " ++ " AND ".intercalate g ++ " )") ∧
        Sql.Proper groups ∧
        p.Restricts trades query
          (fun rows => ∃ own, (.query, own) ∈ deletedTwo.statements ∧
            twoTrades.query own = .ok rows) groups := by
  constructor
  · obtain ⟨s, hs, -⟩ := exists_update_deletedThree
    exact ⟨s, hs,
      deletion_has_scope trades {} deletedAll emptyStore Trade.ofRow deleteThree [] s hs⟩
  · obtain ⟨s, hs, hsql⟩ : ∃ s, (.update, s) ∈ deletedTwo.statements ∧
        s.sql = "DELETE FROM " ++ trades.table ++ " WHERE " ++ twoKeys :=
      exists_statement_of_sql (by decide +kernel)
    obtain ⟨m', query, p, condition, ⟨-, hm'⟩, hparse, hcompile, htext, hscope⟩ :=
      deletion_has_scope trades {} [] twoTrades Trade.ofRow deleteTopTwo _ s hs
    -- nothing was called before, so the plan is that of the method itself
    obtain rfl : m' = deleteTopTwo := by simpa using hm'
    obtain rfl : twoKeys = condition := (String.append_right_inj _).1 (hsql.symm.trans htext)
    obtain ⟨groups, hgroups, hproper, hrestricts⟩ := hscope.restricted (by decide)
    exact ⟨s, hs, hsql, query, p, groups, hparse, hcompile, hgroups, hproper, hrestricts⟩

end Example

end DerivedQuery
