import DerivedQuery.Example.Trades
import DerivedQuery.Proofs.CompilationOutcome
import DerivedQuery.Proofs.Cutting

/-!
The ending that folds all clauses. With it a name is read as without it, and its conditions ignore
case where they can. Only the leaves that compare strings change in the plan, and no leaf takes
another argument than before.
-/

namespace DerivedQuery

open Text

/-- The policy of a clause in a predicate that folds all its clauses. -/
def CasePolicy.foldAll : CasePolicy → CasePolicy
  | .never | .whenPossible => .whenPossible
  | .always => .always

def Condition.foldAll (c : Condition) : Condition := { c with casePolicy := c.casePolicy.foldAll }

/-- The query of a name like that of `query` whose clauses all ignore case where they can. -/
def QueryName.foldAll (query : QueryName) (name : String) : QueryName :=
  { query with text := name, groups := query.groups.map (·.map Condition.foldAll) }

/-- The same error for another method, where it names one. -/
def QueryError.ofMethod (method : String) : QueryError → QueryError
  | .invalidName _ fault => .invalidName method fault
  | .invalidSignature _ fault => .invalidSignature method fault
  | e => e

/-- A leaf as far as it takes an argument. -/
def Leaf.unfolded (l : Leaf) : Leaf := { l with fold := false }

theorem CasePolicy.folds_foldAll (policy : CasePolicy) (type : WireType) :
    policy.foldAll.folds type = (policy.folds type || type == .string) := by
  cases policy <;> simp [folds, foldAll]

namespace QueryName

variable {verb subject predicate ending : List Char}

theorem conditions_foldAll (query : QueryName) (name : String) :
    (query.foldAll name).conditions = query.conditions.map Condition.foldAll := by
  simp [conditions, foldAll, List.map_flatten]

/-- An `OrderBy` does not reach into the ending, since it has no `A`. -/
theorem orderBy_absent_append (hending : ending ∈ foldAllEndings)
    (h : ¬orderByWord <:+: predicate) : ¬orderByWord <:+: predicate ++ ending := by
  have habsent : ∀ e ∈ foldAllEndings, ¬orderByWord <:+: e := by decide
  have hhead : ∀ e ∈ foldAllEndings, e.head? = some 'A' := by decide
  rw [List.infix_append_iff]
  rintro (hbefore | hbehind | ⟨front, back, hword, hfront, hback⟩)
  · exact h hbefore
  · exact habsent ending hending hbehind
  · cases back with
    | nil =>
      rw [List.append_nil] at hword
      exact h (hword ▸ hfront.isInfix)
    | cons c back =>
      obtain ⟨rest, rfl⟩ := hback
      obtain rfl : c = 'A' := Option.some.inj (hhead _ hending)
      have hmem : 'A' ∈ orderByWord := hword ▸ List.mem_append_right _ List.mem_cons_self
      exact absurd hmem (by decide)

theorem splitOrdering_of_absent (h : ¬orderByWord <:+: predicate) :
    splitOrdering predicate = (predicate, none) := by
  rw [splitOrdering, splitFirst?_eq_none_iff.2 h]

theorem splitFoldAll_append (h : ending ∈ foldAllEndings) (predicate : List Char) :
    splitFoldAll (predicate ++ ending) = (predicate, true) := by
  rw [splitFoldAll, dropEnding?_append (by decide) h]

theorem splitFoldAll_of_absent (h : ∀ e ∈ foldAllEndings, ¬e <:+ predicate) :
    splitFoldAll predicate = (predicate, false) := by
  rw [splitFoldAll, dropEnding?_eq_none h]

/-- The ending is on the line of the name, and does not begin it. -/
theorem line_append_iff {rest : List Char} (hending : ending ∈ foldAllEndings) (h : rest ≠ []) :
    Line (rest ++ ending) ↔ Line rest := by
  have hline : '\n' ∉ ending := (by decide : ∀ e ∈ foldAllEndings, '\n' ∉ e) ending hending
  constructor
  · intro hrest
    exact ⟨fun hmem => hrest.notMem (List.mem_append_left _ hmem),
      List.head?_append_of_ne_nil rest h ▸ hrest.upper⟩
  · intro hrest
    refine ⟨?_, (List.head?_append_of_ne_nil rest h).symm ▸ hrest.upper⟩
    simp only [List.mem_append, not_or]
    exact ⟨hrest.notMem, hline⟩

theorem sections?_of_line (hverb : verb ∈ verbWords) (h : ¬byWord <:+: subject)
    (hline : Line (subject ++ (byWord ++ predicate))) :
    sections? (verb ++ (subject ++ (byWord ++ predicate))) = some ⟨verb, subject, predicate⟩ := by
  rw [sections?_append hverb, if_pos (line_iff.2 hline),
    splitFirst?_eq_some_iff.2 (firstAt_of_absent h predicate)]

theorem sections?_of_not_line {rest : List Char} (hverb : verb ∈ verbWords) (h : ¬Line rest) :
    sections? (verb ++ rest) = none := by
  rw [sections?_append hverb, if_neg fun hline => h (line_iff.1 hline)]

theorem casePolicy_true (clause : List Char) :
    casePolicy true clause =
      ((casePolicy false clause).1.foldAll, (casePolicy false clause).2) := by
  unfold casePolicy
  split <;> rfl

theorem readCondition_true (clause : List Char) :
    readCondition true clause = (readCondition false clause).map Condition.foldAll := by
  rw [readCondition, readCondition, casePolicy_true]
  split
  · rfl
  · dsimp only
    cases path? (Operator.detect (casePolicy false clause).2).1 <;> rfl

theorem readGroups_true (predicate : List Char) :
    readGroups true predicate =
      (readGroups false predicate).map (·.map (·.map Condition.foldAll)) :=
  Fallible.mapM_eq_map_mapM fun _ _ => Fallible.mapM_eq_map_mapM fun clause _ =>
    readCondition_true clause

/-- A predicate is read alike with the ending and without it. -/
theorem readSections_foldAll (hending : ending ∈ foldAllEndings)
    (horder : ¬orderByWord <:+: predicate) (hplain : ∀ e ∈ foldAllEndings, ¬e <:+ predicate)
    (name name' : List Char) (operation : Operation) :
    readSections name' ⟨verb, subject, predicate ++ ending⟩ operation =
      (readSections name ⟨verb, subject, predicate⟩ operation).map
        (·.foldAll (String.ofList name')) := by
  simp only [readSections, splitOrdering_of_absent horder,
    splitOrdering_of_absent (orderBy_absent_append hending horder), splitFoldAll_append hending,
    splitFoldAll_of_absent hplain, readGroups_true]
  cases readLimit subject with
  | error fault => rfl
  | ok limit => cases readGroups false predicate <;> rfl

theorem readChars_foldAll (hverb : verb ∈ verbWords) (hending : ending ∈ foldAllEndings)
    (hsubject : ¬byWord <:+: subject) (horder : ¬orderByWord <:+: predicate)
    (hplain : ∀ e ∈ foldAllEndings, ¬e <:+ predicate) :
    readChars (verb ++ (subject ++ (byWord ++ (predicate ++ ending)))) =
      (readChars (verb ++ (subject ++ (byWord ++ predicate)))).map
        (·.foldAll (String.ofList (verb ++ (subject ++ (byWord ++ (predicate ++ ending)))))) := by
  have hrest : subject ++ (byWord ++ (predicate ++ ending)) =
      subject ++ (byWord ++ predicate) ++ ending := by
    simp only [List.append_assoc]
  have hne : subject ++ (byWord ++ predicate) ≠ [] := by simp [byWord]
  have hline' := line_append_iff hending hne
  rw [← hrest] at hline'
  rw [readChars, readChars]
  by_cases hline : Line (subject ++ (byWord ++ predicate))
  · rw [sections?_of_line hverb hsubject hline, sections?_of_line hverb hsubject (hline'.2 hline)]
    dsimp only
    cases verbs.lookup verb with
    | none => rfl
    | some operation => exact readSections_foldAll hending horder hplain _ _ operation
  · rw [sections?_of_not_line hverb hline, sections?_of_not_line hverb fun h => hline (hline'.1 h)]
    rfl

theorem parse_foldAll (hverb : verb ∈ verbWords) (hending : ending ∈ foldAllEndings)
    (hsubject : ¬byWord <:+: subject) (horder : ¬orderByWord <:+: predicate)
    (hplain : ∀ e ∈ foldAllEndings, ¬e <:+ predicate) {name name' : String}
    (hname : name = String.ofList (verb ++ (subject ++ (byWord ++ predicate))))
    (hname' : name' = String.ofList (verb ++ (subject ++ (byWord ++ (predicate ++ ending))))) :
    parse name' = ((parse name).map (·.foldAll name')).mapError (·.ofMethod name') := by
  have hread := readChars_foldAll hverb hending hsubject horder hplain
  rw [← hname'] at hread
  rw [parse, parse, hname, String.toList_ofList, ← hname, hname', String.toList_ofList, ← hname',
    hread]
  cases readChars (verb ++ (subject ++ (byWord ++ predicate))) <;> rfl

theorem casePolicy_of_readCondition {foldAll : Bool} {clause : List Char} {c : Condition}
    (h : readCondition foldAll clause = .ok c) : c.casePolicy = (casePolicy foldAll clause).1 := by
  rw [readCondition] at h
  split at h
  · cases h
  · dsimp only at h
    split at h
    · cases h
      rfl
    · cases h

/-- Without the ending, a clause says itself whether it ignores case. -/
theorem casePolicy_ne_whenPossible_of_mem {groups : List (List Condition)}
    (h : readGroups false predicate = .ok groups) :
    ∀ group ∈ groups, ∀ c ∈ group, c.casePolicy ≠ .whenPossible := by
  intro group hgroup c hc
  obtain ⟨clauses, -, hclauses⟩ :=
    Fallible.exists_mem_of_forall₂ (Fallible.mapM_eq_ok_iff.1 h) hgroup
  obtain ⟨clause, -, hclause⟩ :=
    Fallible.exists_mem_of_forall₂ (Fallible.mapM_eq_ok_iff.1 hclauses) hc
  rw [casePolicy_of_readCondition hclause, casePolicy]
  split <;> simp

theorem casePolicy_ne_whenPossible_of_parse {query : QueryName} (hverb : verb ∈ verbWords)
    (hsubject : ¬byWord <:+: subject) (horder : ¬orderByWord <:+: predicate)
    (hplain : ∀ e ∈ foldAllEndings, ¬e <:+ predicate)
    (h : parse (String.ofList (verb ++ (subject ++ (byWord ++ predicate)))) = .ok query) :
    ∀ c ∈ query.conditions, c.casePolicy ≠ .whenPossible := by
  obtain ⟨sections, hread⟩ := parse_eq_ok_iff.1 h
  rw [String.toList_ofList] at hread
  obtain ⟨rfl, -⟩ := hread.eq_of_firstAt hverb (firstAt_of_absent hsubject predicate)
  have hgroups := hread.groups
  simp only [body, splitOrdering_of_absent horder, splitFoldAll_of_absent hplain] at hgroups
  intro c hc
  obtain ⟨group, hgroup, hmem⟩ := List.mem_flatten.1 hc
  exact casePolicy_ne_whenPossible_of_mem hgroups group hgroup c hmem

end QueryName

namespace Plan

variable {entity : Entity} {query : QueryName} {parameters : List ParameterType}
  {shape : ResultShape} {p p' : Plan} {e : QueryError} {name : String}

/-- A plan is its query with its leaves and its keys. -/
theorem CompiledFrom.eq (h : CompiledFrom entity query parameters shape p) :
    p = ⟨query.text, query.operation, shape, query.distinct, query.limit, entity.table,
      entity.columns, p.groups, p.orderBy, parameters⟩ := by
  rw [← h.method, ← h.operation, ← h.shape, ← h.distinct, ← h.limit, ← h.table, ← h.columns,
    ← h.parameters]

theorem expressible_foldAll_iff : Expressible (query.foldAll name) ↔ Expressible query := by
  simp only [Expressible, QueryName.conditions_foldAll, List.forall_mem_map]
  rfl

theorem resolved_foldAll_iff : Resolved entity (query.foldAll name) ↔ Resolved entity query := by
  simp only [Resolved, QueryName.conditions_foldAll, List.forall_mem_map]
  rfl

theorem signed_foldAll_iff :
    Signed (query.foldAll name) parameters shape ↔ Signed query parameters shape :=
  ⟨fun h => ⟨h.markers, h.shape⟩, fun h => ⟨h.markers, h.shape⟩⟩

theorem plannable_foldAll_iff :
    Plannable entity (query.foldAll name) parameters shape ↔
      Plannable entity query parameters shape := by
  constructor
  · intro h
    exact ⟨expressible_foldAll_iff.1 h.operators, signed_foldAll_iff.1 h.signature,
      resolved_foldAll_iff.1 h.conditions, h.ordering, h.key⟩
  · intro h
    exact ⟨expressible_foldAll_iff.2 h.operators, signed_foldAll_iff.2 h.signature,
      resolved_foldAll_iff.2 h.conditions, h.ordering, h.key⟩

/-- Nothing that a query is refused for has to do with letter case. -/
theorem Refusal.foldAll (h : Refusal entity query parameters shape e) (name : String) :
    Refusal entity (query.foldAll name) parameters shape (e.ofMethod name) := by
  have hfirst : ∀ (P : Condition → Prop) (c : Condition),
      IsFirst (fun c => P c.foldAll) query.conditions c →
        IsFirst P (query.foldAll name).conditions c.foldAll := by
    intro P c hc
    rw [QueryName.conditions_foldAll]
    exact isFirst_map_iff.2 ⟨c, hc, rfl⟩
  cases h with
  | @operator c first => exact .operator (c := c.foldAll) (hfirst _ c first)
  | markers operators many => exact .markers (expressible_foldAll_iff.2 operators) many
  | shape operators markers unfit =>
    exact .shape (expressible_foldAll_iff.2 operators) markers unfit
  | @condition operators signature c first =>
    exact .condition (c := c.foldAll) (expressible_foldAll_iff.2 operators)
      (signed_foldAll_iff.2 signature) (hfirst _ c first)
  | ordering operators signature conditions first =>
    exact .ordering (expressible_foldAll_iff.2 operators) (signed_foldAll_iff.2 signature)
      (resolved_foldAll_iff.2 conditions) first
  | key operators signature conditions ordering byKey keyless =>
    exact .key (expressible_foldAll_iff.2 operators) (signed_foldAll_iff.2 signature)
      (resolved_foldAll_iff.2 conditions) ordering byKey keyless

/-- The second leaf of a condition folds where the first one does, and in addition where its
operator can and its column, the first one with the field of the condition, is a string. -/
def FoldsString (entity : Entity) (c : Condition) (l l' : Leaf) : Prop :=
  ∃ column, IsFirst (·.field = c.path.dotted) entity.columns column ∧ l.operator = c.operator ∧
    l.column = column.name ∧
    l' = { l with fold := l.fold || (l.operator.canFold && column.type == .string) }

/-- The plans of two queries of which the second one has this name and folds all its clauses. They
differ in their names and in which leaves fold, and the arguments of a call are bound alike. -/
structure FoldsStrings (p : Plan) (entity : Entity) (query : QueryName) (name : String)
    (p' : Plan) : Prop where
  plan : p' = { p with method := name, groups := p'.groups }
  sizes : p'.groups.map List.length = p.groups.map List.length
  leaves : ∀ (i : Nat) (l : Leaf), p.leaves[i]? = some l → ∃ c l',
    query.conditions[i]? = some c ∧ p'.leaves[i]? = some l' ∧ FoldsString entity c l l'
  bindings : ∀ lookup arguments, bind lookup p' arguments = bind lookup p arguments

theorem foldsString_of_leaf {i : Nat} {c : Condition} {l l' : Leaf}
    (h : leaf entity i c = .ok l) (h' : leaf entity i c.foldAll = .ok l') :
    FoldsString entity c l l' := by
  obtain ⟨column, hfirst, rfl⟩ := leaf_eq_ok_iff.1 h
  obtain ⟨column', hfirst', rfl⟩ := leaf_eq_ok_iff.1 h'
  obtain rfl : column' = column := hfirst'.unique hfirst
  refine ⟨column', hfirst, rfl, rfl, ?_⟩
  simp only [Condition.foldAll, CasePolicy.folds_foldAll, Bool.and_or_distrib_left]

theorem FoldsString.unfolded_eq {c : Condition} {l l' : Leaf} (h : FoldsString entity c l l') :
    l'.unfolded = l.unfolded := by
  obtain ⟨column, -, -, -, rfl⟩ := h
  rfl

namespace CompiledFrom

theorem sizes (h : CompiledFrom entity query parameters shape p) :
    p.groups.map List.length = query.groups.map List.length := by
  have hgroups := (leafGroups_spec h.groups).2.imp fun _ _ hgroup => hgroup.length_eq.symm
  rw [← List.forall₂_eq_eq_eq, List.forall₂_map_left_iff, List.forall₂_map_right_iff]
  exact hgroups.flip

variable (h : CompiledFrom entity query parameters shape p)
  (h' : CompiledFrom entity (query.foldAll name) parameters shape p')

include h h'

theorem foldsString {i : Nat} {l : Leaf} (hl : p.leaves[i]? = some l) :
    ∃ c l', query.conditions[i]? = some c ∧ p'.leaves[i]? = some l' ∧
      FoldsString entity c l l' := by
  have hi : i < query.conditions.length :=
    h.leaves.length_eq ▸ (List.getElem?_eq_some_iff.1 hl).1
  have hc : query.conditions[i]? = some query.conditions[i] := List.getElem?_eq_getElem hi
  have hc' : (query.foldAll name).conditions[i]? = some query.conditions[i].foldAll := by
    rw [QueryName.conditions_foldAll, List.getElem?_map, hc]
    rfl
  obtain ⟨first, hfirst, hleaf⟩ := h.leaf_of_condition hc
  obtain ⟨l', hl', hleaf'⟩ := h'.leaf_of_condition hc'
  obtain rfl : first = l := Option.some.inj (hfirst.symm.trans hl)
  exact ⟨_, l', hc, hl', foldsString_of_leaf hleaf hleaf'⟩

theorem map_unfolded : p'.leaves.map Leaf.unfolded = p.leaves.map Leaf.unfolded := by
  have hlength : p'.leaves.length = p.leaves.length := by
    rw [← h.leaves.length_eq, ← h'.leaves.length_eq, QueryName.conditions_foldAll, List.length_map]
  refine List.ext_getElem? fun i => ?_
  rw [List.getElem?_map, List.getElem?_map]
  cases hl : p.leaves[i]? with
  | none => rw [List.getElem?_eq_none (hlength ▸ List.getElem?_eq_none_iff.1 hl)]
  | some l =>
    obtain ⟨c, l', -, hl', hfolds⟩ := h.foldsString h' hl
    rw [hl', Option.map_some, Option.map_some, hfolds.unfolded_eq]

theorem eq_with_groups : p' = { p with method := name, groups := p'.groups } := by
  have horder : p'.orderBy = p.orderBy := Except.ok.inj (h'.orderBy.symm.trans h.orderBy)
  rw [h'.eq, h.eq, horder]
  rfl

end CompiledFrom

/-- Binding looks at no leaf further than it takes an argument. -/
theorem mapM_bindLeaf_unfolded (lookup : String → Option Converter) (leaves : List Leaf)
    (bindable : List (Argument × ParameterType)) :
    ((leaves.map Leaf.unfolded).zip bindable).mapM
        (fun (l, argument, type) => Binding.bindLeaf lookup l argument type) =
      (leaves.zip bindable).mapM
        (fun (l, argument, type) => Binding.bindLeaf lookup l argument type) := by
  rw [List.zip_map_left, List.mapM_map]
  rfl

theorem bind_eq_of_unfolded (hparameters : p'.parameters = p.parameters)
    (hleaves : p'.leaves.map Leaf.unfolded = p.leaves.map Leaf.unfolded)
    (lookup : String → Option Converter) (arguments : List Argument) :
    bind lookup p' arguments = bind lookup p arguments := by
  have hlength : p'.leaves.length = p.leaves.length := by
    simpa using congrArg List.length hleaves
  unfold bind
  simp only [hparameters, hlength, ← mapM_bindLeaf_unfolded lookup p'.leaves, hleaves,
    mapM_bindLeaf_unfolded lookup p.leaves]

theorem foldsStrings_of_compile (h : compile entity query parameters shape = .ok p)
    (h' : compile entity (query.foldAll name) parameters shape = .ok p') :
    p.FoldsStrings entity query name p' := by
  have hfrom := compiledFrom_of_compile h
  have hfrom' := compiledFrom_of_compile h'
  constructor
  case plan => exact hfrom.eq_with_groups hfrom'
  case sizes =>
    rw [hfrom.sizes, hfrom'.sizes]
    simp [QueryName.foldAll, Function.comp_def]
  case leaves => exact fun _ _ => hfrom.foldsString hfrom'
  case bindings =>
    have hparameters : p'.parameters = p.parameters :=
      hfrom'.parameters.trans hfrom.parameters.symm
    exact bind_eq_of_unfolded hparameters (hfrom.map_unfolded hfrom')

end Plan

/-- With the ending that folds all clauses, a name is read as without it, but for the case policies
of its clauses, or refused for the same fault. It is compiled alike too: refused for the same
reason, or with a plan that folds those leaves in addition that compare strings. -/
theorem foldAll_folds_strings_only {verb ending : List Char} (hverb : verb ∈ QueryName.verbWords)
    (hending : ending ∈ QueryName.foldAllEndings) (subject predicate : List Char)
    (hsubject : ¬QueryName.byWord <:+: subject) (horder : ¬QueryName.orderByWord <:+: predicate)
    (hplain : ∀ e ∈ QueryName.foldAllEndings, ¬e <:+ predicate) :
    let name := String.ofList (verb ++ (subject ++ (QueryName.byWord ++ predicate)))
    let name' := String.ofList (verb ++ (subject ++ (QueryName.byWord ++ (predicate ++ ending))))
    QueryName.parse name' =
        ((QueryName.parse name).map (·.foldAll name')).mapError (·.ofMethod name') ∧
      ∀ query, QueryName.parse name = .ok query →
        (∀ c ∈ query.conditions, c.casePolicy ≠ .whenPossible) ∧
        ∀ entity parameters shape,
          (∀ e, Plan.compile entity query parameters shape = .error e →
            Plan.compile entity (query.foldAll name') parameters shape =
              .error (e.ofMethod name')) ∧
          ∀ p, Plan.compile entity query parameters shape = .ok p →
            ∃ p', Plan.compile entity (query.foldAll name') parameters shape = .ok p' ∧
              p.FoldsStrings entity query name' p' := by
  intro name name'
  refine ⟨QueryName.parse_foldAll hverb hending hsubject horder hplain rfl rfl,
    fun query hquery => ⟨?_, fun entity parameters shape => ⟨fun e he => ?_, fun p hp => ?_⟩⟩⟩
  · exact QueryName.casePolicy_ne_whenPossible_of_parse hverb hsubject horder hplain hquery
  · exact Plan.compile_eq_error_iff.2 ((Plan.compile_eq_error_iff.1 he).foldAll name')
  · obtain ⟨p', hp'⟩ := Plan.exists_compile_iff.2
      (Plan.plannable_foldAll_iff.2 (Plan.exists_compile_iff.1 ⟨p, hp⟩))
    exact ⟨p', hp', Plan.foldsStrings_of_compile hp hp'⟩

namespace Example

open QueryName Plan

/-- Two clauses that say nothing of letter case, and one that ignores it. -/
def partlyFolded : List Char := "ActionAndPriceLessThanOrSymbolIgnoreCase".toList

def partlyFoldedName : String := "findDistinctByActionAndPriceLessThanOrSymbolIgnoreCase"

def foldedName : String := "findDistinctByActionAndPriceLessThanOrSymbolIgnoreCaseAllIgnoringCase"

/-- Of three conditions, the one on a number folds with neither name, and the last one with both. -/
theorem foldAll_folds_action_only :
    ¬byWord <:+: "Distinct".toList ∧ ¬orderByWord <:+: partlyFolded ∧
      (∀ e ∈ foldAllEndings, ¬e <:+ partlyFolded) ∧
      ∃ query p p', parse partlyFoldedName = .ok query ∧
        parse foldedName = .ok (query.foldAll foldedName) ∧
        query.conditions.map (·.casePolicy) = [.never, .never, .always] ∧
        compile trades query [.string, .float, .string] .many = .ok p ∧
        compile trades (query.foldAll foldedName) [.string, .float, .string] .many = .ok p' ∧
        p.FoldsStrings trades query foldedName p' ∧
        p.leaves.map (·.fold) = [false, false, true] ∧
        p'.leaves.map (·.fold) = [true, false, true] := by
  have hsubject : ¬byWord <:+: "Distinct".toList := by decide
  have horder : ¬orderByWord <:+: partlyFolded := by decide
  have hplain : ∀ e ∈ foldAllEndings, ¬e <:+ partlyFolded := by decide
  have hparts : (parse partlyFoldedName).toOption.map (fun query =>
      (query.conditions.map (·.casePolicy),
        (compile trades query [.string, .float, .string] .many).toOption.map
          (·.leaves.map (·.fold)),
        (compile trades (query.foldAll foldedName) [.string, .float, .string] .many).toOption.map
          (·.leaves.map (·.fold)))) =
      some ([.never, .never, .always], some [false, false, true], some [true, false, true]) := by
    decide +kernel
  obtain ⟨query, hquery, hparts⟩ := Option.map_eq_some_iff.1 hparts
  obtain ⟨hpolicies, hparts⟩ := Prod.mk.inj hparts
  obtain ⟨hunfolded, hfolded⟩ := Prod.mk.inj hparts
  obtain ⟨p, hp, hfolds⟩ := Option.map_eq_some_iff.1 hunfolded
  obtain ⟨p', hp', hfolds'⟩ := Option.map_eq_some_iff.1 hfolded
  have hparse := Fallible.eq_ok_of_toOption hquery
  have hcompile := Fallible.eq_ok_of_toOption hp
  have hcompile' := Fallible.eq_ok_of_toOption hp'
  have hname : String.ofList (['f', 'i', 'n', 'd'] ++ ("Distinct".toList ++
      (byWord ++ partlyFolded))) = partlyFoldedName := by
    decide +kernel
  have hname' : String.ofList (['f', 'i', 'n', 'd'] ++ ("Distinct".toList ++
      (byWord ++ (partlyFolded ++ "AllIgnoringCase".toList)))) = foldedName := by
    decide +kernel
  have hall := @foldAll_folds_strings_only ['f', 'i', 'n', 'd'] "AllIgnoringCase".toList
    (by decide) (by decide) "Distinct".toList partlyFolded hsubject horder hplain
  simp only [hname, hname', hparse] at hall
  obtain ⟨hread, hplans⟩ := hall
  obtain ⟨-, hcompiled⟩ := hplans query rfl
  obtain ⟨folded, hfoldedPlan, hstrings⟩ := (hcompiled trades _ _).2 p hcompile
  obtain rfl : folded = p' := Except.ok.inj (hfoldedPlan.symm.trans hcompile')
  exact ⟨hsubject, horder, hplain, query, p, folded, hparse, hread, hpolicies, hcompile,
    hcompile', hstrings, hfolds, hfolds'⟩

end Example

end DerivedQuery
