import DerivedQuery.Proofs.Cutting
import DerivedQuery.Proofs.Pieces
import DerivedQuery.Proofs.Readable

/-!
The clauses of a predicate. Joined again they are the predicate itself, and none of them has a
connective left in it that could cut it.
-/

namespace DerivedQuery.QueryName

open Text

/-- The clauses joined again, by `And` in a group and by `Or` between groups. -/
def joinedClauses (query : QueryName) : String :=
  "Or".intercalate (query.groups.map fun group => "And".intercalate (group.map (·.clause)))

/-- What stands before the first `OrderBy` of a predicate. -/
inductive BeforeOrdering : List Char → List Char → Prop
  | cut {predicate before after : List Char} (first : FirstAt orderByWord predicate before after) :
    BeforeOrdering predicate before
  | whole {predicate : List Char} (absent : ¬orderByWord <:+: predicate) :
    BeforeOrdering predicate predicate

/-- A text without one of the endings that fold all clauses, where it has one. -/
inductive WithoutFoldAll : List Char → List Char → Prop
  | ended {text ending : List Char} (mem : ending ∈ foldAllEndings) :
    WithoutFoldAll (text ++ ending) text
  | plain {text : List Char} (absent : ∀ ending ∈ foldAllEndings, ¬ending <:+ text) :
    WithoutFoldAll text text

/-- The text between the first `By` of a name and the first `OrderBy` behind it, without an ending
that folds all clauses. -/
def PredicateText (name text : List Char) : Prop :=
  ∃ subject predicate front, Cut name subject predicate ∧ BeforeOrdering predicate front ∧
    WithoutFoldAll front text

/-- The words between clauses. -/
def connectives : List (List Char) := [['A', 'n', 'd'], ['O', 'r']]

/-- Behind the first character, no connective stands before an upper-case character. -/
def Unsplittable (clause : List Char) : Prop :=
  ∀ word ∈ connectives, ∀ front c rest, front ≠ [] → clause = front ++ (word ++ c :: rest) →
    isUpper c = false

variable {word s text : List Char}

theorem beforeOrdering_iff {predicate front : List Char} :
    BeforeOrdering predicate front ↔ front = (splitOrdering predicate).1 := by
  rw [splitOrdering]
  constructor
  · rintro (first | absent)
    · rw [splitFirst?_eq_some_iff.2 first]
    · rw [splitFirst?_eq_none_iff.2 absent]
  · rintro rfl
    cases hsplit : splitFirst? orderByWord predicate with
    | some found => exact .cut (splitFirst?_eq_some_iff.1 hsplit)
    | none => exact .whole (splitFirst?_eq_none_iff.1 hsplit)

theorem BeforeOrdering.eq_of_absent {predicate front : List Char}
    (h : BeforeOrdering predicate front) (habsent : ¬orderByWord <:+: predicate) :
    front = predicate := by
  cases h with
  | cut first => exact absurd ⟨_, _, first.text.symm⟩ habsent
  | whole => rfl

theorem BeforeOrdering.eq_of_firstAt {predicate front before after : List Char}
    (h : BeforeOrdering predicate front) (hfirst : FirstAt orderByWord predicate before after) :
    front = before := by
  cases h with
  | cut first => exact (first.unique hfirst).1
  | whole absent => exact absurd ⟨_, _, hfirst.text.symm⟩ absent

theorem withoutFoldAll_iff {front : List Char} :
    WithoutFoldAll front text ↔ text = (splitFoldAll front).1 := by
  rw [splitFoldAll]
  constructor
  · rintro (mem | absent)
    · rw [dropEnding?_append (by decide) mem]
    · rw [dropEnding?_eq_none absent]
  · rintro rfl
    cases hdrop : dropEnding? foldAllEndings front with
    | some rest =>
      obtain ⟨ending, hmem, hfinal⟩ := List.exists_of_findSome?_eq_some hdrop
      rw [dropFinal?_eq_some.1 hfinal]
      exact .ended hmem
    | none =>
      refine .plain fun ending hmem hsuffix => ?_
      obtain ⟨rest, rfl⟩ := hsuffix
      rw [dropEnding?_append (by decide) hmem] at hdrop
      cases hdrop

theorem predicateText_iff {name : List Char} {sections : Sections} {query : QueryName}
    (h : ReadFrom name sections query) :
    PredicateText name text ↔ text = body sections.predicate := by
  simp only [PredicateText, beforeOrdering_iff, withoutFoldAll_iff]
  constructor
  · rintro ⟨subject, predicate, front, hcut, rfl, rfl⟩
    obtain ⟨verb, -, hsections⟩ := sections?_of_cut hcut
    cases h.sections.symm.trans hsections
    rfl
  · rintro rfl
    exact ⟨_, _, _, (cut_of_sections? h.sections).2, rfl, rfl⟩

theorem looksAhead_connective (word : List Char) : (connective word).LooksAhead := by
  constructor
  · rintro rest hrest rfl
    cases hrest
  · exact fun rest t hrest => startsUpper_append hrest t

theorem whole_connective_iff :
    (connective word).Whole s ↔
      ∀ front c rest, front ≠ [] → s = front ++ (word ++ c :: rest) → isUpper c = false := by
  constructor
  · intro hwhole front c rest hne hs
    rw [Bool.eq_false_iff]
    intro hupper
    exact hwhole front (word, ()) (c :: rest) ⟨hne, List.mem_singleton.2 rfl, hs, hupper⟩
  · rintro h piece w rest ⟨hne, hw, hs, hfollows⟩
    obtain rfl := List.mem_singleton.1 hw
    cases rest with
    | nil => cases hfollows
    | cons c rest =>
      have hlower := h piece c rest hne hs
      rw [show isUpper c = true from hfollows] at hlower
      cases hlower

/-- The pieces between the places where a word cuts, joined by it, are the text. -/
theorem intercalate_pieces (word s : List Char) :
    word.intercalate ((connective word).pieces s) = s := by
  fun_induction Delimiter.pieces (connective word) s with
  | case1 s hcut => exact List.intercalate_singleton
  | case2 s piece w rest hcut ih =>
    have hends := Delimiter.ends_of_cut? hcut
    have hw : w.1 = word := congrArg Prod.fst (List.mem_singleton.1 hends.mem)
    obtain ⟨q, qs, hpieces⟩ := List.exists_cons_of_ne_nil (pieces_ne_nil (d := connective word)
      (s := rest))
    rw [hpieces] at ih ⊢
    rw [List.intercalate_cons_cons, ih, List.append_assoc, hends.text, hw]

theorem joined_clauses (predicate : List Char) :
    ['O', 'r'].intercalate ((clauses predicate).map ['A', 'n', 'd'].intercalate) = predicate := by
  rw [clauses]
  split
  · next hempty => rw [hempty]; rfl
  · have hgroups : (orWord.pieces predicate).map (['A', 'n', 'd'].intercalate ∘ andWord.pieces) =
        orWord.pieces predicate :=
      List.map_id'' (intercalate_pieces _) _
    rw [List.map_map, hgroups]
    exact intercalate_pieces _ _

/-- A clause is a piece of a group, so what could cut the clause could have cut the group. -/
theorem unsplittable_of_mem_clauses {predicate clause : List Char} {group : List (List Char)}
    (hgroup : group ∈ clauses predicate) (hclause : clause ∈ group) : Unsplittable clause := by
  rw [clauses] at hgroup
  split at hgroup
  · cases hgroup
  · obtain ⟨piece, hpiece, rfl⟩ := List.mem_map.1 hgroup
    have hand : andWord.Whole clause :=
      Delimiter.whole_of_mem_pieces (looksAhead_connective _) hclause
    have hor : orWord.Whole clause :=
      (Delimiter.whole_of_mem_pieces (looksAhead_connective _) hpiece).of_isInfix
        (looksAhead_connective _) (Delimiter.isInfix_of_mem_pieces hclause)
    intro word hword
    rcases List.mem_cons.1 hword with rfl | hword
    · exact whole_connective_iff.1 hand
    · obtain rfl := List.mem_singleton.1 hword
      exact whole_connective_iff.1 hor

theorem toList_clause_of_readCondition {foldAll : Bool} {clause : List Char}
    {condition : Condition} (h : readCondition foldAll clause = .ok condition) :
    condition.clause.toList = clause := by
  rw [readCondition] at h
  split at h
  · cases h
  · dsimp only at h
    split at h
    · cases h
      exact String.toList_ofList
    · cases h

theorem clauses_of_readGroups {foldAll : Bool} {predicate : List Char}
    {groups : List (List Condition)} (h : readGroups foldAll predicate = .ok groups) :
    groups.map (·.map (·.clause.toList)) = clauses predicate := by
  have hgroup : ∀ group (conditions : List Condition),
      group.mapM (readCondition foldAll) = .ok conditions →
        conditions.map (·.clause.toList) = group := by
    intro group conditions hread
    have htexts := Fallible.map_eq_of_mapM_eq_ok (h := id) hread fun _ _ _ =>
      toList_clause_of_readCondition
    rw [htexts, List.map_id]
  have htexts := Fallible.map_eq_of_mapM_eq_ok (h := id) h fun _ _ _ => hgroup _ _
  rw [htexts, List.map_id]

theorem toList_joinedClauses (query : QueryName) :
    query.joinedClauses.toList =
      ['O', 'r'].intercalate
        (query.groups.map fun group =>
          ['A', 'n', 'd'].intercalate (group.map (·.clause.toList))) := by
  simp [joinedClauses, String.toList_intercalate, Function.comp_def]

theorem toList_joinedClauses_of_readFrom {name : List Char} {sections : Sections}
    {query : QueryName} (h : ReadFrom name sections query) :
    query.joinedClauses.toList = body sections.predicate := by
  rw [toList_joinedClauses, ← joined_clauses (body sections.predicate),
    ← clauses_of_readGroups h.groups, List.map_map]
  rfl

theorem ReadFrom.front {name : List Char} {sections : Sections} {query : QueryName}
    (h : ReadFrom name sections query) :
    ∃ front, BeforeOrdering sections.predicate front ∧
      WithoutFoldAll front query.joinedClauses.toList :=
  ⟨_, beforeOrdering_iff.2 rfl, withoutFoldAll_iff.2 (toList_joinedClauses_of_readFrom h)⟩

/-- Joined again, the clauses of a name are the text of its predicate. A group has a clause, a
clause is not empty, and no connective is left in it that could cut it. -/
theorem joinedClauses_eq_predicateText (name : String) (query : QueryName)
    (h : parse name = .ok query) :
    (∀ text, PredicateText name.toList text ↔ text = query.joinedClauses.toList) ∧
      ∀ group ∈ query.groups, group ≠ [] ∧
        ∀ condition ∈ group, condition.clause ≠ "" ∧ Unsplittable condition.clause.toList := by
  obtain ⟨sections, hread⟩ := parse_eq_ok_iff.1 h
  refine ⟨fun text => ?_, fun group hgroup => ?_⟩
  · rw [predicateText_iff hread, toList_joinedClauses_of_readFrom hread]
  · have hmem : group.map (·.clause.toList) ∈ clauses (body sections.predicate) :=
      clauses_of_readGroups hread.groups ▸ List.mem_map_of_mem hgroup
    refine ⟨ne_nil_of_mem_readGroups hread.groups group hgroup, fun condition hcondition => ?_⟩
    have hclause := List.mem_map_of_mem (f := (·.clause.toList)) hcondition
    refine ⟨fun hempty => ne_nil_of_mem_clauses hmem hclause ?_,
      unsplittable_of_mem_clauses hmem hclause⟩
    simp only [hempty, String.toList_empty]

end DerivedQuery.QueryName

namespace DerivedQuery.Example

open QueryName

/-- A connective at the front of a clause cuts nothing, and the next one does. -/
theorem joinedClauses_of_repeated_connectives :
    ∃ query, parse "findByOrOrPriceAndAndActionAllIgnoreCase" = .ok query ∧
      query.groups.map (·.map (·.clause)) = [["Or"], ["Price", "AndAction"]] ∧
      PredicateText "findByOrOrPriceAndAndActionAllIgnoreCase".toList
        "OrOrPriceAndAndAction".toList := by
  have hclauses : (parse "findByOrOrPriceAndAndActionAllIgnoreCase").toOption.map (fun query =>
      (query.groups.map (·.map (·.clause)), query.joinedClauses)) =
        some ([["Or"], ["Price", "AndAction"]], "OrOrPriceAndAndAction") := by
    decide +kernel
  obtain ⟨query, hquery, heq⟩ := Option.map_eq_some_iff.1 hclauses
  obtain ⟨hgroups, hjoined⟩ := Prod.mk.inj heq
  have hparse := Fallible.eq_ok_of_toOption hquery
  have htext := (joinedClauses_eq_predicateText _ query hparse).1 query.joinedClauses.toList
  exact ⟨query, hparse, hgroups, hjoined ▸ htext.2 rfl⟩

end DerivedQuery.Example
