import DerivedQuery.Proofs.Fallible
import DerivedQuery.Proofs.NamePattern
import DerivedQuery.Proofs.Words

/-!
The names that are read. A name has a reading exactly if it is a verb and one line behind it, its
limit counts at least one row, and none of its properties has an empty segment. All other names are
refused as names, and a clause is never empty nor a verb unknown by the time it is looked at.
-/

namespace DerivedQuery.QueryName

open Text

/-- What stands behind a verb: one line, which begins with an upper-case letter. -/
structure Line (rest : List Char) : Prop where
  notMem : '\n' ∉ rest
  upper : ∀ c ∈ rest.head?, isUpperLetter c = true

/-- A name is a verb and a line, and the line is cut at its first `By`. -/
inductive Cut : List Char → List Char → List Char → Prop
  | atBy {word rest subject predicate : List Char} (verb : word ∈ verbWords) (line : Line rest)
      (first : FirstAt byWord rest subject predicate) : Cut (word ++ rest) subject predicate
  | nowhere {word rest : List Char} (verb : word ∈ verbWords) (line : Line rest)
      (absent : ¬byWord <:+: rest) : Cut (word ++ rest) rest []

/-- What follows the first `Top` of a subject, or its first `First` where it has no `Top`. -/
def FollowsLimit (subject after : List Char) : Prop :=
  (∃ before, FirstAt topWord subject before after) ∨
    ¬topWord <:+: subject ∧ ∃ before, FirstAt firstWord subject before after

/-- The digits in front, if there are any, denote a positive number of 64 bits. -/
def CountFits (s : List Char) : Prop :=
  s.takeWhile isDigit = [] ∨
    1 ≤ decimalValue (s.takeWhile isDigit) ∧ decimalValue (s.takeWhile isDigit) < Nat.pow 2 64

/-- No segment of the property is empty. -/
def Segmented (property : List Char) : Prop := [] ∉ fields '_' property

/-- The clauses of a predicate, before its ordering and before an ending that folds them all. -/
def body (predicate : List Char) : List Char := (splitFoldAll (splitOrdering predicate).1).1

/-- A clause without its case ending and its keyword. -/
def property (clause : List Char) : List Char :=
  (Operator.detect (casePolicy false clause).2).1

/-- A name with this subject and this predicate can be read. -/
structure Readable (name subject predicate : List Char) : Prop where
  cut : Cut name subject predicate
  limit : ∀ after, FollowsLimit subject after → CountFits after
  ordered : ∀ before after, FirstAt orderByWord predicate before after → after ≠ []
  keys : ∀ before after, FirstAt orderByWord predicate before after →
    ∀ key ∈ directionWord.split after, Segmented key.1
  properties : ∀ group ∈ clauses (body predicate), ∀ clause ∈ group, Segmented (property clause)

theorem line_iff {rest : List Char} :
    (rest.all inLine && rest.head?.all isUpperLetter) = true ↔ Line rest := by
  rw [Bool.and_eq_true, List.all_eq_true, Option.all_eq_true]
  constructor
  · rintro ⟨hline, hupper⟩
    refine ⟨fun hmem => ?_, hupper⟩
    cases hline _ hmem
  · rintro ⟨hline, hupper⟩
    exact ⟨fun c hc => decide_eq_true fun heq => hline (heq ▸ hc), hupper⟩

theorem sections?_of_cut {name subject predicate : List Char} (h : Cut name subject predicate) :
    ∃ word ∈ verbWords, sections? name = some ⟨word, subject, predicate⟩ := by
  cases h with
  | @atBy word rest _ _ verb line first =>
    refine ⟨word, verb, ?_⟩
    rw [sections?_append verb, if_pos (line_iff.2 line), splitFirst?_eq_some_iff.2 first]
  | @nowhere word rest verb line absent =>
    refine ⟨word, verb, ?_⟩
    rw [sections?_append verb, if_pos (line_iff.2 line), splitFirst?_eq_none_iff.2 absent]

theorem cut_of_sections? {name : List Char} {s : Sections} (h : sections? name = some s) :
    s.verb ∈ verbWords ∧ Cut name s.subject s.predicate := by
  by_cases hverb : ∃ word ∈ verbWords, word <+: name
  · obtain ⟨word, hword, rest, rfl⟩ := hverb
    rw [sections?_append hword] at h
    split at h
    · next hline =>
      cases hby : splitFirst? byWord rest with
      | some found =>
        rw [hby] at h
        cases h
        exact ⟨hword, .atBy hword (line_iff.1 hline) (splitFirst?_eq_some_iff.1 hby)⟩
      | none =>
        rw [hby] at h
        cases h
        exact ⟨hword, .nowhere hword (line_iff.1 hline) (splitFirst?_eq_none_iff.1 hby)⟩
    · cases h
  · rw [sections?_eq_none fun word hword hfront => hverb ⟨word, hword, hfront⟩] at h
    cases h

theorem exists_limitAfter_iff {word rest : List Char} :
    (∃ n, limitAfter word rest = .ok n) ↔ CountFits rest := by
  have hdigits : (spanDigits rest).1 = rest.takeWhile isDigit := rfl
  rw [limitAfter, CountFits, hdigits]
  by_cases hnone : rest.takeWhile isDigit = []
  · simp [hnone]
  · by_cases hlarge : Nat.pow 2 64 ≤ decimalValue (rest.takeWhile isDigit)
    · simp [hnone, hlarge, Nat.not_lt.2 hlarge]
    · by_cases hzero : decimalValue (rest.takeWhile isDigit) = 0
      · simp [hnone, hzero]
      · simp [hnone, hlarge, hzero, Nat.one_le_iff_ne_zero, Nat.not_le.1 hlarge]

theorem followsLimit_iff_of_top {subject before after after' : List Char}
    (h : FirstAt topWord subject before after) : FollowsLimit subject after' ↔ after' = after := by
  constructor
  · rintro (⟨before', h'⟩ | ⟨habsent, -⟩)
    · exact (h'.unique h).2
    · exact absurd ⟨_, _, h.text.symm⟩ habsent
  · rintro rfl
    exact Or.inl ⟨before, h⟩

theorem followsLimit_iff_of_no_top {subject after : List Char} (h : ¬topWord <:+: subject) :
    FollowsLimit subject after ↔ ∃ before, FirstAt firstWord subject before after := by
  constructor
  · rintro (⟨before, htop⟩ | ⟨-, hfirst⟩)
    · exact absurd ⟨_, _, htop.text.symm⟩ h
    · exact hfirst
  · intro hfirst
    exact Or.inr ⟨h, hfirst⟩

theorem exists_readLimit_iff {subject : List Char} :
    (∃ limit, readLimit subject = .ok limit) ↔
      ∀ after, FollowsLimit subject after → CountFits after := by
  rw [readLimit]
  cases htop : splitFirst? topWord subject with
  | some found =>
    simp only [followsLimit_iff_of_top (splitFirst?_eq_some_iff.1 htop), forall_eq,
      Fallible.exists_map_eq_ok_iff, exists_limitAfter_iff]
  | none =>
    simp only [followsLimit_iff_of_no_top (splitFirst?_eq_none_iff.1 htop),
      ← splitFirst?_eq_some_iff]
    cases splitFirst? firstWord subject with
    | some found =>
      obtain ⟨before, after⟩ := found
      simp [Fallible.exists_map_eq_ok_iff, exists_limitAfter_iff]
    | none => simp

theorem path?_eq_none_iff {name : List Char} : path? name = none ↔ ¬Segmented name := by
  have hany : (fields '_' name).any List.isEmpty = true ↔ [] ∈ fields '_' name := by
    simp [List.any_eq_true]
  rw [path?, Segmented, not_not, ← hany]
  split
  · next h => simp [h]
  · next h => simp [h]

theorem exists_sortKey_iff {ordering : List Char}
    {part : List Char × Option (List Char × Direction)} :
    (∃ key, sortKey ordering part = .ok key) ↔ Segmented part.1 := by
  rw [← not_iff_not, ← path?_eq_none_iff, sortKey]
  cases path? part.1 <;> simp

theorem exists_readOrdering_iff {text : List Char} :
    (∃ order, readOrdering text = .ok order) ↔
      text ≠ [] ∧ ∀ key ∈ directionWord.split text, Segmented key.1 := by
  rw [readOrdering]
  split
  · next h => simp [h]
  · next h =>
    simp only [Fallible.exists_bind_eq_ok_iff]
    have hpure : ∀ keys, ∃ order, (pure ⟨keys⟩ : Except NameFault OrderBy) = .ok order :=
      fun keys => ⟨⟨keys⟩, rfl⟩
    simp only [hpure, and_true, Fallible.exists_mapM_eq_ok_iff, exists_sortKey_iff]
    simp [h]

/-- The property of a clause is the same whatever the case policy of its predicate. -/
theorem casePolicy_snd (foldAll : Bool) (clause : List Char) :
    (casePolicy foldAll clause).2 = (casePolicy false clause).2 := by
  unfold casePolicy
  split <;> rfl

theorem exists_readCondition_iff {foldAll : Bool} {clause : List Char} :
    (∃ condition, readCondition foldAll clause = .ok condition) ↔
      clause ≠ [] ∧ Segmented (property clause) := by
  rw [← not_iff_not, not_and, ← path?_eq_none_iff, property, ← casePolicy_snd foldAll,
    readCondition]
  split
  · next h => simp [h]
  · next h =>
    cases hpath : path? (Operator.detect (casePolicy foldAll clause).2).1 with
    | some path => simp [h, hpath]
    | none => simp [hpath]

theorem ne_nil_of_mem_pieces {word s piece : List Char} (hs : s ≠ [])
    (h : piece ∈ (connective word).pieces s) : piece ≠ [] := by
  -- a word counts only before an upper-case character, so something always follows it
  refine Delimiter.ne_nil_of_mem_pieces (fun rest hrest hnil => ?_) hs h
  rw [hnil] at hrest
  cases hrest

theorem pieces_ne_nil {d : Delimiter Unit} {s : List Char} : d.pieces s ≠ [] := by
  rw [Delimiter.pieces]
  split <;> simp

/-- A word between clauses leaves a clause on either side. -/
theorem ne_nil_of_mem_clauses {predicate clause : List Char} {group : List (List Char)}
    (hgroup : group ∈ clauses predicate) (hclause : clause ∈ group) : clause ≠ [] := by
  rw [clauses] at hgroup
  split at hgroup
  · cases hgroup
  · next hne =>
    obtain ⟨piece, hpiece, rfl⟩ := List.mem_map.1 hgroup
    exact ne_nil_of_mem_pieces (ne_nil_of_mem_pieces hne hpiece) hclause

theorem exists_readGroups_iff {foldAll : Bool} {predicate : List Char} :
    (∃ groups, readGroups foldAll predicate = .ok groups) ↔
      ∀ group ∈ clauses predicate, ∀ clause ∈ group, Segmented (property clause) := by
  simp only [readGroups, Fallible.exists_mapM_eq_ok_iff, exists_readCondition_iff]
  constructor
  · intro h group hgroup clause hclause
    exact (h group hgroup clause hclause).2
  · intro h group hgroup clause hclause
    exact ⟨ne_nil_of_mem_clauses hgroup hclause, h group hgroup clause hclause⟩

theorem ne_nil_of_mem_readGroups {foldAll : Bool} {predicate : List Char}
    {groups : List (List Condition)} (h : readGroups foldAll predicate = .ok groups) :
    ∀ group ∈ groups, group ≠ [] := by
  rintro _ hgroup rfl
  obtain ⟨clause, hclause, hread⟩ :=
    Fallible.exists_mem_of_forall₂ (Fallible.mapM_eq_ok_iff.1 h) hgroup
  obtain rfl := List.forall₂_nil_right_iff.1 (Fallible.mapM_eq_ok_iff.1 hread)
  rw [clauses] at hclause
  split at hclause
  · cases hclause
  · obtain ⟨piece, -, hpieces⟩ := List.mem_map.1 hclause
    exact pieces_ne_nil hpieces

theorem exists_readOrderBy_iff {predicate : List Char} :
    (∃ order, readOrderBy (splitOrdering predicate).2 = .ok order) ↔
      ∀ before after, FirstAt orderByWord predicate before after →
        after ≠ [] ∧ ∀ key ∈ directionWord.split after, Segmented key.1 := by
  simp only [← splitFirst?_eq_some_iff]
  rw [splitOrdering]
  cases splitFirst? orderByWord predicate with
  | some found =>
    obtain ⟨before, after⟩ := found
    simp only [readOrderBy, exists_readOrdering_iff]
    constructor
    · intro h b a heq
      cases heq
      exact h
    · intro h
      exact h before after rfl
  | none => simp [readOrderBy]

theorem exists_operation {word : List Char} (h : word ∈ verbWords) :
    ∃ operation, verbs.lookup word = some operation :=
  Option.isSome_iff_exists.1 ((by decide : ∀ w ∈ verbWords, (verbs.lookup w).isSome = true) word h)

/-- What a query says of the name that it was read from, section by section. -/
structure ReadFrom (name : List Char) (s : Sections) (query : QueryName) : Prop where
  sections : sections? name = some s
  text : query.text = String.ofList name
  operation : verbs.lookup s.verb = some query.operation
  distinct : query.distinct = occurs distinctWord s.subject
  limit : readLimit s.subject = .ok query.limit
  groups : readGroups (splitFoldAll (splitOrdering s.predicate).1).2 (body s.predicate) =
    .ok query.groups
  orderBy : readOrderBy (splitOrdering s.predicate).2 = .ok query.orderBy

theorem readChars_eq_ok_iff {name : List Char} {query : QueryName} :
    readChars name = .ok query ↔ ∃ s, ReadFrom name s query := by
  rw [readChars]
  constructor
  · intro h
    cases hs : sections? name with
    | none => simp [hs] at h
    | some s =>
      cases hoperation : verbs.lookup s.verb with
      | none => simp [hs, hoperation] at h
      | some operation =>
        simp only [hs, hoperation, readSections] at h
        obtain ⟨limit, hlimit, h⟩ := Fallible.bind_eq_ok_iff.1 h
        obtain ⟨groups, hgroups, h⟩ := Fallible.bind_eq_ok_iff.1 h
        obtain ⟨orderBy, horderBy, h⟩ := Fallible.bind_eq_ok_iff.1 h
        cases h
        exact ⟨s, hs, rfl, hoperation, rfl, hlimit, hgroups, horderBy⟩
  · rintro ⟨s, h⟩
    simp only [h.sections, h.operation, readSections]
    refine Fallible.bind_eq_ok_iff.2 ⟨_, h.limit, Fallible.bind_eq_ok_iff.2 ⟨_, h.groups, ?_⟩⟩
    refine Fallible.bind_eq_ok_iff.2 ⟨_, h.orderBy, ?_⟩
    simp only [← h.text, ← h.distinct]
    rfl

theorem parse_eq_ok_iff {name : String} {query : QueryName} :
    parse name = .ok query ↔ ∃ s, ReadFrom name.toList s query := by
  rw [← readChars_eq_ok_iff, parse]
  cases readChars name.toList <;> simp

theorem firstAt_front (w after : List Char) : FirstAt w (w ++ after) [] after :=
  ⟨rfl, fun _ _ _ => Nat.zero_le _⟩

/-- Without a `By` of its own, a subject is what stands before the first one. -/
theorem firstAt_of_absent {subject : List Char} (h : ¬byWord <:+: subject)
    (predicate : List Char) :
    FirstAt byWord (subject ++ (byWord ++ predicate)) subject predicate := by
  refine splitFirst?_eq_some_iff.1 (splitFirst?_append (by decide) fun b hb hne => ?_)
  rw [Option.eq_none_iff_forall_ne_some]
  intro rest hdrop
  have htext : b ++ (byWord ++ predicate) = byWord ++ rest := dropInitial?_eq_some.1 hdrop
  match b with
  | [] => exact hne rfl
  | [c] => simp [byWord] at htext
  | c :: d :: b =>
    have hby : byWord ++ b = c :: d :: b := by
      obtain ⟨rfl, htail⟩ := List.cons.inj htext
      obtain ⟨rfl, -⟩ := List.cons.inj htail
      rfl
    exact h ((hby ▸ List.prefix_append byWord b).isInfix.trans hb.isInfix)

/-- A name that is read is cut at the first `By` behind its verb. -/
theorem ReadFrom.eq_of_firstAt {verb rest subject predicate : List Char} {s : Sections}
    {query : QueryName} (h : ReadFrom (verb ++ rest) s query) (hverb : verb ∈ verbWords)
    (hfirst : FirstAt byWord rest subject predicate) :
    s = ⟨verb, subject, predicate⟩ ∧ Line rest := by
  have hsections := h.sections
  rw [sections?_append hverb, splitFirst?_eq_some_iff.2 hfirst] at hsections
  split at hsections
  · next hline =>
    cases hsections
    exact ⟨rfl, line_iff.1 hline⟩
  · cases hsections

theorem exists_readChars_iff {name : List Char} :
    (∃ query, readChars name = .ok query) ↔
      ∃ subject predicate, Readable name subject predicate := by
  simp only [readChars_eq_ok_iff]
  constructor
  · rintro ⟨query, s, h⟩
    have hlimit := exists_readLimit_iff.1 ⟨_, h.limit⟩
    have hgroups := exists_readGroups_iff.1 ⟨_, h.groups⟩
    have horder := exists_readOrderBy_iff.1 ⟨_, h.orderBy⟩
    exact ⟨s.subject, s.predicate, (cut_of_sections? h.sections).2, hlimit,
      fun b a hfirst => (horder b a hfirst).1, fun b a hfirst => (horder b a hfirst).2, hgroups⟩
  · rintro ⟨subject, predicate, h⟩
    obtain ⟨word, hverb, hs⟩ := sections?_of_cut h.cut
    obtain ⟨operation, hoperation⟩ := exists_operation hverb
    obtain ⟨limit, hlimit⟩ := exists_readLimit_iff.2 h.limit
    obtain ⟨groups, hgroups⟩ := exists_readGroups_iff.2 h.properties
    obtain ⟨orderBy, horderBy⟩ :=
      exists_readOrderBy_iff.2 fun b a hfirst => ⟨h.ordered b a hfirst, h.keys b a hfirst⟩
    exact ⟨⟨String.ofList name, operation, occurs distinctWord subject, limit, groups, orderBy⟩,
      _, hs, rfl, hoperation, rfl, hlimit, hgroups, horderBy⟩

/-- A group that is read has a condition. -/
theorem ne_nil_of_mem_groups {name : String} {query : QueryName} (h : parse name = .ok query) :
    ∀ group ∈ query.groups, group ≠ [] := by
  obtain ⟨s, hread⟩ := parse_eq_ok_iff.1 h
  exact ne_nil_of_mem_readGroups hread.groups

/-- The faults that a name can have. No clause is empty, and each verb has an operation. -/
def Arises (fault : NameFault) : Prop := fault ≠ .emptyClause ∧ ∀ verb, fault ≠ .noOperation verb

theorem fails_limitAfter (word rest : List Char) :
    Fallible.Fails Arises (limitAfter word rest) := by
  unfold limitAfter
  simp only
  split
  · exact .ok 1
  · split
    · exact .error (by simp [Arises])
    · split
      · exact .error (by simp [Arises])
      · exact .ok _

theorem fails_readLimit (subject : List Char) : Fallible.Fails Arises (readLimit subject) := by
  unfold readLimit
  split
  · exact (fails_limitAfter topWord _).map some
  · split
    · exact (fails_limitAfter firstWord _).map some
    · exact .ok none

theorem fails_readCondition {foldAll : Bool} {clause : List Char} (h : clause ≠ []) :
    Fallible.Fails Arises (readCondition foldAll clause) := by
  rw [readCondition, if_neg h]
  simp only
  split
  · exact .ok _
  · exact .error (by simp [Arises])

theorem fails_readGroups (foldAll : Bool) (predicate : List Char) :
    Fallible.Fails Arises (readGroups foldAll predicate) :=
  .mapM fun _ hgroup => .mapM fun _ hclause =>
    fails_readCondition (ne_nil_of_mem_clauses hgroup hclause)

theorem fails_readOrderBy (orderText : Option (List Char)) :
    Fallible.Fails Arises (readOrderBy orderText) := by
  cases orderText with
  | none => exact .ok _
  | some text =>
    rw [readOrderBy, readOrdering]
    split
    · exact .error (by simp [Arises])
    · refine .bind (.mapM fun part _ => ?_) fun keys => .ok _
      unfold sortKey
      split
      · exact .ok _
      · exact .error (by simp [Arises])

theorem fails_readChars (name : List Char) : Fallible.Fails Arises (readChars name) := by
  rw [readChars]
  cases hs : sections? name with
  | none => exact .error (by simp [Arises])
  | some s =>
    obtain ⟨operation, hoperation⟩ := exists_operation (cut_of_sections? hs).1
    simp only [hoperation]
    exact .bind (fails_readLimit _) fun limit => .bind (fails_readGroups _ _) fun groups =>
      .bind (fails_readOrderBy _) fun order => .ok _

/-- A name is read exactly if it is readable. Any other one is refused as a name, and not for an
empty clause nor for a verb without an operation. -/
theorem accepts_iff_readable (name : String) :
    ((∃ query, parse name = .ok query) ↔
      ∃ subject predicate, Readable name.toList subject predicate) ∧
    ∀ e, parse name = .error e → ∃ fault, e = .invalidName name fault ∧
      fault ≠ .emptyClause ∧ ∀ verb, fault ≠ .noOperation verb := by
  rw [← exists_readChars_iff, parse]
  cases hread : readChars name.toList with
  | ok query => simp
  | error fault =>
    refine ⟨by simp, ?_⟩
    rintro _ ⟨⟩
    exact ⟨fault, rfl, fails_readChars name.toList fault hread⟩

end DerivedQuery.QueryName
