import DerivedQuery.Proofs.Cutting
import DerivedQuery.Proofs.Fallible
import DerivedQuery.Proofs.NamePattern
import DerivedQuery.Proofs.Phrase.Subject
import DerivedQuery.Proofs.Phrase.Words

/-!
Reading undoes writing: the name that a phrase is stands for the query that the phrase asks for.
-/

namespace DerivedQuery.Phrase

open Text QueryName

theorem Segment.uncapitalize_chars (s : Segment) :
    uncapitalize s.chars = s.chars.modifyHead Char.toLower := by
  obtain ⟨w, ws, hparts⟩ := List.exists_cons_of_ne_nil s.ne_nil
  rw [Segment.chars, hparts, List.flatMap_cons, Word.chars, List.cons_append, uncapitalize,
    lower_of_isCapital w.capital]
  rfl

theorem Path.path?_chars (p : Path) : path? p.chars = some p.property := by
  have hfields : fields '_' p.chars = p.segments.map Segment.chars := by
    refine fields_intercalate (by simpa using p.ne_nil) ?_
    exact List.forall_mem_map.2 fun s _ => s.notMem_chars (by decide) (by decide)
  have hempty : (p.segments.map Segment.chars).any List.isEmpty = false := by
    rw [List.any_eq_false]
    intro f hf hnil
    obtain ⟨s, -, rfl⟩ := List.mem_map.1 hf
    have hupper := s.startsUpper
    rw [List.isEmpty_iff.1 hnil] at hupper
    cases hupper
  have hfield : p.segments.map (fun s => String.ofList (uncapitalize s.chars)) =
      p.segments.map Segment.field :=
    List.map_congr_left fun s _ => congrArg String.ofList s.uncapitalize_chars
  simp only [path?, hfields, hempty, List.map_map, Bool.false_eq_true, if_false]
  exact congrArg (fun segments => some (PropertyPath.mk segments)) hfield

theorem detect_spelled (c : Clause) :
    Operator.detect (c.path.chars ++ c.keyword) = (c.path.chars, c.operator) := by
  have hfree : ∀ w ∈ Text.words c.path.chars, w ∉ Operator.keywordWords :=
    fun w hw hkeyword => c.path.notMem_words (List.mem_append_right _ hkeyword) hw
  rcases mem_spellings c.spells with hk | ⟨hk, hop⟩
  · have hdetect := Operator.detect_append c.path.ne_nil_chars hfree hk
    exact hdetect
  · rw [hk, hop, List.append_nil]
    exact Operator.detect_property hfree

theorem FoldEnding.mem_foldEndings (e : FoldEnding) : e.chars ∈ foldEndings := by
  cases e <;> decide

theorem mem_foldAllEndings (e : FoldEnding) : allText ++ e.chars ∈ foldAllEndings := by
  cases e <;> decide

theorem Clause.ne_nil_spelled (c : Clause) : c.path.chars ++ c.keyword ≠ [] :=
  List.append_ne_nil_of_left_ne_nil c.path.ne_nil_chars _

/-- Only an ending of its own sets the case policy of a clause. -/
theorem dropEnding?_spelled (c : Clause) :
    dropEnding? foldEndings (c.path.chars ++ c.keyword) = none := by
  refine dropEnding?_eq_none fun e he hsuffix => ?_
  have hending : ∀ e ∈ foldEndings, BeginsWord e ∧ caseText ∈ Text.words e := by decide
  obtain ⟨hbegins, hcase⟩ := hending e he
  exact c.notMem_words_spelled (by decide) (words_subset_of_suffix hsuffix hbegins hcase)

theorem casePolicy_chars (foldAll : Bool) (c : Clause) :
    casePolicy foldAll c.chars =
      ((c.condition foldAll).casePolicy, c.path.chars ++ c.keyword) := by
  unfold casePolicy Clause.chars Clause.condition
  cases hending : c.ending with
  | none =>
    rw [Option.map_none, Option.getD_none, List.append_nil, dropEnding?_spelled]
    rfl
  | some e =>
    rw [Option.map_some, Option.getD_some, dropEnding?_append (by decide) e.mem_foldEndings]
    obtain ⟨x, xs, hspelled⟩ := List.exists_cons_of_ne_nil c.ne_nil_spelled
    rw [hspelled]
    rfl

theorem readCondition_chars (foldAll : Bool) (c : Clause) :
    readCondition foldAll c.chars = .ok (c.condition foldAll) := by
  have hne : c.chars ≠ [] := by
    rw [Clause.chars]
    exact List.append_ne_nil_of_left_ne_nil c.ne_nil_spelled _
  unfold readCondition
  rw [if_neg hne, casePolicy_chars]
  simp only [detect_spelled, Path.path?_chars]
  rfl

theorem body_eq_nil_iff (p : Phrase) : p.body = [] ↔ p.groups = [] := by
  cases hgroups : p.groups with
  | nil => simp [body, hgroups]
  | cons g gs =>
    have hupper : Text.startsUpper p.body = true := by
      rw [body, hgroups, List.map_cons]
      exact startsUpper_intercalate g.startsUpper _
    refine ⟨fun hnil => ?_, fun hnil => absurd hnil (List.cons_ne_nil g gs)⟩
    rw [hnil] at hupper
    cases hupper

theorem clauses_body (p : Phrase) :
    clauses p.body = p.groups.map fun g => g.clauses.map Clause.chars := by
  have hclauses : ∀ g : Group, QueryName.andWord.pieces g.chars = g.clauses.map Clause.chars := by
    intro g
    refine pieces_intercalate (by decide) (by simpa using g.ne_nil) ?_ ?_
    · exact List.forall_mem_map.2 fun c _ => c.startsUpper
    · exact List.forall_mem_map.2 fun c _ => c.notMem_words (by decide)
  rw [clauses]
  by_cases hnone : p.groups = []
  · rw [if_pos (p.body_eq_nil_iff.2 hnone), hnone, List.map_nil]
  · have hgroups : QueryName.orWord.pieces p.body = p.groups.map Group.chars := by
      refine pieces_intercalate (by decide) (by simpa using hnone) ?_ ?_
      · exact List.forall_mem_map.2 fun g _ => g.startsUpper
      · exact List.forall_mem_map.2 fun g _ => g.notMem_words (by decide) (by decide)
    rw [if_neg (mt p.body_eq_nil_iff.1 hnone), hgroups, List.map_map]
    exact List.map_congr_left fun g _ => hclauses g

theorem readGroups_body (foldAll : Bool) (p : Phrase) :
    readGroups foldAll p.body =
      .ok (p.groups.map fun g => g.clauses.map (Clause.condition foldAll)) := by
  rw [readGroups, clauses_body]
  refine Fallible.mapM_map_eq_ok fun g _ => ?_
  exact Fallible.mapM_map_eq_ok fun c _ => readCondition_chars foldAll c

/-- Only an ending of its own makes all clauses of a phrase ignore case. -/
theorem splitFoldAll_body (p : Phrase) :
    splitFoldAll (p.body ++ p.foldAllChars) = (p.body, p.foldAll.isSome) := by
  unfold splitFoldAll foldAllChars
  cases p.foldAll with
  | none =>
    rw [Option.map_none, Option.getD_none, List.append_nil, dropEnding?_eq_none]
    · rfl
    · intro e he hsuffix
      have hending : ∀ e ∈ foldAllEndings, BeginsWord e ∧ allText ∈ Text.words e := by decide
      obtain ⟨hbegins, hall⟩ := hending e he
      exact p.notMem_words_body (by decide) (by decide) (by decide)
        (words_subset_of_suffix hsuffix hbegins hall)
  | some e =>
    rw [Option.map_some, Option.getD_some, dropEnding?_append (by decide) (mem_foldAllEndings e)]
    rfl

theorem splitOrdering_predicate (p : Phrase) :
    splitOrdering p.predicate =
      (p.body ++ p.foldAllChars,
        if p.orderBy.isEmpty then none else some (keysChars p.orderBy)) := by
  have hskip : ∀ tail, BeginsWord tail → ∀ b, b <:+ p.body ++ p.foldAllChars → b ≠ [] →
      dropInitial? orderByWord (b ++ tail) = none := by
    intro tail htail b hb hne
    rw [Option.eq_none_iff_forall_ne_some]
    intro r hr
    have hfound : b ++ tail = orderByWord ++ r := dropInitial?_eq_some.1 hr
    have hwords : orderByWord ++ r = orderText ++ (byWord ++ r) := rfl
    rw [hwords] at hfound
    refine p.orderWord_notMem_words (mem_words_of_found (by decide) hb hne htail ?_ hfound)
    exact BeginsWord.append_of_ne_nil (by decide) (by decide) r
  unfold splitOrdering predicate orderingChars
  by_cases hempty : p.orderBy.isEmpty = true
  · rw [if_pos hempty, if_pos hempty, List.append_nil, splitFirst?_eq_none (by decide)]
    intro b hb hne
    simpa using hskip [] beginsWord_nil b hb hne
  · rw [if_neg hempty, if_neg hempty, splitFirst?_append (by decide)]
    exact hskip _ (BeginsWord.append_of_ne_nil (by decide) (by decide) _)

theorem wordwise_directionWord : directionWord.Wordwise := by
  refine ⟨by decide, fun rest h => ?_⟩
  rcases Bool.or_eq_true_iff.1 h with hempty | hupper
  · rw [List.isEmpty_iff.1 hempty]
    exact beginsWord_nil
  · exact beginsWord_of_startsUpper hupper

/-- A direction ends the path before it, whether the ordering ends there or not. -/
theorem follows_keysChars (keys : List (Path × Direction)) :
    directionWord.follows (keysChars keys) = true := by
  cases keys with
  | nil => rfl
  | cons k ks =>
    have hupper : startsUpper (keysChars (k :: ks)) = true := by
      rw [keysChars, List.flatMap_cons, List.append_assoc]
      exact startsUpper_append k.1.startsUpper _
    simp [directionWord, hupper]

theorem split_keysChars (keys : List (Path × Direction)) :
    directionWord.split (keysChars keys) =
      keys.map fun (path, direction) =>
        (path.chars, some (directionChars direction, direction)) := by
  induction keys with
  | nil => exact Delimiter.split_nil _
  | cons k ks ih =>
    obtain ⟨path, direction⟩ := k
    have hmem : (directionChars direction, direction) ∈ directionWord.words := by
      cases direction <;> decide
    have hone : ∀ v ∈ directionWord.words, v.1 = directionChars direction →
        v = (directionChars direction, direction) := by
      cases direction <;> decide
    have huncut : directionWord.Uncut path.chars := by
      refine ⟨path.ne_nil_chars, fun w hw => path.notMem_words (List.mem_append_left _ ?_)⟩
      exact (by decide : ∀ w ∈ directionWord.words, w.1 ∈ structuralWords) w hw
    have hcut := Delimiter.cut?_word_append wordwise_directionWord hone hmem
      (follows_keysChars ks) huncut
    rw [keysChars, List.flatMap_cons, List.append_assoc, List.map_cons]
    exact (Delimiter.split_of_cut? hcut).trans (congrArg (_ :: ·) ih)

theorem readOrdering_keysChars {keys : List (Path × Direction)} (hne : keys ≠ []) :
    readOrdering (keysChars keys) =
      .ok ⟨keys.map fun (path, direction) =>
        { property := path.property.dotted, direction }⟩ := by
  have hchars : keysChars keys ≠ [] := by
    obtain ⟨k, ks, rfl⟩ := List.exists_cons_of_ne_nil hne
    rw [keysChars, List.flatMap_cons, List.append_assoc]
    exact List.append_ne_nil_of_left_ne_nil k.1.ne_nil_chars _
  rw [readOrdering, if_neg hchars, split_keysChars, Fallible.mapM_map_eq_ok]
  · rfl
  · intro k hk
    simp [sortKey, k.1.path?_chars]

theorem mem_verbWords {v : List Char × Operation} (hv : v ∈ verbs) :
    v.1 ∈ verbWords ∧ verbs.lookup v.1 = some v.2 :=
  (by decide : ∀ v ∈ verbs, v.1 ∈ verbWords ∧ verbs.lookup v.1 = some v.2) v hv

theorem sections?_chars (p : Phrase) :
    sections? p.chars = some ⟨p.verb.1, p.subject.chars, p.predicate⟩ := by
  have hnewline : '\n' ∉ p.subject.chars ++ (byWord ++ p.predicate) := by
    simp only [List.mem_append, not_or]
    exact ⟨p.subject.notMem_chars (by decide) (by decide) (by decide) (by decide), by decide,
      p.newline_notMem_predicate⟩
  have hline : (p.subject.chars ++ (byWord ++ p.predicate)).all inLine = true := by
    rw [List.all_eq_true]
    intro c hc
    simpa [inLine] using fun heq : c = '\n' => hnewline (heq ▸ hc)
  have hby : splitFirst? byWord (p.subject.chars ++ (byWord ++ p.predicate)) =
      some (p.subject.chars, p.predicate) :=
    splitFirst?_append_of_notMem
      (p.subject.notMem_chars (by decide) (by decide) (by decide) (by decide)) _ _
  rw [chars, sections?_append (mem_verbWords p.isVerb).1, hby, hline,
    p.subject.head?_chars p.predicate]
  rfl

theorem readOrderBy_keys (p : Phrase) :
    readOrderBy (if p.orderBy.isEmpty then none else some (keysChars p.orderBy)) =
      .ok p.query.orderBy := by
  cases horder : p.orderBy with
  | nil =>
    simp only [List.isEmpty_nil, if_true, query, horder, List.map_nil]
    rfl
  | cons k ks =>
    simp only [List.isEmpty_cons, Bool.false_eq_true, if_false, readOrderBy,
      readOrdering_keysChars (List.cons_ne_nil k ks), query, horder]

theorem readChars_chars (p : Phrase) : readChars p.chars = .ok p.query := by
  unfold readChars
  simp only [sections?_chars, (mem_verbWords p.isVerb).2, readSections, Subject.readLimit_chars,
    splitOrdering_predicate, splitFoldAll_body, readGroups_body, readOrderBy_keys,
    Subject.occurs_chars]
  rfl

/-- A phrase, read as a name, is the query that it asks for. -/
theorem parse_text (p : Phrase) : QueryName.parse p.text = .ok p.query := by
  rw [QueryName.parse, text, String.toList_ofList, readChars_chars]

end DerivedQuery.Phrase

namespace DerivedQuery.Example

def traderId : Phrase.Path :=
  ⟨[⟨[⟨'T', ['r', 'a', 'd', 'e', 'r'], by decide, by decide⟩, ⟨'I', ['d'], by decide, by decide⟩],
    by decide, by decide +kernel⟩], by decide⟩

def topTraders : Phrase :=
  { verb := (['f', 'i', 'n', 'd'], .find)
    isVerb := by decide
    subject := ⟨true, some ⟨.top, 5, by decide, by decide⟩, true⟩
    groups :=
      [⟨[⟨traderId, .differs, "IsNot".toList, by decide, some .ignoreCase⟩,
        ⟨traderId, .equals, [], by decide, none⟩], by decide⟩,
       ⟨[⟨traderId, .isNull, "Null".toList, by decide, none⟩], by decide⟩]
    foldAll := some .ignoringCase
    orderBy := [(traderId, .desc)] }

example : topTraders.text =
    "findTop5DistinctByTraderIdIsNotIgnoreCaseAndTraderIdOrTraderIdNullAllIgnoringCase" ++
      "OrderByTraderIdDesc" := by
  decide +kernel

end DerivedQuery.Example
