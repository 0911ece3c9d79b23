import DerivedQuery.Proofs.Phrase

/-!
The words of a phrase, part by part. Each part begins with a capital, and the words that the next
larger part is cut at are none of its own. No part has a line feed in it.
-/

namespace DerivedQuery.Phrase

open Text

theorem Word.isWord (w : Word) : IsWord w.chars :=
  isWord_cons (continuesWord_of_isCapital w.capital) (List.all_eq_true.1 w.plain)

theorem Word.startsUpper (w : Word) : startsUpper w.chars = true :=
  isUpper_of_isUpperLetter (isUpperLetter_of_isCapital w.capital)

/-- Words have no other characters than letters and digits. -/
theorem Word.notMem_chars (w : Word) {c : Char} (hcapital : isCapital c = false)
    (hplain : continuesWord c = false) : c ∉ w.chars := by
  intro hc
  rcases List.mem_cons.1 hc with rfl | hc
  · simp [w.capital] at hcapital
  · simp [List.all_eq_true.1 w.plain c hc] at hplain

theorem beginsWord_parts (ws : List Word) : BeginsWord (ws.flatMap Word.chars) := by
  induction ws with
  | nil => exact beginsWord_nil
  | cons w ws ih => exact w.isWord.1.append ih

theorem words_parts (ws : List Word) :
    Text.words (ws.flatMap Word.chars) = ws.map Word.chars := by
  induction ws with
  | nil => rfl
  | cons w ws ih =>
    rw [List.flatMap_cons, words_word_append w.isWord (beginsWord_parts ws), ih, List.map_cons]

theorem Segment.startsUpper (s : Segment) : startsUpper s.chars = true := by
  obtain ⟨w, ws, hparts⟩ := List.exists_cons_of_ne_nil s.ne_nil
  rw [Segment.chars, hparts, List.flatMap_cons]
  exact startsUpper_append w.startsUpper _

theorem Segment.notMem_words (s : Segment) {w : List Char} (hw : w ∈ reserved) :
    w ∉ Text.words s.chars := by
  rw [Segment.chars, words_parts]
  intro hmem
  obtain ⟨v, hv, rfl⟩ := List.mem_map.1 hmem
  exact s.free v hv hw

theorem Segment.notMem_chars (s : Segment) {c : Char} (hcapital : isCapital c = false)
    (hplain : continuesWord c = false) : c ∉ s.chars := by
  intro hc
  obtain ⟨w, -, hw⟩ := List.mem_flatMap.1 hc
  exact w.notMem_chars hcapital hplain hw

theorem Path.startsUpper (p : Path) : startsUpper p.chars = true := by
  obtain ⟨s, ss, hsegments⟩ := List.exists_cons_of_ne_nil p.ne_nil
  rw [Path.chars, hsegments, List.map_cons]
  exact startsUpper_intercalate s.startsUpper _

theorem Path.ne_nil_chars (p : Path) : p.chars ≠ [] := by
  intro hnil
  have hupper := p.startsUpper
  rw [hnil] at hupper
  cases hupper

theorem Path.notMem_words (p : Path) {w : List Char} (hw : w ∈ reserved) :
    w ∉ Text.words p.chars := by
  have hmark : ['_'] ∉ reserved := by decide +kernel
  refine notMem_words_intercalate (by decide) (fun heq => hmark (heq ▸ hw)) ?_ ?_
  · exact List.forall_mem_map.2 fun s _ => beginsWord_of_startsUpper s.startsUpper
  · exact List.forall_mem_map.2 fun s _ => s.notMem_words hw

theorem FoldEnding.beginsWord (e : FoldEnding) : BeginsWord e.chars := by
  cases e <;> decide

theorem mem_spellings {op : Operator} {k : List Char} (h : k ∈ spellings op) :
    (k, op) ∈ Operator.vocabulary ∨ k = [] ∧ op = .equals := by
  rcases List.mem_append.1 h with hk | hk
  · left
    have hop : op ∈ Operator.all := by cases op <;> decide
    obtain ⟨keyword, hkeyword, rfl⟩ := List.mem_map.1 hk
    exact List.mem_flatMap.2 ⟨op, hop, List.mem_map.2 ⟨keyword, hkeyword, rfl⟩⟩
  · right
    split at hk
    · next hop => exact ⟨List.mem_singleton.1 hk, hop⟩
    · cases hk

theorem beginsWord_keyword {op : Operator} {k : List Char} (h : k ∈ spellings op) :
    BeginsWord k := by
  rcases mem_spellings h with hk | ⟨rfl, -⟩
  · exact (Operator.beginsWord_of_mem_vocabulary _ hk).2
  · exact beginsWord_nil

theorem structural_notMem_keywordWords : ∀ w ∈ structuralWords, w ∉ Operator.keywordWords := by
  decide +kernel

theorem notMem_words_keyword {op : Operator} {k w : List Char} (h : k ∈ spellings op)
    (hw : w ∈ structuralWords) : w ∉ Text.words k := by
  rcases mem_spellings h with hk | ⟨rfl, -⟩
  · intro hmem
    exact structural_notMem_keywordWords w hw (List.mem_flatMap.2 ⟨_, hk, hmem⟩)
  · exact List.not_mem_nil

/-- A property with its keyword, in which none of the structural words stands. -/
theorem Clause.notMem_words_spelled (c : Clause) {w : List Char} (hw : w ∈ structuralWords) :
    w ∉ Text.words (c.path.chars ++ c.keyword) := by
  rw [mem_words_append_iff (beginsWord_keyword c.spells), not_or]
  exact ⟨c.path.notMem_words (List.mem_append_left _ hw), notMem_words_keyword c.spells hw⟩

/-- The words around clauses. -/
def outerWords : List (List Char) := [andText, orText, orderText, allText]

theorem Clause.startsUpper (c : Clause) : startsUpper c.chars = true := by
  rw [Clause.chars, List.append_assoc]
  exact startsUpper_append c.path.startsUpper _

theorem Clause.notMem_words (c : Clause) {w : List Char} (hw : w ∈ outerWords) :
    w ∉ Text.words c.chars := by
  have hending : ∀ e : FoldEnding, ∀ w ∈ outerWords, w ∉ Text.words e.chars := by
    intro e
    cases e <;> decide
  have hspelled := c.notMem_words_spelled
    ((by decide : ∀ w ∈ outerWords, w ∈ structuralWords) w hw)
  rw [Clause.chars]
  cases c.ending with
  | none => simpa using hspelled
  | some e =>
    rw [Option.map_some, Option.getD_some, mem_words_append_iff e.beginsWord, not_or]
    exact ⟨hspelled, hending e w hw⟩

theorem Group.startsUpper (g : Group) : startsUpper g.chars = true := by
  obtain ⟨c, cs, hclauses⟩ := List.exists_cons_of_ne_nil g.ne_nil
  rw [Group.chars, hclauses, List.map_cons]
  exact startsUpper_intercalate c.startsUpper _

theorem Group.notMem_words (g : Group) {w : List Char} (hw : w ∈ outerWords) (hne : w ≠ andText) :
    w ∉ Text.words g.chars := by
  refine notMem_words_intercalate (by decide) hne ?_ ?_
  · exact List.forall_mem_map.2 fun c _ => beginsWord_of_startsUpper c.startsUpper
  · exact List.forall_mem_map.2 fun c _ => c.notMem_words hw

theorem notMem_words_body (p : Phrase) {w : List Char} (hw : w ∈ outerWords) (hand : w ≠ andText)
    (hor : w ≠ orText) : w ∉ Text.words p.body := by
  refine notMem_words_intercalate (by decide) hor ?_ ?_
  · exact List.forall_mem_map.2 fun g _ => beginsWord_of_startsUpper g.startsUpper
  · exact List.forall_mem_map.2 fun g _ => g.notMem_words hw hand

theorem beginsWord_foldAllChars (p : Phrase) : BeginsWord p.foldAllChars := by
  unfold foldAllChars
  cases p.foldAll with
  | none => exact beginsWord_nil
  | some e => cases e <;> decide

/-- The ordering is the only part of a predicate that says `Order`. -/
theorem orderWord_notMem_words (p : Phrase) :
    orderText ∉ Text.words (p.body ++ p.foldAllChars) := by
  have hending : orderText ∉ Text.words p.foldAllChars := by
    unfold foldAllChars
    cases p.foldAll with
    | none => exact List.not_mem_nil
    | some e => cases e <;> decide
  rw [mem_words_append_iff (beginsWord_foldAllChars p), not_or]
  exact ⟨p.notMem_words_body (by decide) (by decide) (by decide), hending⟩

theorem Path.newline_notMem (p : Path) : '\n' ∉ p.chars :=
  notMem_intercalate (by decide) (List.forall_mem_map.2 fun s _ =>
    s.notMem_chars (by decide) (by decide))

theorem Clause.newline_notMem (c : Clause) : '\n' ∉ c.chars := by
  have hvocabulary : ∀ e ∈ Operator.vocabulary, '\n' ∉ e.1 := by decide
  have hkeyword : '\n' ∉ c.keyword := by
    rcases mem_spellings c.spells with hk | ⟨hk, -⟩
    · exact hvocabulary _ hk
    · rw [hk]
      exact List.not_mem_nil
  have hending : '\n' ∉ (c.ending.map FoldEnding.chars).getD [] := by
    cases c.ending with
    | none => exact List.not_mem_nil
    | some e => cases e <;> decide
  rw [Clause.chars, List.mem_append, List.mem_append, not_or, not_or]
  exact ⟨⟨c.path.newline_notMem, hkeyword⟩, hending⟩

theorem newline_notMem_body (p : Phrase) : '\n' ∉ p.body :=
  notMem_intercalate (by decide) (List.forall_mem_map.2 fun g _ =>
    notMem_intercalate (by decide) (List.forall_mem_map.2 fun c _ => c.newline_notMem))

theorem newline_notMem_keysChars (keys : List (Path × Direction)) : '\n' ∉ keysChars keys := by
  intro h
  obtain ⟨⟨path, direction⟩, -, hk⟩ := List.mem_flatMap.1 h
  rcases List.mem_append.1 hk with hpath | hdirection
  · exact path.newline_notMem hpath
  · cases direction <;> exact absurd hdirection (by decide)

theorem newline_notMem_predicate (p : Phrase) : '\n' ∉ p.predicate := by
  have hfold : '\n' ∉ p.foldAllChars := by
    unfold foldAllChars
    cases p.foldAll with
    | none => exact List.not_mem_nil
    | some e => cases e <;> decide
  have hordering : '\n' ∉ p.orderingChars := by
    unfold orderingChars
    split
    · exact List.not_mem_nil
    · rw [List.mem_append, not_or]
      exact ⟨by decide, newline_notMem_keysChars _⟩
  rw [predicate, List.mem_append, List.mem_append, not_or, not_or]
  exact ⟨⟨p.newline_notMem_body, hfold⟩, hordering⟩

end DerivedQuery.Phrase
