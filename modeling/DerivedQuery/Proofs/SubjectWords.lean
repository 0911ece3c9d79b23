import DerivedQuery.Proofs.LetterCount
import DerivedQuery.Proofs.Phrase.Words

/-!
Words of a subject. A word that begins like none of the words that count there changes nothing; any
other one does, whether it is such a word or only begins like one.
-/

namespace DerivedQuery

open Text

namespace Phrase

variable {s t k b tail : List Char}

theorem Word.notMem_rest (w : Word) {c : Char} (h : continuesWord c = false) : c ∉ w.rest := by
  intro hmem
  have hcontinues := List.all_eq_true.1 w.plain c hmem
  rw [h] at hcontinues
  cases hcontinues

/-- A word does not reach into what begins with another one. -/
theorem Word.prefix_of_prefix_append (w : Word) (hne : s ≠ []) (ht : BeginsWord t)
    (h : w.chars <+: s ++ t) : w.chars <+: s := by
  rcases List.prefix_or_prefix_of_prefix h (List.prefix_append s t) with hs | ⟨y, hy⟩
  · exact hs
  · cases y with
    | nil => exact ⟨[], by rw [← hy, List.append_nil, List.append_nil]⟩
    | cons c y =>
      rw [← hy, List.prefix_append_right_inj] at h
      obtain ⟨t', rfl⟩ := h
      obtain ⟨d, s', rfl⟩ := List.exists_cons_of_ne_nil hne
      have hmem : c ∈ w.rest := by
        rw [← (List.cons.inj hy).2]
        exact List.mem_append_right _ List.mem_cons_self
      exact absurd hmem (w.notMem_rest (ht c rfl))

/-- A word found among words begins one of them. -/
theorem Word.exists_of_found (w : Word) {words : List Word} (htail : BeginsWord tail)
    (hb : b <:+ words.flatMap chars) (hne : b ≠ []) (h : w.chars <+: b ++ tail) :
    ∃ v ∈ words, w.chars <+: v.chars := by
  induction words with
  | nil => exact absurd (List.suffix_nil.1 hb) hne
  | cons v words ih =>
    have hlater : b <:+ words.flatMap chars → ∃ u ∈ v :: words, w.chars <+: u.chars := by
      intro hb
      obtain ⟨u, hu, hw⟩ := ih hb
      exact ⟨u, List.mem_cons_of_mem v hu, hw⟩
    rw [List.flatMap_cons] at hb
    rcases List.suffix_or_suffix_of_suffix hb (List.suffix_append v.chars _) with hb' | ⟨x, rfl⟩
    · exact hlater hb'
    · cases x with
      | nil => exact hlater (List.suffix_refl _)
      | cons c x =>
        obtain ⟨a, ha⟩ := hb
        rw [← List.append_assoc, List.append_left_inj] at ha
        rw [List.append_assoc] at h
        cases a with
        | nil =>
          rw [List.nil_append] at ha
          rw [ha] at h
          refine ⟨v, List.mem_cons_self, w.prefix_of_prefix_append (List.cons_ne_nil _ _) ?_ h⟩
          exact (beginsWord_parts words).append htail
        | cons d a =>
          -- the capital would stand inside the word
          have hc : c = w.initial := by
            obtain ⟨r, hr⟩ := h
            exact (List.cons.inj hr).1.symm
          have hmem : c ∈ v.rest := by
            rw [← (List.cons.inj ha).2]
            exact List.mem_append_right _ List.mem_cons_self
          exact absurd (hc ▸ hmem) (v.notMem_rest (continuesWord_of_isCapital w.capital))

end Phrase

namespace QueryName

open Phrase (Word)

/-- Two names are refused, or they ask for the same and differ in their texts only. -/
inductive AskAlike : Except QueryError QueryName → Except QueryError QueryName → Prop
  | refused (e e' : QueryError) : AskAlike (.error e) (.error e')
  | same (query : QueryName) (text : String) : AskAlike (.ok { query with text }) (.ok query)

/-- The words that count in a subject, and the one behind it. -/
def subjectWords : List (List Char) := [byWord, distinctWord, topWord, firstWord]

/-- None of the words begins like one that counts in a subject. -/
def Ordinary (words : List Word) : Prop := ∀ w ∈ words, ∀ k ∈ subjectWords, ¬k <+: w.chars

/-- What stands behind the verb of a name: the words of its subject, `By` and its predicate. -/
def behindVerb (words : List Word) (predicate : List Char) : List Char :=
  words.flatMap Word.chars ++ (byWord ++ predicate)

def named (verb : List Char) (words : List Word) (predicate : List Char) : String :=
  String.ofList (verb ++ behindVerb words predicate)

def Refused (name : String) : Prop := ∃ e, parse name = .error e

variable {words words' : List Word} {verb predicate k : List Char}

theorem exists_word_of_mem_subjectWords (h : k ∈ subjectWords) : ∃ w : Word, w.chars = k := by
  simp only [subjectWords, List.mem_cons, List.not_mem_nil, or_false] at h
  rcases h with rfl | rfl | rfl | rfl
  · exact ⟨⟨'B', ['y'], rfl, rfl⟩, rfl⟩
  · exact ⟨⟨'D', ['i', 's', 't', 'i', 'n', 'c', 't'], rfl, rfl⟩, rfl⟩
  · exact ⟨⟨'T', ['o', 'p'], rfl, rfl⟩, rfl⟩
  · exact ⟨⟨'F', ['i', 'r', 's', 't'], rfl, rfl⟩, rfl⟩

theorem infix_words_iff (hk : k ∈ subjectWords) :
    k <:+: words.flatMap Word.chars ↔ ∃ w ∈ words, k <+: w.chars := by
  obtain ⟨w, rfl⟩ := exists_word_of_mem_subjectWords hk
  constructor
  · rintro ⟨a, t, h⟩
    refine w.exists_of_found beginsWord_nil (b := w.chars ++ t) ?_ ?_ ?_
    · exact ⟨a, by rw [← h, List.append_assoc]⟩
    · exact List.append_ne_nil_of_left_ne_nil (List.cons_ne_nil _ _) t
    · rw [List.append_nil]
      exact List.prefix_append _ _
  · rintro ⟨v, hv, hprefix⟩
    obtain ⟨before, after, rfl⟩ := List.append_of_mem hv
    have hv : v.chars <:+: (before ++ v :: after).flatMap Word.chars :=
      ⟨before.flatMap Word.chars, after.flatMap Word.chars, by simp⟩
    exact hprefix.isInfix.trans hv

theorem ordinary_iff_not_infix :
    Ordinary words ↔ ∀ k ∈ subjectWords, ¬k <:+: words.flatMap Word.chars := by
  constructor
  · intro h k hk hinfix
    obtain ⟨w, hw, hprefix⟩ := (infix_words_iff hk).1 hinfix
    exact h w hw k hk hprefix
  · intro h w hw k hk hprefix
    exact h k hk ((infix_words_iff hk).2 ⟨w, hw, hprefix⟩)

theorem occurs_iff {w s : List Char} : occurs w s = true ↔ w <:+: s := by
  rw [occurs, ← not_iff_not, ← splitFirst?_eq_none_iff]
  cases splitFirst? w s <;> simp

theorem readLimit_eq_none_iff {subject : List Char} :
    readLimit subject = .ok none ↔ ¬topWord <:+: subject ∧ ¬firstWord <:+: subject := by
  simp only [← splitFirst?_eq_none_iff]
  rw [readLimit]
  cases splitFirst? topWord subject with
  | some found => cases hlimit : limitAfter topWord found.2 <;> simp [hlimit, Except.map]
  | none =>
    cases splitFirst? firstWord subject with
    | some found => cases hlimit : limitAfter firstWord found.2 <;> simp [hlimit, Except.map]
    | none => simp

theorem firstAt_of_no_by (h : ∀ w ∈ words, ¬byWord <+: w.chars) :
    FirstAt byWord (behindVerb words predicate) (words.flatMap Word.chars) predicate := by
  refine firstAt_of_absent (fun hinfix => ?_) predicate
  obtain ⟨w, hw, hprefix⟩ := (infix_words_iff (by decide)).1 hinfix
  exact h w hw hprefix

theorem Ordinary.firstAt (h : Ordinary words) :
    FirstAt byWord (behindVerb words predicate) (words.flatMap Word.chars) predicate :=
  firstAt_of_no_by fun w hw => h w hw byWord (by decide)

theorem Ordinary.not_distinct (h : Ordinary words) :
    occurs distinctWord (words.flatMap Word.chars) = false := by
  rw [Bool.eq_false_iff, ne_eq, occurs_iff]
  exact ordinary_iff_not_infix.1 h distinctWord (by decide)

theorem Ordinary.unlimited (h : Ordinary words) :
    readLimit (words.flatMap Word.chars) = .ok none := by
  have hnone := ordinary_iff_not_infix.1 h
  exact readLimit_eq_none_iff.2 ⟨hnone topWord (by decide), hnone firstWord (by decide)⟩

theorem line_behindVerb_iff : Line (behindVerb words predicate) ↔ '\n' ∉ predicate := by
  have hwords : '\n' ∉ words.flatMap Word.chars := by
    intro hmem
    obtain ⟨w, -, hw⟩ := List.mem_flatMap.1 hmem
    exact w.notMem_chars rfl rfl hw
  constructor
  · intro h hmem
    exact h.notMem (List.mem_append_right _ (List.mem_append_right _ hmem))
  · intro h
    constructor
    · simp only [behindVerb, List.mem_append, not_or]
      exact ⟨hwords, by decide, h⟩
    · cases words with
      | nil => exact fun c hc => Option.some.inj hc ▸ rfl
      | cons w words =>
        exact fun c hc => Option.some.inj hc ▸ isUpperLetter_of_isCapital w.capital

/-- Ordinary words take nothing from a reading and add nothing to it. -/
theorem parse_named_of_ordinary {query : QueryName} (hverb : verb ∈ verbWords)
    (hwords : Ordinary words) (hwords' : Ordinary words')
    (h : parse (named verb words predicate) = .ok query) :
    parse (named verb words' predicate) =
      .ok { query with text := named verb words' predicate } := by
  obtain ⟨sections, hread⟩ := parse_eq_ok_iff.1 h
  rw [named, String.toList_ofList] at hread
  obtain ⟨rfl, hline⟩ := hread.eq_of_firstAt hverb hwords.firstAt
  have hline' : Line (behindVerb words' predicate) :=
    line_behindVerb_iff.2 (line_behindVerb_iff.1 hline)
  refine parse_eq_ok_iff.2 ⟨⟨verb, words'.flatMap Word.chars, predicate⟩, ?_⟩
  rw [named, String.toList_ofList]
  refine ⟨?_, rfl, hread.operation, ?_, ?_, hread.groups, hread.orderBy⟩
  · rw [sections?_append hverb, if_pos (line_iff.2 hline'),
      splitFirst?_eq_some_iff.2 hwords'.firstAt]
  · rw [hread.distinct, hwords.not_distinct, hwords'.not_distinct]
  · rw [hwords'.unlimited, ← hwords.unlimited, hread.limit]

/-- A `By` among the words cuts the name before its predicate begins. -/
theorem countB_lt_of_firstAt {before after : List Char}
    (hby : byWord <:+: words.flatMap Word.chars)
    (h : FirstAt byWord (behindVerb words predicate) before after) :
    Text.countB predicate < Text.countB after := by
  obtain ⟨x, y, hwords⟩ := hby
  have htext : behindVerb words predicate = x ++ byWord ++ (y ++ (byWord ++ predicate)) := by
    rw [behindVerb, ← hwords, List.append_assoc]
  have hle := h.first _ _ htext
  have hlength := congrArg List.length (h.text.symm.trans htext)
  simp only [List.length_append] at hlength
  have hsuffix : byWord ++ predicate <:+ after := by
    refine List.suffix_of_suffix_length_le (List.suffix_append _ _)
      (h.text ▸ List.suffix_append _ _) ?_
    rw [List.length_append]
    omega
  have hcount : Text.countB (byWord ++ predicate) ≤ Text.countB after :=
    hsuffix.sublist.countP_le
  rw [countB_append] at hcount
  have hone : Text.countB byWord = 1 := rfl
  omega

theorem not_by_of_countB {sections : Sections} {query : QueryName} (hverb : verb ∈ verbWords)
    (h : ReadFrom (verb ++ behindVerb words predicate) sections query)
    (hcount : Text.countB sections.predicate = Text.countB predicate) :
    ¬byWord <:+: words.flatMap Word.chars := by
  intro hby
  cases hsplit : splitFirst? byWord (behindVerb words predicate) with
  | none => exact splitFirst?_eq_none_iff.1 hsplit (hby.trans (List.prefix_append _ _).isInfix)
  | some found =>
    obtain ⟨before, after⟩ := found
    have hfirst := splitFirst?_eq_some_iff.1 hsplit
    obtain ⟨rfl, -⟩ := h.eq_of_firstAt hverb hfirst
    exact absurd hcount (countB_lt_of_firstAt hby hfirst).ne'

/-- What a query has of its name shows that no word counts in the subject: the Bs of its predicate,
that it is not distinct and that it has no limit. -/
theorem ordinary_of_same {query : QueryName} {text : String} (hverb : verb ∈ verbWords)
    (h : parse (named verb words predicate) = .ok { query with text })
    (h' : parse (named verb [] predicate) = .ok query) : Ordinary words := by
  obtain ⟨sections, hread⟩ := parse_eq_ok_iff.1 h
  obtain ⟨sections', hread'⟩ := parse_eq_ok_iff.1 h'
  rw [named, String.toList_ofList] at hread hread'
  obtain ⟨rfl, -⟩ := hread'.eq_of_firstAt hverb (firstAt_front byWord predicate)
  have hby : ¬byWord <:+: words.flatMap Word.chars :=
    not_by_of_countB hverb hread ((countB_predicate hread).trans (countB_predicate hread').symm)
  obtain ⟨rfl, -⟩ := hread.eq_of_firstAt hverb (firstAt_of_no_by fun w hw hprefix =>
    hby ((infix_words_iff (by decide)).2 ⟨w, hw, hprefix⟩))
  have hlimit := readLimit_eq_none_iff.1 (hread.limit.trans hread'.limit.symm)
  have hdistinct : ¬distinctWord <:+: words.flatMap Word.chars := by
    rw [← occurs_iff, ← hread.distinct, hread'.distinct]
    simp [occurs, splitFirst?, distinctWord]
  refine ordinary_iff_not_infix.2 fun k hk => ?_
  simp only [subjectWords, List.mem_cons, List.not_mem_nil, or_false] at hk
  rcases hk with rfl | rfl | rfl | rfl
  · exact hby
  · exact hdistinct
  · exact hlimit.1
  · exact hlimit.2

theorem askAlike_cases {a b : Except QueryError QueryName} (h : AskAlike a b) :
    ((∃ e, a = .error e) ∧ ∃ e, b = .error e) ∨
      ∃ query text, a = .ok { query with text } ∧ b = .ok query := by
  cases h with
  | refused e e' => exact Or.inl ⟨⟨e, rfl⟩, e', rfl⟩
  | same query text => exact Or.inr ⟨query, text, rfl, rfl⟩

/-- A name with words in its subject asks for what it asks for without them exactly if each of the
words is ordinary, unless the name is refused either way. -/
theorem askAlike_iff_ordinary (hverb : verb ∈ verbWords) (words : List Word)
    (predicate : List Char) :
    AskAlike (parse (named verb words predicate)) (parse (named verb [] predicate)) ↔
      Ordinary words ∨
        Refused (named verb words predicate) ∧ Refused (named verb [] predicate) := by
  constructor
  · intro h
    rcases askAlike_cases h with hrefused | ⟨query, text, hwith, hwithout⟩
    · exact Or.inr hrefused
    · exact Or.inl (ordinary_of_same hverb hwith hwithout)
  · rintro (hordinary | ⟨⟨e, he⟩, e', he'⟩)
    · have hnone : Ordinary [] := fun w hw => absurd hw List.not_mem_nil
      cases hwith : parse (named verb words predicate) with
      | ok query =>
        rw [parse_named_of_ordinary hverb hordinary hnone hwith]
        exact .same { query with text := named verb [] predicate } query.text
      | error e =>
        cases hwithout : parse (named verb [] predicate) with
        | ok query =>
          rw [parse_named_of_ordinary hverb hnone hordinary hwithout] at hwith
          cases hwith
        | error e' => exact .refused e e'
    · rw [he, he']
      exact .refused e e'

end QueryName

namespace Example

open QueryName

def topic : Phrase.Word := ⟨'T', ['o', 'p', 'i', 'c'], rfl, rfl⟩

/-- `Topic` is no limiting word, with digits or without, and yet it limits the query to one row. -/
theorem topic_limits :
    (∀ k ∈ subjectWords, ∀ digits, digits.all Text.isDigit = true → topic.chars ≠ k ++ digits) ∧
    named ['f', 'i', 'n', 'd'] [topic] "Action".toList = "findTopicByAction" ∧
    named ['f', 'i', 'n', 'd'] [] "Action".toList = "findByAction" ∧
    (∃ query query', parse "findTopicByAction" = .ok query ∧ parse "findByAction" = .ok query' ∧
      query.limit = some 1 ∧ query'.limit = none) ∧
    ¬AskAlike (parse "findTopicByAction") (parse "findByAction") := by
  have hlimit : (parse "findTopicByAction").toOption.map (·.limit) = some (some 1) := by
    decide +kernel
  have hlimit' : (parse "findByAction").toOption.map (·.limit) = some none := by decide +kernel
  obtain ⟨query, hquery, htop⟩ := Option.map_eq_some_iff.1 hlimit
  obtain ⟨query', hquery', hnone⟩ := Option.map_eq_some_iff.1 hlimit'
  have hparse := Fallible.eq_ok_of_toOption hquery
  have hparse' := Fallible.eq_ok_of_toOption hquery'
  refine ⟨fun k hk digits hdigits htopic => ?_, by decide, by decide,
    ⟨query, query', hparse, hparse', htop, hnone⟩, fun h => ?_⟩
  · -- what stands behind `Top` is `ic`
    simp only [subjectWords, List.mem_cons, List.not_mem_nil, or_false] at hk
    rcases hk with rfl | rfl | rfl | rfl
    · exact absurd (List.cons.inj htopic).1 (by decide)
    · exact absurd (List.cons.inj htopic).1 (by decide)
    · have hbehind : topWord ++ ['i', 'c'] = topWord ++ digits := htopic
      obtain rfl := List.append_cancel_left hbehind
      exact absurd hdigits (by decide)
    · exact absurd (List.cons.inj htopic).1 (by decide)
  · rw [hparse, hparse'] at h
    obtain ⟨⟨e, he⟩, -⟩ | ⟨asked, text, heq, heq'⟩ := askAlike_cases h
    · cases he
    · cases heq
      cases heq'
      rw [htop] at hnone
      cases hnone

/-- The columns of a projection, as words of a subject. -/
def projection : List Phrase.Word :=
  [⟨'I', ['d'], rfl, rfl⟩, ⟨'A', ['c', 't', 'i', 'o', 'n'], rfl, rfl⟩,
   ⟨'P', ['r', 'i', 'c', 'e'], rfl, rfl⟩]

theorem projection_asks_alike :
    ['f', 'i', 'n', 'd'] ∈ verbWords ∧ (parse "findByAction").isOk = true ∧
      AskAlike (parse "findIdActionPriceByAction") (parse "findByAction") := by
  have hnamed : named ['f', 'i', 'n', 'd'] projection "Action".toList =
      "findIdActionPriceByAction" := by decide
  have hnamed' : named ['f', 'i', 'n', 'd'] [] "Action".toList = "findByAction" := by decide
  have hverb : ['f', 'i', 'n', 'd'] ∈ verbWords := by decide
  have hordinary : Ordinary projection := by
    unfold Ordinary
    decide
  have halike := (askAlike_iff_ordinary hverb projection "Action".toList).2 (Or.inl hordinary)
  rw [hnamed, hnamed'] at halike
  exact ⟨hverb, by decide +kernel, halike⟩

end Example

end DerivedQuery
