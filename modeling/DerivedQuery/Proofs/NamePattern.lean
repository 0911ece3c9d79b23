import DerivedQuery.QueryName.Reader

/-!
What the patterns of a name find. A shortest subject ends where the first `By` stands, since what
follows on the same line always fits; so the two patterns cut a name at its first `By`.
-/

namespace DerivedQuery.Text

@[simp] theorem taken_append (s rest : List Char) : taken (s ++ rest) rest = s := by
  simp [taken]

@[simp] theorem taken_nil (s : List Char) : taken s [] = s := by
  simp [taken]

namespace Pattern

variable {β : Type} {test : Char → Bool}

/-- A greedy repetition reaches the end of the text, or the end is out of its reach. -/
theorem searchMany_greedy (k : List Char → Option β) (s : List Char) :
    searchMany true test (fun rest => if rest = [] then k rest else none) s =
      if s.all test then k [] else none := by
  induction s with
  | nil => simp [searchMany]
  | cons c s ih => by_cases hc : test c <;> simp [searchMany, hc, ih]

/-- A lazy repetition before a word ends where the word first stands, if all that follows it passes
the test as well. -/
theorem searchMany_lazy {w : List Char} (hne : w ≠ []) (hw : w.all test = true)
    (f : List Char → List Char → β) (s : List Char) :
    searchMany false test (fun rest => (dropInitial? w rest).bind fun after =>
        if after.all test then some (f rest after) else none) s =
      if s.all test then (splitFirst? w s).map fun found => f (w ++ found.2) found.2 else none := by
  induction s with
  | nil =>
    have hnil : dropInitial? w [] = none := by
      rw [Option.eq_none_iff_forall_ne_some]
      intro rest hrest
      exact hne (List.append_eq_nil_iff.1 (dropInitial?_eq_some.1 hrest).symm).1
    simp [searchMany, hnil, splitFirst?, hne]
  | cons c s ih =>
    rw [splitFirst?]
    cases hhere : dropInitial? w (c :: s) with
    | some after =>
      have htext : c :: s = w ++ after := dropInitial?_eq_some.1 hhere
      have hall : after.all test = (test c && s.all test) := by
        rw [← List.all_cons, htext, List.all_append, hw, Bool.true_and]
      cases hc : test c <;> cases hs : s.all test <;>
        simp [searchMany, ih, hhere, hall, hc, hs, ← htext, -List.all_eq_true]
    | none =>
      cases hc : test c <;> cases hs : s.all test <;>
        simp [searchMany, ih, hhere, hc, hs, Function.comp_def, -List.all_eq_true]

/-- Where one of the words stands, and no other one does, the search goes on behind it. -/
theorem search_oneOf {words : List (List Char)} {w rest : List Char} (hw : w ∈ words)
    (hone : ∀ v ∈ words, v <+: w ++ rest → v = w) (groups : Groups)
    (k : List Char → Groups → Option β) :
    (oneOf words).search (w ++ rest) groups k = k rest groups := by
  have htried : ∀ v ∈ words, ∀ b, (dropInitial? v (w ++ rest)).bind (k · groups) = some b →
      k rest groups = some b := by
    intro v hv b hb
    obtain ⟨after, hafter, hk⟩ := Option.bind_eq_some_iff.1 hb
    have htext := dropInitial?_eq_some.1 hafter
    obtain rfl := hone v hv ⟨after, htext.symm⟩
    rw [List.append_cancel_left htext, hk]
  rw [search]
  cases hfound : words.findSome? fun v => (dropInitial? v (w ++ rest)).bind (k · groups) with
  | none =>
    have hhere := List.findSome?_eq_none_iff.1 hfound w hw
    rw [dropInitial?_eq_some.2 rfl, Option.bind_some] at hhere
    exact hhere.symm
  | some b =>
    obtain ⟨v, hv, hb⟩ := List.exists_of_findSome?_eq_some hfound
    exact (htried v hv b hb).symm

theorem search_oneOf_eq_none {words : List (List Char)} {s : List Char}
    (h : ∀ w ∈ words, ¬w <+: s) (groups : Groups) (k : List Char → Groups → Option β) :
    (oneOf words).search s groups k = none := by
  rw [search, List.findSome?_eq_none_iff]
  intro w hw
  rw [Option.bind_eq_none_iff]
  intro rest hrest
  exact absurd ⟨rest, (dropInitial?_eq_some.1 hrest).symm⟩ (h w hw)

end Pattern

end DerivedQuery.Text

namespace DerivedQuery.QueryName

open Text

variable {β : Type} {word rest : List Char}

theorem eq_of_verbWords : ∀ v ∈ verbWords, ∀ w ∈ verbWords, v <+: w → v = w := by
  decide

/-- At most one verb stands in front of a name. -/
theorem verbWords_unique (hword : word ∈ verbWords) :
    ∀ v ∈ verbWords, v <+: word ++ rest → v = word := by
  intro v hv hfront
  rcases List.prefix_or_prefix_of_prefix hfront (List.prefix_append word rest) with h | h
  · exact eq_of_verbWords v hv word hword h
  · exact (eq_of_verbWords word hword v hv h).symm

theorem search_verbPart (hword : word ∈ verbWords) (rest : List Char) (groups : Groups)
    (k : List Char → Groups → Option β) :
    verbPart.search (word ++ rest) groups k = k rest ⟨(1, word) :: groups.texts⟩ := by
  rw [verbPart, Pattern.search, Pattern.search_oneOf hword (verbWords_unique hword), taken_append]

theorem search_predicatePart (s : List Char) (groups : Groups)
    (k : List Char → Groups → Option β) :
    predicatePart.search s groups k =
      (dropInitial? byWord s).bind fun after =>
        if after.all inLine then k [] ⟨(3, after) :: groups.texts⟩ else none := by
  have hline : ∀ after,
      Pattern.search (.seq (.group 3 (.many true inLine)) .textEnd) after groups k =
        if after.all inLine then k [] ⟨(3, after) :: groups.texts⟩ else none := by
    intro after
    simp only [Pattern.search]
    rw [Pattern.searchMany_greedy fun rest => k rest ⟨(3, taken after rest) :: groups.texts⟩,
      taken_nil]
  rw [predicatePart, Pattern.search, Pattern.search, List.findSome?_singleton]
  simp only [hline]

/-- The group of a subject that takes part. -/
def subjectGroup (subject : List Char) : List (Nat × List Char) :=
  if subject = [] then [] else [(2, subject)]

theorem inLine_of_isUpperLetter {c : Char} (h : isUpperLetter c = true) : inLine c = true := by
  rw [inLine, decide_eq_true_iff]
  rintro rfl
  cases h

/-- The shortest rest of a subject before a predicate reaches to the first `By`. -/
theorem searchMany_subject (c : Char) (s : List Char) (texts : List (Nat × List Char)) :
    Pattern.searchMany false inLine (fun rest =>
        predicatePart.search rest ⟨(2, taken (c :: s) rest) :: texts⟩ fun _ groups =>
          some groups) s =
      if s.all inLine then
        (splitFirst? byWord s).map fun found => ⟨(3, found.2) :: (2, c :: found.1) :: texts⟩
      else none := by
  simp only [search_predicatePart]
  refine (Pattern.searchMany_lazy (by decide) (by decide)
    (fun before after => (⟨(3, after) :: (2, taken (c :: s) before) :: texts⟩ : Groups)) s).trans ?_
  congr 1
  refine Option.map_congr fun found hfound => ?_
  have htext : c :: s = (c :: found.1) ++ (byWord ++ found.2) := by
    rw [splitFirst?_eq_some hfound, List.cons_append, List.append_assoc]
  rw [htext, taken_append]

theorem atFront?_nameWithPredicate (hword : word ∈ verbWords) (rest : List Char) :
    nameWithPredicate.atFront? (word ++ rest) =
      if rest.all inLine && rest.head?.all isUpperLetter then
        (splitFirst? byWord rest).map fun found =>
          ⟨(3, found.2) :: (subjectGroup found.1 ++ [(1, word)])⟩
      else none := by
  rw [Pattern.atFront?, nameWithPredicate, Pattern.search, search_verbPart hword, Pattern.search,
    subjectPart]
  simp only [Pattern.search, Bool.false_eq_true, if_false]
  cases rest with
  | nil => rfl
  | cons c s =>
    simp only [searchMany_subject]
    rw [search_predicatePart, splitFirst?]
    cases hhere : dropInitial? byWord (c :: s) with
    | some after =>
      -- the subject is empty, which the pattern tries first
      have htext : c :: s = byWord ++ after := dropInitial?_eq_some.1 hhere
      obtain ⟨rfl, hs⟩ := List.cons.inj htext
      have hB : isUpperLetter 'B' = true := rfl
      have hall : s.all inLine = after.all inLine := by rw [hs]; rfl
      cases hafter : after.all inLine <;>
        simp [hall, hafter, hB, inLine_of_isUpperLetter, subjectGroup, -List.all_eq_true]
    | none =>
      cases hc : isUpperLetter c <;> cases hs : s.all inLine <;>
        simp [hs, hc, inLine_of_isUpperLetter, subjectGroup, Function.comp_def, -List.all_eq_true]

theorem atFront?_nameWithoutPredicate (hword : word ∈ verbWords) (rest : List Char) :
    nameWithoutPredicate.atFront? (word ++ rest) =
      if rest.all inLine && rest.head?.all isUpperLetter then
        some ⟨subjectGroup rest ++ [(1, word)]⟩
      else none := by
  rw [Pattern.atFront?, nameWithoutPredicate, Pattern.search, search_verbPart hword,
    Pattern.search, subjectPart]
  simp only [Pattern.search, if_true]
  cases rest with
  | nil => rfl
  | cons c s =>
    simp only [Pattern.searchMany_greedy fun rest =>
      some (⟨[(2, taken (c :: s) rest), (1, word)]⟩ : Groups)]
    cases hc : isUpperLetter c <;> cases hs : s.all inLine <;>
      simp [hc, hs, inLine_of_isUpperLetter, subjectGroup, -List.all_eq_true]

/-- A name is cut at the first `By` after its verb. -/
theorem sections?_append (hword : word ∈ verbWords) (rest : List Char) :
    sections? (word ++ rest) =
      if rest.all inLine && rest.head?.all isUpperLetter then
        match splitFirst? byWord rest with
        | some (subject, predicate) => some ⟨word, subject, predicate⟩
        | none => some ⟨word, rest, []⟩
      else none := by
  rw [sections?, atFront?_nameWithPredicate hword, atFront?_nameWithoutPredicate hword]
  cases rest.all inLine && rest.head?.all isUpperLetter with
  | false => rfl
  | true =>
    cases splitFirst? byWord rest with
    | some found =>
      obtain ⟨subject, predicate⟩ := found
      cases subject <;> rfl
    | none => cases rest <;> rfl

example : sections? "findByPriceByAction".toList =
    some ⟨"find".toList, [], "PriceByAction".toList⟩ := by
  rfl

theorem sections?_eq_none {name : List Char} (h : ∀ word ∈ verbWords, ¬word <+: name) :
    sections? name = none := by
  have hverb : ∀ groups (k : List Char → Groups → Option Groups),
      verbPart.search name groups k = none := by
    intro groups k
    rw [verbPart, Pattern.search, Pattern.search_oneOf_eq_none h]
  rw [sections?, Pattern.atFront?, nameWithPredicate, Pattern.search, hverb, Pattern.atFront?,
    nameWithoutPredicate, Pattern.search, hverb]

end DerivedQuery.QueryName
