import DerivedQuery.Proofs.Phrase
import DerivedQuery.Proofs.Pieces
import DerivedQuery.Proofs.Readable

/-!
The keys of an ordering. Each property is the shortest text that a direction ends, so a direction
inside a property leaves the property whole; the last property may go without a direction.
-/

namespace DerivedQuery.QueryName

open Text
open Phrase (directionChars)

/-- A direction stands behind this property of `s`, before an upper-case character or at the end. -/
structure EndsProperty (s property : List Char) (direction : Direction) (rest : List Char) :
    Prop where
  ne_nil : property ≠ []
  text : s = property ++ (directionChars direction ++ rest)
  boundary : ∀ c ∈ rest.head?, isUpper c = true

/-- The properties of an ordering and the directions behind them, up to the end of its text. -/
inductive Keys : List Char → List (List Char × Option Direction) → Prop
  | done : Keys [] []
  | undirected {s : List Char} (ne_nil : s ≠ [])
    (whole : ∀ property direction rest, ¬EndsProperty s property direction rest) :
    Keys s [(s, none)]
  | directed {s property rest : List Char} {direction : Direction}
    {keys : List (List Char × Option Direction)} (ends : EndsProperty s property direction rest)
    (shortest : ∀ property' direction' rest', EndsProperty s property' direction' rest' →
      property.length ≤ property'.length)
    (others : Keys rest keys) : Keys s ((property, some direction) :: keys)

/-- What the reader cuts an ordering into. -/
def cutKeys (s : List Char) : List (List Char × Option Direction) :=
  (directionWord.split s).map fun part => (part.1, part.2.map (·.2))

def keyChars (key : List Char × Option Direction) : List Char :=
  key.1 ++ (key.2.map directionChars).getD []

/-- The key that orders by the path of a property, upwards where no direction is given. -/
def orderedBy (key : List Char × Option Direction) : SortKey :=
  { property := ".".intercalate ((fields '_' key.1).map fun s => String.ofList (uncapitalize s))
    direction := key.2.getD .asc }

variable {s property rest : List Char} {direction : Direction}
  {keys keys' : List (List Char × Option Direction)}

theorem mem_words_directionWord {w : List Char × Direction} :
    w ∈ directionWord.words ↔ w = (directionChars w.2, w.2) := by
  obtain ⟨word, direction⟩ := w
  cases direction <;> simp [directionWord, directionChars]

theorem follows_directionWord :
    directionWord.follows rest = true ↔ ∀ c ∈ rest.head?, isUpper c = true := by
  cases rest <;> simp [directionWord, startsUpper]

theorem ends_directionWord_iff {w : List Char × Direction} :
    directionWord.Ends s property w rest ↔
      w = (directionChars w.2, w.2) ∧ EndsProperty s property w.2 rest := by
  constructor
  · rintro ⟨hne, hw, hs, hfollows⟩
    rw [mem_words_directionWord] at hw
    exact ⟨hw, hne, by rw [hs, hw], follows_directionWord.1 hfollows⟩
  · rintro ⟨hw, hne, hs, hboundary⟩
    refine ⟨hne, mem_words_directionWord.2 hw, ?_, follows_directionWord.2 hboundary⟩
    rw [hs, hw]

theorem EndsProperty.ends (h : EndsProperty s property direction rest) :
    directionWord.Ends s property (directionChars direction, direction) rest :=
  ends_directionWord_iff.2 ⟨rfl, h⟩

theorem keys_cutKeys (s : List Char) : Keys s (cutKeys s) := by
  rw [cutKeys]
  fun_induction Delimiter.split directionWord s with
  | case1 => exact .done
  | case2 s hne hcut =>
    have hwhole := Delimiter.cut?_eq_none_iff.1 hcut
    exact .undirected hne fun _ _ _ hends => hwhole _ _ _ hends.ends
  | case3 s hne property w rest hcut ih =>
    have hends := (ends_directionWord_iff.1 (Delimiter.ends_of_cut? hcut)).2
    exact .directed hends (fun _ _ _ hends' => Delimiter.length_le_of_cut? hcut hends'.ends) ih

theorem directionChars_append_inj {direction' : Direction} {rest' : List Char}
    (h : directionChars direction ++ rest = directionChars direction' ++ rest') :
    direction = direction' ∧ rest = rest' := by
  cases direction <;> cases direction' <;> simp_all [directionChars]

theorem Keys.unique (h : Keys s keys) (h' : Keys s keys') : keys = keys' := by
  induction h generalizing keys' with
  | done =>
    cases h' with
    | done => rfl
    | undirected hne => exact absurd rfl hne
    | directed ends => exact absurd (List.append_eq_nil_iff.1 ends.text.symm).1 ends.ne_nil
  | undirected hne hwhole =>
    cases h' with
    | done => exact absurd rfl hne
    | undirected => rfl
    | directed ends => exact absurd ends (hwhole _ _ _)
  | @directed s property rest direction keys ends shortest others ih =>
    cases h' with
    | done => exact absurd (List.append_eq_nil_iff.1 ends.text.symm).1 ends.ne_nil
    | undirected _ hwhole => exact absurd ends (hwhole _ _ _)
    | @directed _ property' rest' direction' keys' ends' shortest' others' =>
      have hlength : property.length = property'.length :=
        Nat.le_antisymm (shortest _ _ _ ends') (shortest' _ _ _ ends)
      obtain ⟨rfl, hdirections⟩ := List.append_inj (ends.text.symm.trans ends'.text) hlength
      obtain ⟨rfl, rfl⟩ := directionChars_append_inj hdirections
      rw [ih others']

theorem Keys.flatMap_keyChars (h : Keys s keys) : keys.flatMap keyChars = s := by
  induction h with
  | done => rfl
  | undirected => simp [keyChars]
  | directed ends shortest others ih =>
    rw [List.flatMap_cons, ih, ends.text, keyChars, List.append_assoc]
    rfl

theorem Keys.ne_nil (h : Keys s keys) (hs : s ≠ []) : keys ≠ [] := by
  rintro rfl
  exact hs h.flatMap_keyChars.symm

theorem sortKey_eq_ok_iff {text : List Char} {part : List Char × Option (List Char × Direction)}
    {key : SortKey} :
    sortKey text part = .ok key ↔
      Segmented part.1 ∧ key = orderedBy (part.1, part.2.map (·.2)) := by
  rw [sortKey]
  cases hpath : path? part.1 with
  | none => simp [path?_eq_none_iff.1 hpath]
  | some path =>
    have hsegmented : Segmented part.1 := by
      by_contra hempty
      rw [path?_eq_none_iff.2 hempty] at hpath
      cases hpath
    have hdotted : path.dotted = (orderedBy (part.1, part.2.map (·.2))).property := by
      rw [path?] at hpath
      split at hpath
      · cases hpath
      · cases hpath
        rfl
    simp only [hsegmented, hdotted, Except.ok.injEq, true_and, eq_comm]
    rfl

theorem readOrdering_eq_ok_iff {text : List Char} {orderBy : OrderBy} (hne : text ≠ []) :
    readOrdering text = .ok orderBy ↔
      (∀ key ∈ cutKeys text, Segmented key.1) ∧ orderBy = ⟨(cutKeys text).map orderedBy⟩ := by
  rw [readOrdering, if_neg hne, Fallible.bind_eq_ok_iff]
  simp only [Fallible.mapM_eq_ok_iff_map fun _ _ => sortKey_eq_ok_iff, cutKeys, List.map_map,
    List.forall_mem_map]
  constructor
  · rintro ⟨keys, ⟨hsegmented, rfl⟩, hpure⟩
    cases hpure
    exact ⟨hsegmented, rfl⟩
  · rintro ⟨hsegmented, rfl⟩
    exact ⟨_, ⟨hsegmented, rfl⟩, rfl⟩

theorem keys_ne_nil_of_readOrdering {text : List Char} {orderBy : OrderBy} (hne : text ≠ [])
    (h : readOrdering text = .ok orderBy) : orderBy.keys ≠ [] := by
  obtain ⟨-, rfl⟩ := (readOrdering_eq_ok_iff hne).1 h
  simpa using (keys_cutKeys text).ne_nil hne

/-- A query orders by what stands behind the first `OrderBy` of its predicate. -/
theorem ReadFrom.ordering {name : List Char} {sections : Sections} {query : QueryName}
    (h : ReadFrom name sections query) :
    (¬orderByWord <:+: sections.predicate ∧ query.orderBy = {}) ∨
      ∃ before after, FirstAt orderByWord sections.predicate before after ∧ after ≠ [] ∧
        readOrdering after = .ok query.orderBy := by
  have horderBy := h.orderBy
  rw [splitOrdering] at horderBy
  cases hsplit : splitFirst? orderByWord sections.predicate with
  | none =>
    rw [hsplit] at horderBy
    exact Or.inl ⟨splitFirst?_eq_none_iff.1 hsplit, (Except.ok.inj horderBy).symm⟩
  | some found =>
    obtain ⟨before, after⟩ := found
    rw [hsplit] at horderBy
    refine Or.inr ⟨before, after, splitFirst?_eq_some_iff.1 hsplit, ?_, horderBy⟩
    exact (exists_readOrdering_iff.1 ⟨_, horderBy⟩).1

/-- An ordering is read key by key: its text is that of its keys in order, and each is the key of
the rest that it begins. It is refused only for a property with an empty segment. -/
theorem readOrdering_reads_keys (text : List Char) (hne : text ≠ []) :
    ∃ keys, keys ≠ [] ∧ (∀ keys', Keys text keys' ↔ keys' = keys) ∧
      keys.flatMap keyChars = text ∧
      ∀ orderBy, readOrdering text = .ok orderBy ↔
        (∀ key ∈ keys, Segmented key.1) ∧ orderBy = ⟨keys.map orderedBy⟩ := by
  have hkeys := keys_cutKeys text
  refine ⟨cutKeys text, hkeys.ne_nil hne, fun keys' => ⟨fun h => h.unique hkeys, ?_⟩,
    hkeys.flatMap_keyChars, fun orderBy => readOrdering_eq_ok_iff hne⟩
  rintro rfl
  exact hkeys

end DerivedQuery.QueryName

namespace DerivedQuery.Example

open QueryName

def describedKeys : List (List Char × Option Direction) :=
  [("Description".toList, some .desc), ("Asc".toList, some .asc), ("Price".toList, none)]

/-- `Desc` ends the first property behind `Description`, and an `Asc` in front ends none. -/
theorem readOrdering_reads_described_keys :
    "DescriptionDescAscAscPrice".toList ≠ [] ∧
      Keys "DescriptionDescAscAscPrice".toList describedKeys ∧
      readOrdering "DescriptionDescAscAscPrice".toList = .ok
        ⟨[⟨"description", .desc, false⟩, ⟨"asc", .asc, false⟩, ⟨"price", .asc, false⟩]⟩ := by
  have hne : "DescriptionDescAscAscPrice".toList ≠ [] := by decide
  have hcut : cutKeys "DescriptionDescAscAscPrice".toList = describedKeys := by decide +kernel
  obtain ⟨keys, -, hkeys, -, hread⟩ := readOrdering_reads_keys _ hne
  obtain rfl : describedKeys = keys := (hkeys _).1 (hcut ▸ keys_cutKeys _)
  have hsegmented : ∀ key ∈ describedKeys, [] ∉ Text.fields '_' key.1 := by decide +kernel
  exact ⟨hne, (hkeys _).2 rfl, (hread _).2 ⟨hsegmented, by decide +kernel⟩⟩

end DerivedQuery.Example
