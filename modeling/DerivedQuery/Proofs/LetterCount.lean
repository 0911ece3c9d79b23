import DerivedQuery.Proofs.Clauses
import DerivedQuery.Proofs.SortKeys

/-!
How often the letter B stands in a text, in either case. Of the words around and between the
properties of a predicate only `OrderBy` has a B, so a query shows how many its predicate had.
-/

namespace DerivedQuery.Text

def isB (c : Char) : Bool := c == 'b' || c == 'B'

def countB (s : List Char) : Nat := s.countP isB

theorem countB_append (s t : List Char) : countB (s ++ t) = countB s + countB t :=
  List.countP_append

theorem toNat_of_isB {c : Char} (h : isB c = true) : c.toNat = 0x62 ∨ c.toNat = 0x42 := by
  rcases Bool.or_eq_true_iff.1 h with hb | hb
  · exact Or.inl (congrArg Char.toNat (eq_of_beq hb))
  · exact Or.inr (congrArg Char.toNat (eq_of_beq hb))

theorem isB_of_lt {c : Char} (h : 0x62 < c.toNat) : isB c = false := by
  rw [Bool.eq_false_iff]
  intro hb
  have hc := toNat_of_isB hb
  omega

theorem isB_shiftChar {c : Char} {offset : Int} (h : 0x62 < c.toNat + offset) :
    isB (shiftChar c offset) = false := by
  rw [Bool.eq_false_iff]
  intro hb
  have hc := toNat_of_isB hb
  have hshift : (shiftChar c offset).toNat = (c.toNat + offset).toNat :=
    toNat_ofNat_of_ne_zero (by rw [← shiftChar]; omega)
  omega

theorem countB_lower (c : Char) : countB (lower c) = countB [c] := by
  by_cases hascii : c.toNat < 0x80
  · have hlower : ∀ n < 0x80, countB (lower (Char.ofNat n)) = countB [Char.ofNat n] := by
      decide +kernel
    rw [← Char.ofNat_toNat c]
    exact hlower c.toNat hascii
  · -- beyond ASCII no lower-case form is a B
    have hc : isB c = false := isB_of_lt (by omega)
    rw [lower, if_neg hascii]
    have hnone : countB [c] = 0 := by simp [countB, hc]
    rw [hnone]
    split
    · rfl
    · split
      · next span offset hfind =>
        have hcontains := List.find?_some hfind
        have hshift : 0x62 < (span.first : Int) + offset :=
          lt_of_mem_lowerShifts (List.mem_of_find?_eq_some hfind)
        simp only [Span.contains, Bool.and_eq_true, decide_eq_true_eq] at hcontains
        have hb : isB (shiftChar c offset) = false := isB_shiftChar (by omega)
        simp [countB, hb]
      · exact hnone

theorem countB_uncapitalize (s : List Char) : countB (uncapitalize s) = countB s := by
  cases s with
  | nil => rfl
  | cons c s =>
    rw [uncapitalize, countB_append, countB_lower, ← countB_append]
    rfl

theorem countB_intercalate {word : List Char} (h : countB word = 0) (parts : List (List Char)) :
    countB (word.intercalate parts) = countB parts.flatten := by
  induction parts with
  | nil => rfl
  | cons p ps ih =>
    cases ps with
    | nil => simp
    | cons q qs =>
      rw [List.intercalate_cons_cons, List.flatten_cons, countB_append, countB_append, h, ih,
        countB_append, Nat.add_zero]

theorem countB_flatMap {α : Type} {f g : α → List Char} (h : ∀ a, countB (f a) = countB (g a))
    (l : List α) : countB (l.flatMap f) = countB (l.flatMap g) := by
  induction l with
  | nil => rfl
  | cons a l ih => rw [List.flatMap_cons, List.flatMap_cons, countB_append, countB_append, h, ih]

/-- A path has the letters of the property that it was read from. -/
theorem countB_dotted (sep : Char) (s : List Char) (h : isB sep = false) :
    countB (".".intercalate
      ((fields sep s).map fun f => String.ofList (uncapitalize f))).toList = countB s := by
  have hsep : countB [sep] = 0 := by simp [countB, h]
  calc countB (".".intercalate ((fields sep s).map fun f => String.ofList (uncapitalize f))).toList
      = countB ((fields sep s).flatMap uncapitalize) := by
        rw [String.toList_intercalate, countB_intercalate rfl, List.map_map]
        simp only [Function.comp_def, String.toList_ofList, List.flatMap]
    _ = countB ((fields sep s).flatMap id) := countB_flatMap countB_uncapitalize _
    _ = countB (fields sep s).flatten := by rw [List.flatMap_id]
    _ = countB ([sep].intercalate (fields sep s)) := (countB_intercalate hsep _).symm
    _ = countB s := by rw [intercalate_fields]

end DerivedQuery.Text

namespace DerivedQuery.QueryName

open Text

/-- The Bs of the predicate that a query was read from. -/
def countB (query : QueryName) : Nat :=
  Text.countB query.joinedClauses.toList +
    if query.orderBy.keys = [] then 0
    else 1 + Text.countB (query.orderBy.keys.flatMap fun key => key.property.toList)

theorem countB_keyChars (key : List Char × Option Direction) :
    Text.countB (keyChars key) = Text.countB (orderedBy key).property.toList := by
  have hdirection : Text.countB ((key.2.map Phrase.directionChars).getD []) = 0 := by
    rcases key.2 with - | (- | -) <;> rfl
  rw [keyChars, countB_append, hdirection, orderedBy, countB_dotted _ _ rfl, Nat.add_zero]

theorem countB_readOrdering {text : List Char} {orderBy : OrderBy} (hne : text ≠ [])
    (h : readOrdering text = .ok orderBy) :
    Text.countB text = Text.countB (orderBy.keys.flatMap fun key => key.property.toList) := by
  obtain ⟨-, rfl⟩ := (readOrdering_eq_ok_iff hne).1 h
  calc Text.countB text = Text.countB ((cutKeys text).flatMap keyChars) := by
        rw [(keys_cutKeys text).flatMap_keyChars]
    _ = Text.countB ((cutKeys text).flatMap fun key => (orderedBy key).property.toList) :=
        countB_flatMap countB_keyChars _
    _ = _ := by rw [List.flatMap_map]

theorem countB_withoutFoldAll {front text : List Char} (h : WithoutFoldAll front text) :
    Text.countB text = Text.countB front := by
  cases h with
  | @ended _ ending mem =>
    have hending : ∀ ending ∈ foldAllEndings, Text.countB ending = 0 := by decide
    rw [countB_append, hending ending mem, Nat.add_zero]
  | plain => rfl

theorem countB_predicate {name : List Char} {sections : Sections} {query : QueryName}
    (h : ReadFrom name sections query) : Text.countB sections.predicate = query.countB := by
  obtain ⟨front, hfront, htext⟩ := h.front
  rw [countB, countB_withoutFoldAll htext]
  rcases h.ordering with ⟨habsent, horderBy⟩ | ⟨before, after, hfirst, hne, hread⟩
  · rw [hfront.eq_of_absent habsent, horderBy]
    rfl
  · rw [hfront.eq_of_firstAt hfirst, if_neg (keys_ne_nil_of_readOrdering hne hread),
      ← countB_readOrdering hne hread, hfirst.text, countB_append, countB_append, Nat.add_assoc]
    rfl

end DerivedQuery.QueryName
