import Mathlib.Data.List.Forall2
import DerivedQuery.Operator
import DerivedQuery.Proofs.Numeral

/-!
The references of a statement as a reader of its text finds them. What a text refers to is stated
for every text that may follow, so the parts of a statement can be put together.
-/

namespace DerivedQuery.Sql

/-- The digits after each `@tag` of a text, from left to right. -/
def references : List Char → List (List Char)
  | [] => []
  | c :: s =>
    match Text.dropInitial? ['@', 't', 'a', 'g'] (c :: s) with
    | some rest => (Text.spanDigits rest).1 :: references s
    | none => references s

theorem references_append_of_notMem {s : List Char} (h : '@' ∉ s) (t : List Char) :
    references (s ++ t) = references t := by
  induction s with
  | nil => rfl
  | cons c s ih =>
    obtain ⟨hc, hs⟩ := not_or.1 (List.mem_cons.not.1 h)
    simp only [List.cons_append, references, Text.dropInitial?, hc, if_false]
    exact ih hs

theorem references_reference_append (n : Nat) {t : List Char} (ht : Text.EndsNumeral t) :
    references ((reference n).toList ++ t) = Text.numeral n :: references t := by
  have hnumeral : '@' ∉ ['t', 'a', 'g'] ++ Text.numeral n := by
    intro h
    rcases List.mem_append.1 h with h | h
    · simp at h
    · exact Text.notMem_numeral (by decide) n h
  have hdrop : Text.dropInitial? ['@', 't', 'a', 'g'] ((reference n).toList ++ t) =
      some (Text.numeral n ++ t) := by
    rw [Text.dropInitial?_eq_some, toList_reference, List.append_assoc]
  have hcons : (reference n).toList ++ t = '@' :: (['t', 'a', 'g'] ++ Text.numeral n ++ t) := by
    rw [toList_reference]
    rfl
  rw [hcons] at hdrop ⊢
  rw [references, hdrop]
  simp only [Text.spanDigits_numeral_append n ht, references_append_of_notMem hnumeral]

/-- A text without any at sign; it refers to nothing. -/
def Plain (s : String) : Prop := '@' ∉ s.toList

instance (s : String) : Decidable (Plain s) := inferInstanceAs (Decidable ('@' ∉ s.toList))

/-- A plain text that ends a numeral before it. -/
def IsMark (s : String) : Prop := Plain s ∧ Text.EndsNumeral s.toList ∧ s.toList ≠ []

instance (s : String) : Decidable (IsMark s) :=
  inferInstanceAs (Decidable (Plain s ∧ Text.EndsNumeral s.toList ∧ s.toList ≠ []))

/-- A text refers to these tags in order, and what follows it does not change them. -/
def RefersTo (s : String) (tags : List Nat) : Prop :=
  ∀ t, Text.EndsNumeral t → references (s.toList ++ t) = tags.map Text.numeral ++ references t

theorem Plain.append {s t : String} (hs : Plain s) (ht : Plain t) : Plain (s ++ t) := by
  simpa [Plain] using ⟨hs, ht⟩

theorem plain_toString (n : Nat) : Plain (toString n) := by
  have hn : '@' ∉ Text.numeral n := Text.notMem_numeral (by decide) n
  simpa [Plain, Text.numeral] using hn

theorem plain_intercalate {sep : String} {texts : List String} (hsep : Plain sep)
    (h : ∀ s ∈ texts, Plain s) : Plain (sep.intercalate texts) := by
  induction texts with
  | nil => simp [Plain]
  | cons s texts ih =>
    obtain ⟨hs, hrest⟩ := List.forall_mem_cons.1 h
    cases texts with
    | nil => simpa using hs
    | cons s' texts =>
      rw [String.intercalate_cons_cons]
      exact (hs.append hsep).append (ih hrest)

variable {s t sep : String} {tags tags' : List Nat}

theorem RefersTo.references_eq (h : RefersTo s tags) :
    references s.toList = tags.map Text.numeral := by
  simpa [references] using h [] Text.endsNumeral_nil

theorem refersTo_reference (n : Nat) : RefersTo (reference n) [n] :=
  fun _ ht => references_reference_append n ht

theorem Plain.refersTo (h : Plain s) : RefersTo s [] :=
  fun t _ => references_append_of_notMem h t

theorem RefersTo.append (hs : RefersTo s tags) (ht : RefersTo t tags')
    (hend : Text.EndsNumeral t.toList) : RefersTo (s ++ t) (tags ++ tags') := by
  intro u hu
  rw [String.toList_append, List.append_assoc, hs _ (hend.append hu), ht u hu, List.map_append,
    List.append_assoc]

/-- After a mark anything may stand. -/
theorem IsMark.endsNumeral_append (hs : IsMark s) (t : String) :
    Text.EndsNumeral (s ++ t).toList := by
  rw [String.toList_append]
  exact hs.2.1.append_of_ne_nil hs.2.2 _

theorem RefersTo.append_mark (hs : RefersTo s tags) (ht : IsMark t) : RefersTo (s ++ t) tags := by
  simpa using hs.append ht.1.refersTo ht.2.1

/-- A plain text may stand before any other one, whatever that begins with. -/
theorem RefersTo.plain_append (ht : RefersTo t tags) (hs : Plain s) : RefersTo (s ++ t) tags := by
  intro u hu
  rw [String.toList_append, List.append_assoc, references_append_of_notMem hs, ht u hu]

theorem refersTo_intercalate (hsep : IsMark sep) {texts : List String}
    {tagLists : List (List Nat)} (h : List.Forall₂ RefersTo texts tagLists) :
    RefersTo (sep.intercalate texts) tagLists.flatten := by
  induction h with
  | nil => exact Plain.refersTo (by simp [Plain])
  | @cons s tags texts tagLists hs hrest ih =>
    cases hrest with
    | nil => simpa using hs
    | cons hs' hrest =>
      rw [String.intercalate_cons_cons, String.append_assoc, List.flatten_cons]
      exact hs.append (ih.plain_append hsep.1) (hsep.endsNumeral_append _)

theorem refersTo_group {texts : List String} {tagLists : List (List Nat)}
    (h : List.Forall₂ RefersTo texts tagLists) : RefersTo (group texts) tagLists.flatten := by
  have hjoined := refersTo_intercalate (by decide : IsMark " AND ") h
  exact (hjoined.plain_append (by decide)).append_mark (by decide)

theorem refersTo_condition {groups : List (List String)} {tagLists : List (List (List Nat))}
    (h : List.Forall₂ (List.Forall₂ RefersTo) groups tagLists) :
    RefersTo (condition groups) tagLists.flatten.flatten := by
  have hgroups : List.Forall₂ RefersTo (groups.map group) (tagLists.map List.flatten) := by
    rw [List.forall₂_map_left_iff, List.forall₂_map_right_iff]
    exact h.imp fun _ _ => refersTo_group
  rw [List.flatten_flatten]
  exact refersTo_intercalate (by decide) hgroups

theorem plain_lower (h : Plain s) : Plain (lower s) :=
  (Plain.append (by decide) h).append (by decide)

theorem refersTo_lower (h : RefersTo s tags) : RefersTo (lower s) tags :=
  (h.plain_append (by decide)).append_mark (by decide)

/-- A comparison shows its parameter exactly if its operator compares with a value. -/
theorem refersTo_comparison {op : Operator} {column parameter text : String}
    (hcolumn : Plain column) (hparameter : RefersTo parameter tags)
    (h : op.comparison? column parameter = some text) :
    RefersTo text (if 0 < op.arity then tags else []) := by
  have hafter : ∀ mark, Plain mark → RefersTo (column ++ mark ++ parameter) tags :=
    fun mark hmark => hparameter.plain_append (hcolumn.append hmark)
  have hwithin : ∀ mark, Plain mark → RefersTo (column ++ mark ++ parameter ++ ")") tags :=
    fun mark hmark => (hafter mark hmark).append_mark (by decide)
  have halone : ∀ mark, Plain mark → RefersTo (column ++ mark) [] :=
    fun mark hmark => (hcolumn.append hmark).refersTo
  have hregex : RefersTo ("REGEXP_CONTAINS(" ++ column ++ "," ++ parameter ++ ")") tags :=
    (hparameter.plain_append ((Plain.append (by decide) hcolumn).append (by decide))).append_mark
      (by decide)
  cases op <;> cases h
  case isNotNull | isNull | isTrue | isFalse => exact halone _ (by decide)
  case isIn | notIn => exact hwithin _ (by decide)
  case regex => exact hregex
  all_goals exact hafter _ (by decide)

theorem RefersTo.append_clause (hs : RefersTo s tags) {keyword : String}
    (hkeyword : IsMark keyword) {body : Option String} (h : ∀ b ∈ body, Plain b) :
    RefersTo (s ++ clause keyword body) tags := by
  cases body with
  | none => simpa [clause] using hs
  | some body =>
    have hbody : Plain (keyword ++ body) := hkeyword.1.append (h body rfl)
    simpa [clause] using hs.append hbody.refersTo (hkeyword.endsNumeral_append body)

/-- Only the condition of a selection refers to tags. -/
theorem Select.refersTo_text {s : Select} (hcolumns : ∀ c ∈ s.columns, Plain c)
    (htable : Plain s.table) (hcondition : RefersTo (clause " WHERE " s.condition) tags)
    (horder : ∀ k ∈ s.orderBy, Plain k) : RefersTo s.text tags := by
  have hdistinct : Plain (if s.distinct then "DISTINCT " else "") := by split <;> decide
  have hhead : Plain ("SELECT " ++ (if s.distinct then "DISTINCT " else "") ++
      ", ".intercalate s.columns ++ " FROM " ++ s.table) :=
    (((Plain.append (by decide) hdistinct).append (plain_intercalate (by decide) hcolumns)).append
      (by decide)).append htable
  have hkeys : ∀ b ∈ if s.orderBy.isEmpty then none else some (" , ".intercalate s.orderBy),
      Plain b := by
    intro b hb
    split at hb
    · cases hb
    · cases hb
      exact plain_intercalate (by decide) horder
  have hnumber : ∀ n : Option Nat, ∀ b ∈ n.map toString, Plain b := by
    intro n b hb
    obtain ⟨k, -, rfl⟩ := Option.map_eq_some_iff.1 hb
    exact plain_toString k
  have hwhere := hcondition.plain_append hhead
  have hordered := hwhere.append_clause (by decide : IsMark " ORDER BY ") hkeys
  have hlimited := hordered.append_clause (by decide : IsMark " LIMIT ") (hnumber s.limit)
  exact hlimited.append_clause (by decide) (hnumber s.offset)

end DerivedQuery.Sql
