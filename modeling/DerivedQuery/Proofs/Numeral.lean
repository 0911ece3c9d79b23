import Mathlib.Logic.Basic
import DerivedQuery.Text.Digits
import DerivedQuery.Sql

/-!
Numerals read back as the numbers that they are written for, whatever follows them but a digit. So a
tag name stands for one number only.
-/

namespace DerivedQuery.Text

theorem isDigit_of_mem_numeral {n : Nat} {c : Char} (h : c ∈ numeral n) : isDigit c = true := by
  have hc : c.isDigit = true := Nat.isDigit_of_mem_toDigits (by decide) (by decide) h
  simp only [Char.isDigit, Bool.and_eq_true, decide_eq_true_eq] at hc
  simp only [isDigit, Bool.and_eq_true, decide_eq_true_eq]
  exact hc

theorem notMem_numeral {c : Char} (h : isDigit c = false) (n : Nat) : c ∉ numeral n := by
  intro hc
  simp [isDigit_of_mem_numeral hc] at h

theorem numeral_ne_nil (n : Nat) : numeral n ≠ [] := Nat.toDigits_ne_nil

theorem decimalValue_numeral (n : Nat) : decimalValue (numeral n) = n := by
  have h := Nat.ofDigitChars_ten_toDigits (n := n)
  rw [Nat.ofDigitChars_eq_foldl] at h
  exact h

theorem numeral_injective {m n : Nat} (h : numeral m = numeral n) : m = n := by
  rw [← decimalValue_numeral m, h, decimalValue_numeral]

/-- No digit comes next. -/
def EndsNumeral (s : List Char) : Prop := ∀ c ∈ s.head?, isDigit c = false

instance : (s : List Char) → Decidable (EndsNumeral s)
  | [] => isTrue (by simp [EndsNumeral])
  | c :: _ => decidable_of_iff (isDigit c = false) (by simp [EndsNumeral])

theorem endsNumeral_nil : EndsNumeral [] := by simp [EndsNumeral]

theorem EndsNumeral.append {s t : List Char} (hs : EndsNumeral s) (ht : EndsNumeral t) :
    EndsNumeral (s ++ t) := by
  cases s with
  | nil => exact ht
  | cons c s => exact hs

theorem EndsNumeral.append_of_ne_nil {s : List Char} (hs : EndsNumeral s) (hne : s ≠ [])
    (t : List Char) : EndsNumeral (s ++ t) := by
  cases s with
  | nil => exact absurd rfl hne
  | cons c s => exact hs

theorem spanDigits_numeral_append (n : Nat) {s : List Char} (h : EndsNumeral s) :
    spanDigits (numeral n ++ s) = (numeral n, s) := by
  have hd : ∀ c ∈ numeral n, isDigit c = true := fun _ hc => isDigit_of_mem_numeral hc
  have hs : s.takeWhile isDigit = [] ∧ s.dropWhile isDigit = s := by
    cases s with
    | nil => exact ⟨rfl, rfl⟩
    | cons c s =>
      have hc : isDigit c = false := h c rfl
      exact ⟨by rw [List.takeWhile_cons_of_neg (by simp [hc])],
        by rw [List.dropWhile_cons_of_neg (by simp [hc])]⟩
  simp only [spanDigits]
  rw [List.takeWhile_append_of_pos hd, List.dropWhile_append_of_pos hd, hs.1, hs.2,
    List.append_nil]

end DerivedQuery.Text

namespace DerivedQuery.Sql

theorem toList_tagName (n : Nat) : (tagName n).toList = ['t', 'a', 'g'] ++ Text.numeral n := by
  simp [tagName, Text.numeral, String.toList_append]

theorem toList_reference (n : Nat) :
    (reference n).toList = ['@', 't', 'a', 'g'] ++ Text.numeral n := by
  simp [reference, String.toList_append, toList_tagName]

theorem tagName_injective {m n : Nat} (h : tagName m = tagName n) : m = n := by
  have hl : (tagName m).toList = (tagName n).toList := congrArg String.toList h
  rw [toList_tagName, toList_tagName] at hl
  exact Text.numeral_injective (List.append_cancel_left hl)

end DerivedQuery.Sql
