import DerivedQuery.Proofs.Words
import DerivedQuery.Text.Case

/-!
Letter case of ASCII characters. Capitals begin words, and no upper-case character goes on with one.
-/

namespace DerivedQuery.Text

/-- An ASCII upper-case letter. -/
def isCapital (c : Char) : Bool := decide ('A' ≤ c) && decide (c ≤ 'Z')

theorem toNat_of_continuesWord {c : Char} (h : continuesWord c = true) :
    (0x61 ≤ c.toNat ∧ c.toNat ≤ 0x7A) ∨ (0x30 ≤ c.toNat ∧ c.toNat ≤ 0x39) := by
  simpa [continuesWord, isDigit, Char.le_def, UInt32.le_iff_toNat_le] using h

theorem toNat_of_isCapital {c : Char} (h : isCapital c = true) :
    0x41 ≤ c.toNat ∧ c.toNat ≤ 0x5A := by
  simpa [isCapital, Char.le_def, UInt32.le_iff_toNat_le] using h

theorem continuesWord_of_isCapital {c : Char} (h : isCapital c = true) :
    continuesWord c = false := by
  have hc := toNat_of_isCapital h
  rw [Bool.eq_false_iff]
  intro hcontinues
  have hw := toNat_of_continuesWord hcontinues
  omega

theorem isUpperLetter_of_isCapital {c : Char} (h : isCapital c = true) :
    isUpperLetter c = true := by
  have hc := toNat_of_isCapital h
  rw [isUpperLetter, if_pos (by omega)]
  exact h

/-- The tables of upper-case characters begin beyond ASCII. -/
theorem any_contains_eq_false {spans : List Span} {n : Nat}
    (hspans : ∀ s ∈ spans, 0x80 ≤ s.first) (hn : n < 0x80) : spans.any (·.contains n) = false := by
  rw [List.any_eq_false]
  intro s hs hcontains
  have hfirst := hspans s hs
  simp only [Span.contains, Bool.and_eq_true, decide_eq_true_eq] at hcontains
  omega

theorem isUpper_of_continuesWord {c : Char} (h : continuesWord c = true) : isUpper c = false := by
  have hw := toNat_of_continuesWord h
  have hletter : isUpperLetter c = false := by
    rw [isUpperLetter, if_pos (by omega), Bool.eq_false_iff]
    intro hupper
    have hc := toNat_of_isCapital hupper
    omega
  have hnew : newUpperLetterSpans.any (·.contains c.toNat) = false :=
    any_contains_eq_false (by decide) (by omega)
  have hsymbol : upperSymbolSpans.any (·.contains c.toNat) = false :=
    any_contains_eq_false (by decide) (by omega)
  simp [isUpper, hletter, hnew, hsymbol]

theorem beginsWord_of_startsUpper {s : List Char} (h : startsUpper s = true) : BeginsWord s := by
  cases s with
  | nil => cases h
  | cons c s =>
    refine beginsWord_cons ?_ s
    rw [Bool.eq_false_iff]
    intro hcontinues
    rw [startsUpper, isUpper_of_continuesWord hcontinues] at h
    cases h

theorem startsUpper_append {s : List Char} (h : startsUpper s = true) (t : List Char) :
    startsUpper (s ++ t) = true := by
  cases s with
  | nil => cases h
  | cons c s => exact h

theorem startsUpper_intercalate {word p : List Char} (hp : startsUpper p = true)
    (ps : List (List Char)) : startsUpper (word.intercalate (p :: ps)) = true := by
  cases ps with
  | nil => simpa using hp
  | cons q qs =>
    rw [List.intercalate_cons_cons, List.append_assoc]
    exact startsUpper_append hp _

theorem lower_of_isCapital {c : Char} (h : isCapital c = true) : lower c = [c.toLower] := by
  have hlower : ∀ n < 0x5B, 0x41 ≤ n → lower (Char.ofNat n) = [(Char.ofNat n).toLower] := by
    decide
  have hc := toNat_of_isCapital h
  rw [← Char.ofNat_toNat c]
  exact hlower c.toNat (by omega) hc.1

theorem toNat_ofNat_of_ne_zero {n : Nat} (h : (Char.ofNat n).toNat ≠ 0) :
    (Char.ofNat n).toNat = n := by
  by_cases hvalid : n.isValidChar
  · have hchar : Char.ofNat n = Char.ofNatAux n hvalid := dif_pos hvalid
    rw [hchar]
    rfl
  · have hchar : Char.ofNat n = Char.ofNat 0 := dif_neg hvalid
    exact absurd (congrArg Char.toNat hchar) h

/-- The lower-case forms of the table come after `b`, so after the dot and all ASCII capitals. -/
theorem lt_of_mem_lowerShifts {e : Span × Int} (h : e ∈ lowerShifts) :
    0x62 < (e.1.first : Int) + e.2 := by
  have hshifts : ∀ e ∈ lowerShifts, 0x62 < (e.1.first : Int) + e.2 := by decide +kernel
  exact hshifts e h

end DerivedQuery.Text
