import DerivedQuery.Proofs.LetterCase

/-!
What becomes of an upper-case character in lower case. The spans of lower-case forms stand apart
from those of upper-case characters, so a character stays as it is or is upper case no longer.
-/

namespace DerivedQuery.Text

/-- Each upper-case character stays as it is or gives characters that are not upper case, and no
dot. -/
def Settles (lower : Char → List Char) : Prop :=
  ∀ c, isUpper c = true → lower c = [c] ∨ ∀ d ∈ lower c, isUpper d = false ∧ d ≠ '.'

/-- Upper-case characters beyond ASCII. -/
def upperSpans : List Span := upperLetterSpans ++ newUpperLetterSpans ++ upperSymbolSpans

namespace Span

/-- The span that lies at a distance. -/
def shifted (s : Span) (offset : Int) : Span :=
  ⟨(s.first + offset).toNat, (s.last + offset).toNat, s.step⟩

/-- All code points of the span are even or all are odd, as its first one is. -/
def hasParity (s : Span) : Bool := s.step % 2 == 0 || s.first == s.last

/-- One span ends before the other begins, or one has even code points and the other odd ones. -/
def apart (s t : Span) : Bool :=
  Nat.blt s.last t.first || Nat.blt t.last s.first ||
    (s.hasParity && t.hasParity && (s.first + t.first) % 2 == 1)

variable {s t : Span} {n : Nat}

theorem contains_iff :
    s.contains n = true ↔ s.first ≤ n ∧ n ≤ s.last ∧ (n - s.first) % s.step = 0 := by
  simp [contains, and_assoc]

theorem contains_shifted {offset : Int} (hfirst : 0 ≤ s.first + offset)
    (h : s.contains n = true) : (s.shifted offset).contains (n + offset).toNat = true := by
  rw [contains_iff] at h ⊢
  obtain ⟨hfrom, hto, hstep⟩ := h
  have hdistance : (n + offset).toNat - (s.first + offset).toNat = n - s.first := by omega
  simp only [shifted]
  rw [hdistance]
  omega

theorem parity_of_contains (hparity : s.hasParity = true) (h : s.contains n = true) :
    n % 2 = s.first % 2 := by
  obtain ⟨hfrom, hto, hstep⟩ := contains_iff.1 h
  simp only [hasParity, Bool.or_eq_true, beq_iff_eq] at hparity
  rcases hparity with heven | hsingle
  · have htwo : 2 ∣ n - s.first :=
      Nat.dvd_trans (Nat.dvd_of_mod_eq_zero heven) (Nat.dvd_of_mod_eq_zero hstep)
    omega
  · omega

theorem contains_eq_false_of_apart (happart : s.apart t = true) (h : s.contains n = true) :
    t.contains n = false := by
  rw [Bool.eq_false_iff]
  intro ht
  obtain ⟨hsfrom, hsto, -⟩ := contains_iff.1 h
  obtain ⟨htfrom, htto, -⟩ := contains_iff.1 ht
  simp only [apart, Bool.or_eq_true, Bool.and_eq_true, Nat.blt_eq, beq_iff_eq] at happart
  rcases happart with (hbefore | hbehind) | ⟨⟨hs, ht'⟩, hodd⟩
  · omega
  · omega
  · have hsparity := parity_of_contains hs h
    have htparity := parity_of_contains ht' ht
    omega

end Span

/-- No form in lower case is upper case. -/
theorem apart_of_mem_lowerShifts {e : Span × Int} (he : e ∈ lowerShifts) {s : Span}
    (hs : s ∈ upperSpans) : (e.1.shifted e.2).apart s = true := by
  have hall : lowerShifts.all (fun e => upperSpans.all (e.1.shifted e.2).apart) = true := by
    decide +kernel
  exact List.all_eq_true.1 (List.all_eq_true.1 hall e he) s hs

theorem toNat_of_isUpper {c : Char} (h : isUpper c = true) :
    (0x41 ≤ c.toNat ∧ c.toNat ≤ 0x5A) ∨ ∃ s ∈ upperSpans, s.contains c.toNat = true := by
  have hany : isUpperLetter c = true ∨ (newUpperLetterSpans ++ upperSymbolSpans).any
      (·.contains c.toNat) = true := by
    simpa [isUpper, or_assoc] using h
  rcases hany with hletter | hother
  · by_cases hascii : c.toNat < 0x80
    · rw [isUpperLetter, if_pos hascii] at hletter
      exact Or.inl (toNat_of_isCapital hletter)
    · rw [isUpperLetter, if_neg hascii] at hletter
      obtain ⟨s, hs, hcontains⟩ := List.any_eq_true.1 hletter
      refine Or.inr ⟨s, ?_, hcontains⟩
      rw [upperSpans, List.append_assoc]
      exact List.mem_append_left _ hs
  · obtain ⟨s, hs, hcontains⟩ := List.any_eq_true.1 hother
    refine Or.inr ⟨s, ?_, hcontains⟩
    rw [upperSpans, List.append_assoc]
    exact List.mem_append_right _ hs

theorem settled_of_mem_lowerShifts {c : Char} {e : Span × Int} (he : e ∈ lowerShifts)
    (hcontains : e.1.contains c.toNat = true) :
    isUpper (shiftChar c e.2) = false ∧ shiftChar c e.2 ≠ '.' := by
  have hlow := lt_of_mem_lowerShifts he
  obtain ⟨hfrom, -, -⟩ := Span.contains_iff.1 hcontains
  have hshifted : (e.1.shifted e.2).contains (c.toNat + e.2).toNat = true :=
    Span.contains_shifted (by omega) hcontains
  -- a distance that leads to no character leads to the first one
  have hcode : (shiftChar c e.2).toNat ≠ 0 →
      (shiftChar c e.2).toNat = (c.toNat + e.2).toNat := toNat_ofNat_of_ne_zero
  constructor
  · rw [Bool.eq_false_iff]
    intro hupper
    rcases toNat_of_isUpper hupper with hcapital | ⟨s, hs, hin⟩
    · have := hcode (by omega)
      omega
    · have hfirst : ∀ s ∈ upperSpans, 0 < s.first := by decide +kernel
      have hpositive := hfirst s hs
      obtain ⟨hsfrom, -, -⟩ := Span.contains_iff.1 hin
      rw [hcode (by omega),
        Span.contains_eq_false_of_apart (apart_of_mem_lowerShifts he hs) hshifted] at hin
      cases hin
  · intro hdot
    have hdotCode : (shiftChar c e.2).toNat = 0x2E := congrArg Char.toNat hdot
    have := hcode (by omega)
    omega

/-- Beyond ASCII a character has two in lower case, or one from the table, or is left as it is. -/
theorem lower_cases {c : Char} (h : ¬c.toNat < 0x80) :
    lower c = ['i', '\u0307'] ∨
      (∃ e ∈ lowerShifts, e.1.contains c.toNat = true ∧ lower c = [shiftChar c e.2]) ∨
        lower c = [c] := by
  rw [lower, if_neg h]
  split
  · exact Or.inl rfl
  · right
    cases hfind : lowerShifts.find? (·.1.contains c.toNat) with
    | none => exact Or.inr rfl
    | some e =>
      have hcontains := List.find?_some hfind
      exact Or.inl ⟨e, List.mem_of_find?_eq_some hfind, hcontains, rfl⟩

theorem settles_lower : Settles lower := by
  intro c hc
  by_cases hascii : c.toNat < 0x80
  · right
    have hplain : ∀ n < 0x80, isUpper (Char.ofNat n) = true →
        (lower (Char.ofNat n)).all (fun d => !isUpper d && d != '.') = true := by
      decide +kernel
    intro d hd
    rw [← Char.ofNat_toNat c] at hc hd
    simpa using List.all_eq_true.1 (hplain c.toNat hascii hc) d hd
  · rcases lower_cases hascii with hdotted | ⟨e, he, hcontains, hshift⟩ | hself
    · right
      have hplain : ['i', '\u0307'].all (fun d => !isUpper d && d != '.') = true := by
        decide +kernel
      intro d hd
      rw [hdotted] at hd
      simpa using List.all_eq_true.1 hplain d hd
    · right
      intro d hd
      rw [hshift, List.mem_singleton] at hd
      exact hd ▸ settled_of_mem_lowerShifts he hcontains
    · exact Or.inl hself

end DerivedQuery.Text
