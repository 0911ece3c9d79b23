import DerivedQuery.Proofs.Numeral
import DerivedQuery.Proofs.Phrase

/-!
The subject of a phrase. Its words are told apart by their capitals, so neither part of it is found
in the other, and the digits of a limit end where they were written to end.
-/

namespace DerivedQuery.Phrase

open Text QueryName

theorem Limit.notMem_chars (l : Limit) {c : Char} (hdigit : isDigit c = false)
    (hword : c ∉ l.word.chars) : c ∉ l.chars := by
  rw [Limit.chars, List.mem_append, not_or]
  exact ⟨hword, notMem_numeral hdigit l.count⟩

theorem Subject.notMem_chars (s : Subject) {c : Char} (hdigit : isDigit c = false)
    (hdistinct : c ∉ distinctWord) (htop : c ∉ topWord) (hfirst : c ∉ firstWord) :
    c ∉ s.chars := by
  have hd : c ∉ s.distinctChars := by
    unfold Subject.distinctChars
    split
    · exact hdistinct
    · exact List.not_mem_nil
  have hl : c ∉ s.limitChars := by
    unfold Subject.limitChars
    cases s.limit with
    | none => exact List.not_mem_nil
    | some l =>
      refine l.notMem_chars hdigit ?_
      cases l.word with
      | top => exact htop
      | first => exact hfirst
  unfold Subject.chars
  split
  · rw [List.mem_append, not_or]
    exact ⟨hl, hd⟩
  · rw [List.mem_append, not_or]
    exact ⟨hd, hl⟩

/-- A capital of another word keeps `Distinct` where it stands. -/
theorem Subject.exists_around_distinct (s : Subject) :
    ∃ before after, s.chars = before ++ (s.distinctChars ++ after) ∧ 'D' ∉ before ∧
      'D' ∉ after := by
  have hl : 'D' ∉ s.limitChars := by
    unfold Subject.limitChars
    cases s.limit with
    | none => exact List.not_mem_nil
    | some l =>
      refine l.notMem_chars (by decide) ?_
      cases l.word <;> decide
  unfold Subject.chars
  split
  · exact ⟨s.limitChars, [], by rw [List.append_nil], hl, List.not_mem_nil⟩
  · exact ⟨[], s.limitChars, rfl, List.not_mem_nil, hl⟩

theorem Subject.occurs_chars (s : Subject) : occurs distinctWord s.chars = s.distinct := by
  obtain ⟨before, after, hchars, hbefore, hafter⟩ := s.exists_around_distinct
  unfold Subject.distinctChars at hchars
  cases hdistinct : s.distinct with
  | true =>
    rw [if_pos hdistinct] at hchars
    have hfound : splitFirst? distinctWord s.chars = some (before, after) :=
      hchars ▸ splitFirst?_append_of_notMem hbefore _ after
    rw [occurs, hfound]
    rfl
  | false =>
    rw [if_neg (by simp [hdistinct]), List.nil_append] at hchars
    have hnone : splitFirst? distinctWord s.chars = none := by
      refine splitFirst?_of_notMem ?_ _
      rw [hchars, List.mem_append, not_or]
      exact ⟨hbefore, hafter⟩
    rw [occurs, hnone]
    rfl

/-- What stands around a limit has no limiting word and no digits. -/
theorem Subject.exists_around_limit (s : Subject) :
    ∃ before after, s.chars = before ++ (s.limitChars ++ after) ∧ 'T' ∉ before ++ after ∧
      'F' ∉ before ++ after ∧ EndsNumeral after := by
  have hdistinct : 'T' ∉ s.distinctChars ∧ 'F' ∉ s.distinctChars ∧ EndsNumeral s.distinctChars := by
    unfold Subject.distinctChars
    split <;> decide
  obtain ⟨htop, hfirst, hends⟩ := hdistinct
  unfold Subject.chars
  split
  · exact ⟨[], s.distinctChars, rfl, htop, hfirst, hends⟩
  · refine ⟨s.distinctChars, [], by rw [List.append_nil], ?_, ?_, endsNumeral_nil⟩
    · rwa [List.append_nil]
    · rwa [List.append_nil]

theorem limitAfter_numeral (word : List Char) {n : Nat} (hpos : 0 < n) (hle : n ≤ greatestCount)
    {after : List Char} (hafter : EndsNumeral after) :
    limitAfter word (numeral n ++ after) = .ok n := by
  have hlt : ¬Nat.pow 2 64 ≤ n :=
    Nat.not_le.2 (Nat.lt_of_le_of_lt hle (by decide : greatestCount < Nat.pow 2 64))
  unfold limitAfter
  simp only [spanDigits_numeral_append n hafter, numeral_ne_nil, decimalValue_numeral, hlt,
    Nat.pos_iff_ne_zero.1 hpos, if_false]

theorem Subject.readLimit_chars (s : Subject) :
    readLimit s.chars = .ok (s.limit.map Limit.count) := by
  obtain ⟨before, after, hchars, htop, hfirst, hends⟩ := s.exists_around_limit
  simp only [List.mem_append, not_or] at htop hfirst
  unfold readLimit
  cases hlimit : s.limit with
  | none =>
    have hshort : s.chars = before ++ after := by
      simpa [Subject.limitChars, hlimit] using hchars
    have hnotop : splitFirst? topWord s.chars = none :=
      splitFirst?_of_notMem (by simp [hshort, htop]) _
    have hnofirst : splitFirst? firstWord s.chars = none :=
      splitFirst?_of_notMem (by simp [hshort, hfirst]) _
    rw [hnotop, hnofirst]
    rfl
  | some l =>
    have hlimited : s.chars = before ++ (l.word.chars ++ (numeral l.count ++ after)) := by
      simpa [Subject.limitChars, hlimit, Limit.chars] using hchars
    have hcount := fun word => limitAfter_numeral word l.pos l.le hends
    cases hword : l.word with
    | top =>
      rw [hword] at hlimited
      have hfound : splitFirst? topWord s.chars = some (before, numeral l.count ++ after) :=
        hlimited ▸ splitFirst?_append_of_notMem htop.1 _ _
      rw [hfound]
      simp only [hcount]
      rfl
    | first =>
      rw [hword] at hlimited
      have hnotop : splitFirst? topWord s.chars = none := by
        refine splitFirst?_of_notMem ?_ _
        have hdigits : 'T' ∉ numeral l.count := notMem_numeral (by decide) _
        simp [hlimited, htop, hdigits, LimitWord.chars, firstWord]
      have hfound : splitFirst? firstWord s.chars = some (before, numeral l.count ++ after) :=
        hlimited ▸ splitFirst?_append_of_notMem hfirst.1 _ _
      rw [hnotop, hfound]
      simp only [hcount]
      rfl

/-- A subject, or `By` where it is empty, begins with a capital. -/
theorem Subject.head?_chars (s : Subject) (rest : List Char) :
    (s.chars ++ (byWord ++ rest)).head?.all isUpperLetter = true := by
  unfold Subject.chars Subject.distinctChars Subject.limitChars
  cases s.limitFirst <;> cases s.distinct <;> rcases s.limit with _ | ⟨word, count, hpos, hle⟩
  all_goals first | rfl | (cases word <;> rfl)

end DerivedQuery.Phrase
