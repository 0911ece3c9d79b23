/-!
Searching a text for a word, leftmost first. The main statement is `splitFirst?_eq_some_iff`: what
is found is the first occurrence of the word.
-/

namespace DerivedQuery.Text

/-- What follows `w` at the start of a text. -/
def dropInitial? : List Char → List Char → Option (List Char)
  | [], s => some s
  | _ :: _, [] => none
  | w :: ws, c :: s => if w = c then dropInitial? ws s else none

/-- What stands before `w` at the end of a text. -/
def dropFinal? (w s : List Char) : Option (List Char) :=
  (dropInitial? w.reverse s.reverse).map List.reverse

/-- The text before the first occurrence of `w` and the text after it. -/
def splitFirst? (w : List Char) : List Char → Option (List Char × List Char)
  | [] => if w.isEmpty then some ([], []) else none
  | c :: s =>
    match dropInitial? w (c :: s) with
    | some rest => some ([], rest)
    | none => (splitFirst? w s).map fun (before, after) => (c :: before, after)

/-- Whether `w` occurs in `s`. -/
def occurs (w s : List Char) : Bool :=
  (splitFirst? w s).isSome

/-- The parts of `s` between the separators, of which there is one more than separators. -/
def fields (sep : Char) : List Char → List (List Char)
  | [] => [[]]
  | c :: s =>
    if c = sep then [] :: fields sep s
    else
      match fields sep s with
      | [] => [[c]]
      | f :: fs => (c :: f) :: fs

theorem dropInitial?_eq_some {w s rest : List Char} :
    dropInitial? w s = some rest ↔ s = w ++ rest := by
  fun_induction dropInitial? w s with
  | case1 => simp [eq_comm]
  | case2 => simp
  | case3 w ws s ih => simp [ih]
  | case4 w ws c s hne => simp [Ne.symm hne]

theorem dropFinal?_eq_some {w s rest : List Char} :
    dropFinal? w s = some rest ↔ s = rest ++ w := by
  simp only [dropFinal?, Option.map_eq_some_iff, dropInitial?_eq_some]
  constructor
  · rintro ⟨a, ha, rfl⟩
    have := congrArg List.reverse ha
    simpa using this
  · rintro rfl
    exact ⟨rest.reverse, by simp⟩

theorem splitFirst?_eq_some {w s before after : List Char}
    (h : splitFirst? w s = some (before, after)) : s = before ++ w ++ after := by
  induction s generalizing before with
  | nil =>
    simp only [splitFirst?] at h
    split at h
    · simp_all
    · simp at h
  | cons c s ih =>
    simp only [splitFirst?] at h
    split at h
    · rename_i rest hr
      rw [dropInitial?_eq_some] at hr
      simp_all
    · obtain ⟨⟨b, a⟩, hb, he⟩ := Option.map_eq_some_iff.1 h
      simp only [Prod.mk.injEq] at he
      obtain ⟨rfl, rfl⟩ := he
      simp [ih hb]

/-- The first occurrence of `w` in `s` stands between these two texts. -/
structure FirstAt (w s before after : List Char) : Prop where
  text : s = before ++ w ++ after
  first : ∀ b a, s = b ++ w ++ a → before.length ≤ b.length

theorem FirstAt.unique {w s before after before' after' : List Char}
    (h : FirstAt w s before after) (h' : FirstAt w s before' after') :
    before = before' ∧ after = after' := by
  have hlength : before.length = before'.length :=
    Nat.le_antisymm (h.first _ _ h'.text) (h'.first _ _ h.text)
  have htext : before ++ (w ++ after) = before' ++ (w ++ after') := by
    rw [← List.append_assoc, ← List.append_assoc, ← h.text, ← h'.text]
  obtain ⟨hbefore, hafter⟩ := List.append_inj htext hlength
  exact ⟨hbefore, List.append_cancel_left hafter⟩

theorem splitFirst?_eq_none_iff {w s : List Char} : splitFirst? w s = none ↔ ¬w <:+: s := by
  induction s with
  | nil => cases w <;> simp [splitFirst?]
  | cons c s ih =>
    rw [splitFirst?, List.infix_cons_iff, not_or]
    cases hhere : dropInitial? w (c :: s) with
    | some rest =>
      have hfront : w <+: c :: s := ⟨rest, (dropInitial?_eq_some.1 hhere).symm⟩
      simp [hfront]
    | none =>
      have hfront : ¬w <+: c :: s := by
        rintro ⟨rest, hrest⟩
        simp [dropInitial?_eq_some.2 hrest.symm] at hhere
      simp [hfront, ih]

theorem firstAt_of_splitFirst? {w s before after : List Char}
    (h : splitFirst? w s = some (before, after)) : FirstAt w s before after := by
  refine ⟨splitFirst?_eq_some h, ?_⟩
  induction s generalizing before with
  | nil =>
    obtain ⟨hempty, -⟩ := List.append_eq_nil_iff.1 (splitFirst?_eq_some h).symm
    simp [(List.append_eq_nil_iff.1 hempty).1]
  | cons c s ih =>
    intro b a hb
    rw [splitFirst?] at h
    cases hhere : dropInitial? w (c :: s) with
    | some rest =>
      simp only [hhere, Option.some.injEq, Prod.mk.injEq] at h
      obtain ⟨rfl, rfl⟩ := h
      exact Nat.zero_le _
    | none =>
      simp only [hhere, Option.map_eq_some_iff, Prod.exists, Prod.mk.injEq] at h
      obtain ⟨before', after', hrest, rfl, rfl⟩ := h
      cases b with
      | nil =>
        have hfront : dropInitial? w (c :: s) = some a := dropInitial?_eq_some.2 hb
        simp [hhere] at hfront
      | cons c' b =>
        obtain ⟨-, htail⟩ := List.cons.inj hb
        exact Nat.succ_le_succ (ih hrest b a htail)

theorem splitFirst?_eq_some_iff {w s before after : List Char} :
    splitFirst? w s = some (before, after) ↔ FirstAt w s before after := by
  refine ⟨firstAt_of_splitFirst?, fun h => ?_⟩
  cases hfound : splitFirst? w s with
  | none => exact absurd ⟨before, after, h.text.symm⟩ (splitFirst?_eq_none_iff.1 hfound)
  | some found =>
    obtain ⟨rfl, rfl⟩ := (firstAt_of_splitFirst? hfound).unique h
    rfl

theorem fields_ne_nil (sep : Char) (s : List Char) : fields sep s ≠ [] := by
  cases s with
  | nil => simp [fields]
  | cons c s =>
    simp only [fields]
    split
    · simp
    · split <;> simp

theorem intercalate_fields (sep : Char) (s : List Char) :
    [sep].intercalate (fields sep s) = s := by
  induction s with
  | nil => rfl
  | cons c s ih =>
    rw [fields]
    obtain ⟨f, fs, hfields⟩ := List.exists_cons_of_ne_nil (fields_ne_nil sep s)
    rw [hfields] at ih
    split
    · next hc => rw [hfields, List.intercalate_cons_cons, ih, hc]; rfl
    · rw [hfields]
      cases fs with
      | nil => simpa using ih
      | cons g gs => simpa [List.intercalate_cons_cons] using ih

end DerivedQuery.Text
