import DerivedQuery.Entity
import DerivedQuery.Proofs.Lowering

/-!
Derived column names. In the snake case of a field an underscore stands before each letter that was
a capital and nowhere else, so the field can be read back from its column and no two fields in lower
camel case share one. A name in snake case stays as it is.
-/

namespace DerivedQuery

open Text

section Repetition

variable {lower : Char → List Char}

theorem ne_dot_of_isUpper {c : Char} (h : isUpper c = true) : c ≠ '.' := by
  rintro rfl
  exact absurd h (by decide +kernel)

theorem snakeTail_dot (afterMark : Bool) (s : List Char) :
    snakeTail lower afterMark ('.' :: s) = '_' :: snakeTail lower true s := by
  rw [snakeTail, if_pos rfl]

theorem snakeTail_upper {c : Char} (hupper : isUpper c = true) (afterMark : Bool)
    (s : List Char) :
    snakeTail lower afterMark (c :: s) = (if afterMark then lower c else '_' :: lower c) ++
      snakeTail lower ((lower c).getLast?.all (· == '_')) s := by
  rw [snakeTail, if_neg (ne_dot_of_isUpper hupper), if_pos hupper]

theorem snakeTail_plain {c : Char} (hupper : isUpper c = false) (hdot : c ≠ '.')
    (afterMark : Bool) (s : List Char) :
    snakeTail lower afterMark (c :: s) = c :: snakeTail lower (c == '_') s := by
  rw [snakeTail, if_neg hdot, if_neg (by simp [hupper])]

theorem snakeTail_underscore (afterMark : Bool) (s : List Char) :
    snakeTail lower afterMark ('_' :: s) = '_' :: snakeTail lower true s :=
  snakeTail_plain (by decide +kernel) (by decide) afterMark s

/-- Characters that are not upper case stay, and the last of them says what stands before the
rest. -/
theorem snakeTail_plain_append {l : List Char} (h : ∀ d ∈ l, isUpper d = false ∧ d ≠ '.')
    (afterMark : Bool) (s : List Char) :
    snakeTail lower afterMark (l ++ s) =
      l ++ snakeTail lower (l.getLast?.elim afterMark (· == '_')) s := by
  induction l generalizing afterMark with
  | nil => rfl
  | cons d l ih =>
    obtain ⟨⟨hupper, hdot⟩, hl⟩ := List.forall_mem_cons.1 h
    rw [List.cons_append, snakeTail_plain hupper hdot, ih hl, List.cons_append]
    cases l with
    | nil => rfl
    | cons d' l => rfl

/-- What has become of an upper-case character is left as it is by a second pass. -/
theorem snakeTail_lower_append (hlower : Settles lower) {c : Char} (hupper : isUpper c = true)
    (s : List Char) :
    snakeTail lower true (lower c ++ s) =
      lower c ++ snakeTail lower ((lower c).getLast?.all (· == '_')) s := by
  rcases hlower c hupper with hself | hplain
  · have hagain : snakeTail lower true (c :: s) = _ := snakeTail_upper hupper true s
    rw [hself] at hagain ⊢
    exact hagain
  · rw [snakeTail_plain_append hplain]
    cases (lower c).getLast? <;> rfl

theorem snakeTail_snakeTail (hlower : Settles lower) (afterMark : Bool) (s : List Char) :
    snakeTail lower afterMark (snakeTail lower afterMark s) = snakeTail lower afterMark s := by
  induction s generalizing afterMark with
  | nil => rfl
  | cons c s ih =>
    by_cases hdot : c = '.'
    · rw [hdot, snakeTail_dot, snakeTail_underscore, ih]
    · cases hupper : isUpper c with
      | false => rw [snakeTail_plain hupper hdot, snakeTail_plain hupper hdot, ih]
      | true =>
        rw [snakeTail_upper hupper]
        cases afterMark with
        | true => rw [if_pos rfl, snakeTail_lower_append hlower hupper, ih]
        | false =>
          rw [if_neg Bool.false_ne_true, List.cons_append, snakeTail_underscore,
            snakeTail_lower_append hlower hupper, ih]

theorem snakeChars_dot (s : List Char) :
    snakeChars lower ('.' :: s) = '_' :: snakeTail lower true s := rfl

theorem snakeChars_upper {c : Char} (hupper : isUpper c = true) (s : List Char) :
    snakeChars lower (c :: s) =
      lower c ++ snakeTail lower ((lower c).getLast? == some '_') s := by
  rw [snakeChars, if_neg (ne_dot_of_isUpper hupper), if_pos hupper]

theorem snakeChars_plain {c : Char} (hupper : isUpper c = false) (hdot : c ≠ '.')
    (s : List Char) : snakeChars lower (c :: s) = c :: snakeTail lower (c == '_') s := by
  rw [snakeChars, if_neg hdot, if_neg (by simp [hupper])]
  rfl

theorem snakeChars_underscore (s : List Char) :
    snakeChars lower ('_' :: s) = '_' :: snakeTail lower true s :=
  snakeChars_plain (by decide +kernel) (by decide) s

theorem snakeChars_plain_append {l : List Char} (h : ∀ d ∈ l, isUpper d = false ∧ d ≠ '.')
    (hne : l ≠ []) (s : List Char) :
    snakeChars lower (l ++ s) = l ++ snakeTail lower (l.getLast? == some '_') s := by
  obtain ⟨d, l, rfl⟩ := List.exists_cons_of_ne_nil hne
  obtain ⟨⟨hupper, hdot⟩, hl⟩ := List.forall_mem_cons.1 h
  rw [List.cons_append, snakeChars_plain hupper hdot, snakeTail_plain_append hl, List.cons_append]
  cases l with
  | nil => rfl
  | cons d' l =>
    rw [List.getLast?_cons_cons, List.getLast?_eq_some_getLast (List.cons_ne_nil d' l)]
    rfl

theorem exists_snakeTail_cons (lower : Char → List Char) (c : Char) (s : List Char) :
    ∃ d t, snakeTail lower false (c :: s) = d :: t ∧ isUpper d = false ∧ d ≠ '.' := by
  have hmark : isUpper '_' = false ∧ '_' ≠ '.' := ⟨by decide +kernel, by decide⟩
  by_cases hdot : c = '.'
  · rw [hdot, snakeTail_dot]
    exact ⟨'_', _, rfl, hmark⟩
  · cases hupper : isUpper c with
    | false =>
      rw [snakeTail_plain hupper hdot]
      exact ⟨c, _, rfl, hupper, hdot⟩
    | true =>
      rw [snakeTail_upper hupper]
      exact ⟨'_', _, rfl, hmark⟩

/-- Where the first character has vanished, the rest does not begin in upper case. -/
theorem snakeChars_snakeTail (hlower : Settles lower) (s : List Char) :
    snakeChars lower (snakeTail lower false s) = snakeTail lower false s := by
  cases s with
  | nil => rfl
  | cons c s =>
    have hagain := snakeTail_snakeTail hlower false (c :: s)
    obtain ⟨d, t, ht, hupper, hdot⟩ := exists_snakeTail_cons lower c s
    rw [ht] at hagain ⊢
    rw [snakeChars_plain hupper hdot, ← snakeTail_plain hupper hdot false, hagain]

theorem snakeChars_snakeChars (hlower : Settles lower) (s : List Char) :
    snakeChars lower (snakeChars lower s) = snakeChars lower s := by
  cases s with
  | nil => rfl
  | cons c s =>
    by_cases hdot : c = '.'
    · rw [hdot, snakeChars_dot, snakeChars_underscore, snakeTail_snakeTail hlower]
    · cases hupper : isUpper c with
      | false =>
        rw [snakeChars_plain hupper hdot, snakeChars_plain hupper hdot,
          snakeTail_snakeTail hlower]
      | true =>
        rw [snakeChars_upper hupper]
        rcases hlower c hupper with hself | hplain
        · rw [hself, List.singleton_append, snakeChars_upper hupper, hself,
            snakeTail_snakeTail hlower, List.singleton_append]
        · by_cases hnil : lower c = []
          · rw [hnil]
            exact snakeChars_snakeTail hlower s
          · rw [snakeChars_plain_append hplain hnil, snakeTail_snakeTail hlower]

end Repetition

/-- A field in lower camel case: an ASCII lower-case letter, then ASCII letters and digits. -/
structure CamelCase where
  initial : Char
  rest : List Char
  small : 'a' ≤ initial ∧ initial ≤ 'z'
  plain : ∀ c ∈ rest, isCapital c = true ∨ continuesWord c = true

namespace CamelCase

def text (f : CamelCase) : String := String.ofList (f.initial :: f.rest)

/-- A letter of a field as its column has it. -/
def marked (c : Char) : List Char := if isCapital c then ['_', c.toLower] else [c]

/-- What stands in a column for a field: a letter behind an underscore was a capital. -/
def charsOfColumn : List Char → List Char
  | [] => []
  | ['_'] => []
  | '_' :: c :: s => c.toUpper :: charsOfColumn s
  | c :: s => c :: charsOfColumn s

theorem ne_of_continuesWord {c : Char} (h : continuesWord c = true) : c ≠ '_' ∧ c ≠ '.' := by
  constructor
  · rintro rfl
    cases h
  · rintro rfl
    cases h

theorem toLower_of_isCapital {c : Char} (h : isCapital c = true) :
    continuesWord c.toLower = true ∧ c.toLower.toUpper = c := by
  have hletters : ∀ n < 0x5B, 0x41 ≤ n → continuesWord (Char.ofNat n).toLower = true ∧
      (Char.ofNat n).toLower.toUpper = Char.ofNat n := by
    decide
  obtain ⟨hfrom, hto⟩ := toNat_of_isCapital h
  have hc := hletters c.toNat (by omega) hfrom
  rwa [Char.ofNat_toNat] at hc

theorem continuesWord_initial (f : CamelCase) : continuesWord f.initial = true := by
  simp [continuesWord, f.small]

/-- A field has its column letter by letter. -/
theorem snakeTail_rest {s : List Char}
    (h : ∀ c ∈ s, isCapital c = true ∨ continuesWord c = true) :
    snakeTail lower false s = s.flatMap marked := by
  induction s with
  | nil => rfl
  | cons c s ih =>
    obtain ⟨hc, hs⟩ := List.forall_mem_cons.1 h
    rw [List.flatMap_cons, ← ih hs, marked]
    rcases hc with hcapital | hword
    · obtain ⟨hword, -⟩ := toLower_of_isCapital hcapital
      have hmark : (c.toLower == '_') = false := by simp [(ne_of_continuesWord hword).1]
      rw [snakeTail_upper (isUpper_of_isUpperLetter (isUpperLetter_of_isCapital hcapital)),
        lower_of_isCapital hcapital, if_pos hcapital]
      simp [hmark]
    · have hcapital : isCapital c = false := by
        rw [Bool.eq_false_iff]
        intro hcapital
        rw [continuesWord_of_isCapital hcapital] at hword
        cases hword
      obtain ⟨hmark, hdot⟩ := ne_of_continuesWord hword
      rw [snakeTail_plain (isUpper_of_continuesWord hword) hdot, beq_false_of_ne hmark, hcapital,
        if_neg Bool.false_ne_true, List.singleton_append]

theorem toList_snakeCase (f : CamelCase) :
    (snakeCase f.text).toList = f.initial :: f.rest.flatMap marked := by
  have hinitial := f.continuesWord_initial
  obtain ⟨hmark, hdot⟩ := ne_of_continuesWord hinitial
  rw [snakeCase, text, String.toList_ofList, String.toList_ofList,
    snakeChars_plain (isUpper_of_continuesWord hinitial) hdot, beq_false_of_ne hmark,
    snakeTail_rest f.plain]

theorem charsOfColumn_cons {c : Char} (h : c ≠ '_') (s : List Char) :
    charsOfColumn (c :: s) = c :: charsOfColumn s := by
  rw [charsOfColumn] <;> simp [h]

theorem charsOfColumn_flatMap {s : List Char}
    (h : ∀ c ∈ s, isCapital c = true ∨ continuesWord c = true) :
    charsOfColumn (s.flatMap marked) = s := by
  induction s with
  | nil => rfl
  | cons c s ih =>
    obtain ⟨hc, hs⟩ := List.forall_mem_cons.1 h
    rw [List.flatMap_cons, marked]
    split
    · next hcapital =>
      simp only [List.cons_append, List.nil_append, charsOfColumn]
      rw [(toLower_of_isCapital hcapital).2, ih hs]
    · next hcapital =>
      have hword := hc.resolve_left hcapital
      rw [List.singleton_append, charsOfColumn_cons (ne_of_continuesWord hword).1, ih hs]

/-- The field is read back from its column. -/
theorem charsOfColumn_snakeCase (f : CamelCase) :
    String.ofList (charsOfColumn (snakeCase f.text).toList) = f.text := by
  rw [toList_snakeCase, charsOfColumn_cons (ne_of_continuesWord f.continuesWord_initial).1,
    charsOfColumn_flatMap f.plain, text]

theorem snakeCase_inj {f g : CamelCase} :
    snakeCase f.text = snakeCase g.text ↔ f.text = g.text := by
  constructor
  · intro h
    rw [← f.charsOfColumn_snakeCase, ← g.charsOfColumn_snakeCase, h]
  · intro h
    rw [h]

theorem mem_marked {c d : Char} (hc : isCapital c = true ∨ continuesWord c = true)
    (hd : d ∈ marked c) : d = '_' ∨ continuesWord d = true := by
  unfold marked at hd
  split at hd
  · next hcapital =>
    rcases List.mem_pair.1 hd with rfl | rfl
    · exact Or.inl rfl
    · exact Or.inr (toLower_of_isCapital hcapital).1
  · next hcapital =>
    obtain rfl := List.mem_singleton.1 hd
    exact Or.inr (hc.resolve_left hcapital)

theorem mem_snakeCase {f : CamelCase} {d : Char} (h : d ∈ (snakeCase f.text).toList) :
    d = '_' ∨ continuesWord d = true := by
  rw [toList_snakeCase] at h
  rcases List.mem_cons.1 h with rfl | h
  · exact Or.inr f.continuesWord_initial
  · obtain ⟨c, hc, hd⟩ := List.mem_flatMap.1 h
    exact mem_marked (f.plain c hc) hd

theorem plain_of_mem_snakeCase {f : CamelCase} {d : Char} (h : d ∈ (snakeCase f.text).toList) :
    d ≠ '.' ∧ isUpper d = false := by
  rcases mem_snakeCase h with rfl | hword
  · exact ⟨by decide, by decide +kernel⟩
  · exact ⟨(ne_of_continuesWord hword).2, isUpper_of_continuesWord hword⟩

end CamelCase

/-- Two fields in lower camel case that are added to an entity have the same column only if they are
the same, and their columns have no dots and nothing in upper case. Snake case changes nothing in a
name that is in snake case, whatever upper-case characters become in lower case, as long as they
settle there; those of Unicode do. -/
theorem derived_columns_do_not_collide :
    (∀ (e : Entity) (f g : CamelCase) (t u : WireType), ∃ a b : Column,
      ((e.addField f.text t).addField g.text u).columns = e.columns ++ [a, b] ∧
        a.field = f.text ∧ b.field = g.text ∧ (a.name = b.name ↔ f.text = g.text) ∧
          ∀ c ∈ a.name.toList, c ≠ '.' ∧ isUpper c = false) ∧
    (∀ lower, Settles lower → ∀ s,
      snakeChars lower (snakeChars lower s) = snakeChars lower s) ∧
    ∀ s : String, snakeCase (snakeCase s) = snakeCase s := by
  refine ⟨fun e f g t u => ?_, fun lower => snakeChars_snakeChars, ?_⟩
  · refine ⟨.derived f.text t, .derived g.text u, ?_, rfl, rfl, CamelCase.snakeCase_inj, ?_⟩
    · simp [Entity.addField]
    · intro c hc
      exact CamelCase.plain_of_mem_snakeCase hc
  · intro s
    rw [snakeCase, snakeCase, String.toList_ofList, snakeChars_snakeChars settles_lower]

/-- Digits are no capitals, and a run of capitals is taken apart. -/
example : snakeCase "tradeTimeUTC2x" = "trade_time_u_t_c2x" := by decide +kernel

end DerivedQuery
