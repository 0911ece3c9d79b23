import Mathlib.Data.List.SplitBy
import Mathlib.Data.List.Infix
import DerivedQuery.Text.Digits
import DerivedQuery.Text.Search

/-!
The words of a name. A search knows nothing of words, but what it looks for begins like a word, so
in a text without that word it finds nothing.
-/

namespace DerivedQuery.Text

/-- A lower-case letter or a digit, which goes on the word that stands before it. -/
def continuesWord (c : Char) : Bool := decide ('a' ≤ c) && decide (c ≤ 'z') || isDigit c

def words (s : List Char) : List (List Char) := s.splitBy fun _ c => continuesWord c

/-- What stands before this text is not gone on with. -/
def BeginsWord (s : List Char) : Prop := ∀ c ∈ s.head?, continuesWord c = false

instance : (s : List Char) → Decidable (BeginsWord s)
  | [] => isTrue (by simp [BeginsWord])
  | c :: _ => decidable_of_iff (continuesWord c = false) (by simp [BeginsWord])

/-- One word, from its beginning on. -/
def IsWord (w : List Char) : Prop := BeginsWord w ∧ words w = [w]

instance (w : List Char) : Decidable (IsWord w) :=
  inferInstanceAs (Decidable (BeginsWord w ∧ words w = [w]))

variable {s t w body b tail rest : List Char}

theorem beginsWord_nil : BeginsWord [] := by simp [BeginsWord]

theorem beginsWord_cons {c : Char} (h : continuesWord c = false) (s : List Char) :
    BeginsWord (c :: s) := by
  simpa [BeginsWord] using h

theorem BeginsWord.append (hs : BeginsWord s) (ht : BeginsWord t) : BeginsWord (s ++ t) := by
  cases s with
  | nil => exact ht
  | cons c s => exact hs

theorem BeginsWord.append_of_ne_nil (hs : BeginsWord s) (hne : s ≠ []) (t : List Char) :
    BeginsWord (s ++ t) := by
  cases s with
  | nil => exact absurd rfl hne
  | cons c s => exact hs

theorem BeginsWord.of_append (h : BeginsWord (s ++ t)) : BeginsWord s := by
  cases s with
  | nil => exact beginsWord_nil
  | cons c s => exact h

theorem words_append (s : List Char) (ht : BeginsWord t) : words (s ++ t) = words s ++ words t :=
  List.splitBy_append fun _ _ c hc => ht c hc

theorem mem_words_append_iff (ht : BeginsWord t) :
    w ∈ words (s ++ t) ↔ w ∈ words s ∨ w ∈ words t := by
  rw [words_append s ht, List.mem_append]

theorem words_ne_nil (h : s ≠ []) : words s ≠ [] := List.splitBy_ne_nil.2 h

theorem isWord_cons {c : Char} {s : List Char} (hc : continuesWord c = false)
    (hs : ∀ d ∈ s, continuesWord d = true) : IsWord (c :: s) := by
  refine ⟨beginsWord_cons hc s, List.splitBy_of_isChain (List.cons_ne_nil c s) ?_⟩
  clear hc
  induction s generalizing c with
  | nil => exact .singleton c
  | cons d s ih =>
    exact .cons_cons (hs d List.mem_cons_self) (ih fun e he => hs e (List.mem_cons_of_mem d he))

theorem IsWord.ne_nil (h : IsWord w) : w ≠ [] := by
  rintro rfl
  cases h.2

theorem words_word_append (hw : IsWord w) (ht : BeginsWord t) : words (w ++ t) = w :: words t := by
  rw [words_append w ht, hw.2, List.singleton_append]

theorem BeginsWord.intercalate {parts : List (List Char)} (hs : BeginsWord s)
    (h : ∀ p ∈ parts, BeginsWord p) : BeginsWord (s.intercalate parts) := by
  induction parts with
  | nil => exact beginsWord_nil
  | cons p ps ih =>
    obtain ⟨hp, hps⟩ := List.forall_mem_cons.1 h
    cases ps with
    | nil => simpa using hp
    | cons q qs =>
      rw [List.intercalate_cons_cons]
      exact (hp.append hs).append (ih hps)

/-- Joining texts by a word adds no other word. -/
theorem notMem_words_intercalate {parts : List (List Char)} (hs : IsWord s) (hne : w ≠ s)
    (hbegins : ∀ p ∈ parts, BeginsWord p) (habsent : ∀ p ∈ parts, w ∉ words p) :
    w ∉ words (s.intercalate parts) := by
  induction parts with
  | nil => exact List.not_mem_nil
  | cons p ps ih =>
    obtain ⟨-, hps⟩ := List.forall_mem_cons.1 hbegins
    obtain ⟨hp', hps'⟩ := List.forall_mem_cons.1 habsent
    cases ps with
    | nil => simpa using hp'
    | cons q qs =>
      rw [List.intercalate_cons_cons, mem_words_append_iff (.intercalate hs.1 hps),
        mem_words_append_iff hs.1, hs.2, List.mem_singleton]
      rintro ((hw | hw) | hw)
      · exact hp' hw
      · exact hne hw
      · exact ih hps hps' hw

/-- A word found from inside a text on is a word of that text. -/
theorem mem_words_of_found (hw : IsWord w) (hb : b <:+ body) (hne : b ≠ [])
    (htail : BeginsWord tail) (hrest : BeginsWord rest) (h : b ++ tail = w ++ rest) :
    w ∈ words body := by
  obtain ⟨a, rfl⟩ := hb
  have hbegins : BeginsWord b := by
    refine BeginsWord.of_append (t := tail) ?_
    rw [h]
    exact hw.1.append_of_ne_nil hw.ne_nil rest
  have hwords : words b ++ words tail = w :: words rest := by
    rw [← words_append b htail, h, words_word_append hw hrest]
  rw [words_append a hbegins, List.mem_append]
  right
  cases hb : words b with
  | nil => exact absurd hb (words_ne_nil hne)
  | cons v vs =>
    rw [hb] at hwords
    exact (List.cons.inj hwords).1 ▸ List.mem_cons_self

/-- The words of an ending are words of the text. -/
theorem words_subset_of_suffix (hs : s <:+ t) (hbegins : BeginsWord s) : words s ⊆ words t := by
  obtain ⟨a, rfl⟩ := hs
  rw [words_append a hbegins]
  exact List.subset_append_right _ _

theorem splitFirst?_append (hw : w ≠ [])
    (h : ∀ b, b <:+ body → b ≠ [] → dropInitial? w (b ++ (w ++ rest)) = none) :
    splitFirst? w (body ++ (w ++ rest)) = some (body, rest) := by
  induction body with
  | nil =>
    obtain ⟨c, w', rfl⟩ := List.exists_cons_of_ne_nil hw
    have hfound : dropInitial? (c :: w') (c :: (w' ++ rest)) = some rest :=
      dropInitial?_eq_some.2 rfl
    simp only [List.nil_append, List.cons_append, splitFirst?, hfound]
  | cons c body ih =>
    have hhere := h (c :: body) (List.suffix_refl _) (List.cons_ne_nil c body)
    rw [List.cons_append] at hhere ⊢
    rw [splitFirst?, hhere, ih fun b hb hne => h b (hb.trans (List.suffix_cons c body)) hne]
    rfl

theorem splitFirst?_eq_none (hw : w ≠ [])
    (h : ∀ b, b <:+ body → b ≠ [] → dropInitial? w b = none) : splitFirst? w body = none := by
  induction body with
  | nil => cases w with
    | nil => exact absurd rfl hw
    | cons c w => rfl
  | cons c body ih =>
    rw [splitFirst?, h (c :: body) (List.suffix_refl _) (List.cons_ne_nil c body),
      ih fun b hb hne => h b (hb.trans (List.suffix_cons c body)) hne]
    rfl

/-- A text is found nowhere before its first character. -/
theorem dropInitial?_of_notMem {c : Char} (h : c ∉ body) (w tail : List Char) (hb : b <:+ body)
    (hne : b ≠ []) : dropInitial? (c :: w) (b ++ tail) = none := by
  obtain ⟨d, b', rfl⟩ := List.exists_cons_of_ne_nil hne
  have hd : c ≠ d := fun heq => h (heq ▸ hb.subset List.mem_cons_self)
  simp [dropInitial?, hd]

theorem splitFirst?_append_of_notMem {c : Char} (h : c ∉ body) (w rest : List Char) :
    splitFirst? (c :: w) (body ++ (c :: w ++ rest)) = some (body, rest) :=
  splitFirst?_append (List.cons_ne_nil c w) fun _ => dropInitial?_of_notMem h w _

theorem splitFirst?_of_notMem {c : Char} (h : c ∉ body) (w : List Char) :
    splitFirst? (c :: w) body = none := by
  refine splitFirst?_eq_none (List.cons_ne_nil c w) fun b hb hne => ?_
  simpa using dropInitial?_of_notMem h w [] hb hne

theorem notMem_intercalate {c : Char} {parts : List (List Char)} (hs : c ∉ s)
    (h : ∀ p ∈ parts, c ∉ p) : c ∉ s.intercalate parts := by
  induction parts with
  | nil => exact List.not_mem_nil
  | cons p ps ih =>
    obtain ⟨hp, hps⟩ := List.forall_mem_cons.1 h
    cases ps with
    | nil => simpa using hp
    | cons q qs =>
      rw [List.intercalate_cons_cons, List.mem_append, List.mem_append]
      rintro ((hc | hc) | hc)
      · exact hp hc
      · exact hs hc
      · exact ih hps hc

end DerivedQuery.Text
