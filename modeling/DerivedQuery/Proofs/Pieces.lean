import Mathlib.Data.List.Infix
import DerivedQuery.Text.Delimiter

/-!
What a delimiter cuts off: the shortest piece that one of its words ends. Where a word counts before
a text, it counts before every longer one too, no piece can be cut any further.
-/

namespace DerivedQuery.Text.Delimiter

variable {β : Type} {d : Delimiter β} {c : Char} {s t piece piece' rest rest' : List Char}
  {w w' : List Char × β}

/-- A word of the delimiter ends this piece of `s`. -/
structure Ends (d : Delimiter β) (s piece : List Char) (w : List Char × β) (rest : List Char) :
    Prop where
  ne_nil : piece ≠ []
  mem : w ∈ d.words
  text : s = piece ++ (w.1 ++ rest)
  follows : d.follows rest = true

/-- No word of the delimiter ends a piece of `s`. -/
def Whole (d : Delimiter β) (s : List Char) : Prop := ∀ piece w rest, ¬d.Ends s piece w rest

theorem start?_eq_none_iff :
    d.start? s = none ↔ ∀ w ∈ d.words, ∀ rest, s = w.1 ++ rest → d.follows rest = false := by
  rw [start?, List.findSome?_eq_none_iff]
  refine forall₂_congr fun w _ => ?_
  cases hdrop : dropInitial? w.1 s with
  | none =>
    refine ⟨fun _ rest hs => ?_, fun _ => rfl⟩
    rw [dropInitial?_eq_some.2 hs] at hdrop
    cases hdrop
  | some r =>
    have hs := dropInitial?_eq_some.1 hdrop
    have hrest : ∀ rest, s = w.1 ++ rest ↔ rest = r := by
      intro rest
      rw [hs, List.append_cancel_left_eq, eq_comm]
    simp [hrest]

/-- A piece is either the first character or goes on behind it. -/
theorem ends_cons_iff :
    d.Ends (c :: s) piece w rest ↔
      (piece = [c] ∧ w ∈ d.words ∧ s = w.1 ++ rest ∧ d.follows rest = true) ∨
        ∃ piece', piece = c :: piece' ∧ d.Ends s piece' w rest := by
  constructor
  · rintro ⟨hne, hw, hs, hfollows⟩
    obtain ⟨c', piece', rfl⟩ := List.exists_cons_of_ne_nil hne
    obtain ⟨rfl, htail⟩ := List.cons.inj hs
    by_cases hnil : piece' = []
    · subst hnil
      exact Or.inl ⟨rfl, hw, htail, hfollows⟩
    · exact Or.inr ⟨piece', rfl, hnil, hw, htail, hfollows⟩
  · rintro (⟨rfl, hw, rfl, hfollows⟩ | ⟨piece', rfl, -, hw, rfl, hfollows⟩)
    · exact ⟨List.cons_ne_nil c [], hw, rfl, hfollows⟩
    · exact ⟨List.cons_ne_nil c piece', hw, rfl, hfollows⟩

theorem ends_of_cut? (h : d.cut? s = some (piece, w, rest)) : d.Ends s piece w rest := by
  obtain ⟨hne, hw, hs, hfollows⟩ := cut?_eq_some h
  exact ⟨hne, hw, by rw [hs, List.append_assoc], hfollows⟩

theorem cut?_eq_none_iff : d.cut? s = none ↔ d.Whole s := by
  induction s with
  | nil =>
    refine ⟨fun _ piece w rest hends => ?_, fun _ => rfl⟩
    exact hends.ne_nil (List.append_eq_nil_iff.1 hends.text.symm).1
  | cons c s ih =>
    rw [cut?]
    cases hstart : d.start? s with
    | some found =>
      obtain ⟨w, rest⟩ := found
      obtain ⟨hw, hs, hfollows⟩ := start?_eq_some hstart
      simp only [reduceCtorEq, false_iff]
      intro hwhole
      exact hwhole [c] w rest (ends_cons_iff.2 (Or.inl ⟨rfl, hw, hs, hfollows⟩))
    | none =>
      simp only [Option.map_eq_none_iff, ih]
      constructor
      · intro hwhole piece w rest hends
        rcases ends_cons_iff.1 hends with ⟨-, hw, hs, hfollows⟩ | ⟨piece', -, hends'⟩
        · rw [start?_eq_none_iff.1 hstart w hw rest hs] at hfollows
          cases hfollows
        · exact hwhole piece' w rest hends'
      · intro hwhole piece w rest hends
        exact hwhole (c :: piece) w rest (ends_cons_iff.2 (Or.inr ⟨piece, rfl, hends⟩))

/-- No shorter piece is ended by a word. -/
theorem length_le_of_cut? (h : d.cut? s = some (piece, w, rest))
    (hends : d.Ends s piece' w' rest') : piece.length ≤ piece'.length := by
  induction s generalizing piece piece' with
  | nil => cases h
  | cons c s ih =>
    rw [cut?] at h
    cases hstart : d.start? s with
    | some found =>
      rw [hstart] at h
      cases h
      exact List.length_pos_iff.2 hends.ne_nil
    | none =>
      rw [hstart] at h
      obtain ⟨⟨p, v, r⟩, hcut, heq⟩ := Option.map_eq_some_iff.1 h
      cases heq
      rcases ends_cons_iff.1 hends with ⟨-, hw, hs, hfollows⟩ | ⟨p', rfl, hends'⟩
      · rw [start?_eq_none_iff.1 hstart w' hw rest' hs] at hfollows
        cases hfollows
      · exact Nat.succ_le_succ (ih hcut hends')

theorem isInfix_of_mem_pieces (h : piece ∈ d.pieces s) : piece <:+: s := by
  fun_induction pieces d s with
  | case1 s hcut => rw [List.mem_singleton.1 h]
  | case2 s first w rest hcut ih =>
    have hs := (ends_of_cut? hcut).text
    rcases List.mem_cons.1 h with rfl | h
    · exact hs ▸ (List.prefix_append _ _).isInfix
    · have hrest : rest <:+ s := ⟨first ++ w.1, by rw [hs, List.append_assoc]⟩
      exact (ih h).trans hrest.isInfix

/-- A word counts before some text only, and then whatever comes behind that text. -/
structure LooksAhead (d : Delimiter β) : Prop where
  ne_nil : ∀ rest, d.follows rest = true → rest ≠ []
  append : ∀ rest t, d.follows rest = true → d.follows (rest ++ t) = true

theorem Ends.append (hd : d.LooksAhead) (h : d.Ends s piece w rest) (a b : List Char) :
    d.Ends (a ++ s ++ b) (a ++ piece) w (rest ++ b) := by
  refine ⟨List.append_ne_nil_of_right_ne_nil a h.ne_nil, h.mem, ?_, hd.append rest b h.follows⟩
  simp only [h.text, List.append_assoc]

theorem Whole.of_isInfix (hd : d.LooksAhead) (hs : d.Whole s) (h : t <:+: s) : d.Whole t := by
  obtain ⟨a, b, rfl⟩ := h
  intro piece w rest hends
  exact hs _ w _ (hends.append hd a b)

/-- A piece cannot be cut, since the word that ends it would have come too late. -/
theorem whole_of_mem_pieces (hd : d.LooksAhead) (h : piece ∈ d.pieces s) : d.Whole piece := by
  fun_induction pieces d s with
  | case1 s hcut =>
    rw [List.mem_singleton.1 h]
    exact cut?_eq_none_iff.1 hcut
  | case2 s first w rest hcut ih =>
    rcases List.mem_cons.1 h with rfl | h
    · intro piece' w' rest' hends
      have hs : s = [] ++ piece ++ (w.1 ++ rest) := (ends_of_cut? hcut).text
      have hle := length_le_of_cut? hcut (hs ▸ hends.append hd [] (w.1 ++ rest))
      have hlength := congrArg List.length hends.text
      have hpos := List.length_pos_iff.2 (hd.ne_nil rest' hends.follows)
      simp only [List.nil_append, List.length_append] at hle hlength
      omega
    · exact ih h

end DerivedQuery.Text.Delimiter
