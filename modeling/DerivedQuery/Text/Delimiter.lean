import DerivedQuery.Text.Search

/-!
Cutting a text at words. A word counts only after at least one character of the piece that it ends,
and only before what its delimiter allows to follow.
-/

namespace DerivedQuery.Text

/-- Words that end a piece, with what each stands for, and the test of what follows such a word. -/
structure Delimiter (β : Type) where
  words : List (List Char × β)
  follows : List Char → Bool

namespace Delimiter

variable {β : Type}

/-- The word of the delimiter that a text begins with, and the text after it. -/
def start? (d : Delimiter β) (s : List Char) : Option ((List Char × β) × List Char) :=
  d.words.findSome? fun w =>
    match dropInitial? w.1 s with
    | some rest => if d.follows rest then some (w, rest) else none
    | none => none

/-- The first piece that a word ends, the word, and the rest. -/
def cut? (d : Delimiter β) : List Char → Option (List Char × (List Char × β) × List Char)
  | [] => none
  | c :: s =>
    match d.start? s with
    | some (w, rest) => some ([c], w, rest)
    | none => (d.cut? s).map fun (piece, w, rest) => (c :: piece, w, rest)

theorem start?_eq_some {d : Delimiter β} {s rest : List Char} {w : List Char × β}
    (h : d.start? s = some (w, rest)) : w ∈ d.words ∧ s = w.1 ++ rest ∧ d.follows rest = true := by
  obtain ⟨v, hv, he⟩ := List.exists_of_findSome?_eq_some h
  split at he
  · rename_i r hr
    split at he
    · rename_i hf
      simp only [Option.some.injEq, Prod.mk.injEq] at he
      obtain ⟨rfl, rfl⟩ := he
      exact ⟨hv, dropInitial?_eq_some.1 hr, hf⟩
    · simp at he
  · simp at he

theorem cut?_eq_some {d : Delimiter β} {s piece rest : List Char} {w : List Char × β}
    (h : d.cut? s = some (piece, w, rest)) :
    piece ≠ [] ∧ w ∈ d.words ∧ s = piece ++ w.1 ++ rest ∧ d.follows rest = true := by
  induction s generalizing piece with
  | nil => simp [cut?] at h
  | cons c s ih =>
    simp only [cut?] at h
    split at h
    · rename_i v r hr
      simp only [Option.some.injEq, Prod.mk.injEq] at h
      obtain ⟨rfl, rfl, rfl⟩ := h
      obtain ⟨hw, hs, hf⟩ := start?_eq_some hr
      exact ⟨by simp, hw, by simp [hs], hf⟩
    · obtain ⟨⟨p, v, r⟩, hp, he⟩ := Option.map_eq_some_iff.1 h
      simp only [Prod.mk.injEq] at he
      obtain ⟨rfl, rfl, rfl⟩ := he
      obtain ⟨_, hw, hs, hf⟩ := ih hp
      exact ⟨by simp, hw, by simp [hs], hf⟩

theorem length_lt_of_cut? {d : Delimiter β} {s piece rest : List Char} {w : List Char × β}
    (h : d.cut? s = some (piece, w, rest)) : rest.length < s.length := by
  obtain ⟨hp, _, hs, _⟩ := cut?_eq_some h
  have : 0 < piece.length := List.length_pos_iff.2 hp
  simp [hs]
  omega

/-- The pieces in order, each with the word that ends it; the last has none unless the text ends
with a word. -/
def split (d : Delimiter β) (s : List Char) : List (List Char × Option (List Char × β)) :=
  if s = [] then []
  else
    match _h : d.cut? s with
    | none => [(s, none)]
    | some (piece, w, rest) => (piece, some w) :: d.split rest
termination_by s.length
decreasing_by exact length_lt_of_cut? _h

/-- The texts between the words, one more than there are words. -/
def pieces (d : Delimiter β) (s : List Char) : List (List Char) :=
  match _h : d.cut? s with
  | none => [s]
  | some (piece, _, rest) => piece :: d.pieces rest
termination_by s.length
decreasing_by exact length_lt_of_cut? _h

@[simp] theorem split_nil (d : Delimiter β) : d.split [] = [] := by
  rw [split]
  simp

/-- No piece is empty if a word only counts before some text. -/
theorem ne_nil_of_mem_pieces {d : Delimiter β}
    (hfollows : ∀ rest, d.follows rest = true → rest ≠ [])
    {s piece : List Char} (hs : s ≠ []) (h : piece ∈ d.pieces s) : piece ≠ [] := by
  fun_induction pieces d s with
  | case1 s hc =>
    rw [List.mem_singleton.1 h]
    exact hs
  | case2 s first w rest hc ih =>
    obtain ⟨hfirst, -, -, hrest⟩ := cut?_eq_some hc
    rcases List.mem_cons.1 h with rfl | h
    · exact hfirst
    · exact ih (hfollows rest hrest) h

end Delimiter

end DerivedQuery.Text
