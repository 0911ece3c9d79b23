import Mathlib.Data.List.Basic

/-!
Texts that show where they end. A name ends at the first character of another kind, and the calls
around it at their parentheses; items that show where they end still do so when they are joined.
-/

namespace DerivedQuery.Text

/-- The characters of plain names: ASCII letters, digits and the underscore. -/
def isNameChar (c : Char) : Bool := c.isAlphanum || c == '_'

def IsName (s : List Char) : Prop := ∀ c ∈ s, isNameChar c = true

instance (s : List Char) : Decidable (IsName s) :=
  decidable_of_iff (s.all isNameChar = true) List.all_eq_true

/-- A name cannot go on here, nor does a call begin. -/
def EndsName (s : List Char) : Prop := ∃ c rest, s = c :: rest ∧ isNameChar c = false ∧ c ≠ '('

theorem isName_of_cons {c : Char} {s : List Char} (h : IsName (c :: s)) :
    isNameChar c = true ∧ IsName s := List.forall_mem_cons.1 h

/-- A name ends at the first character that is not one of a name. -/
theorem name_append_inj {u v s t : List Char} {c d : Char} (hu : IsName u) (hv : IsName v)
    (hc : isNameChar c = false) (hd : isNameChar d = false)
    (h : u ++ c :: s = v ++ d :: t) : u = v ∧ c :: s = d :: t := by
  induction u generalizing v with
  | nil =>
    cases v with
    | nil => exact ⟨rfl, h⟩
    | cons b v =>
      obtain ⟨rfl, -⟩ := List.cons.inj h
      simp [(isName_of_cons hv).1] at hc
  | cons a u ih =>
    cases v with
    | nil =>
      obtain ⟨rfl, -⟩ := List.cons.inj h
      simp [(isName_of_cons hu).1] at hd
    | cons b v =>
      obtain ⟨rfl, htail⟩ := List.cons.inj h
      obtain ⟨rfl, hrest⟩ := ih (isName_of_cons hu).2 (isName_of_cons hv).2 htail
      exact ⟨rfl, hrest⟩

/-- Names of functions, each with the parenthesis that opens its call. -/
def calls (names : List (List Char)) : List Char := names.flatMap (· ++ ['('])

theorem calls_cons_append (f : List Char) (fs : List (List Char)) (s : List Char) :
    calls (f :: fs) ++ s = f ++ '(' :: (calls fs ++ s) := by
  simp [calls]

/-- The calls around a name are told from the name by their parentheses. -/
theorem calls_append_inj {fs gs : List (List Char)} {u v s t : List Char}
    (hfs : ∀ f ∈ fs, IsName f) (hgs : ∀ g ∈ gs, IsName g) (hu : IsName u) (hv : IsName v)
    (hs : EndsName s) (ht : EndsName t) (h : calls fs ++ (u ++ s) = calls gs ++ (v ++ t)) :
    fs = gs ∧ u = v ∧ s = t := by
  obtain ⟨c, s, rfl, hc, hcall⟩ := hs
  obtain ⟨d, t, rfl, hd, hdcall⟩ := ht
  have hparen : isNameChar '(' = false := by decide
  induction fs generalizing gs with
  | nil =>
    cases gs with
    | nil => exact ⟨rfl, name_append_inj hu hv hc hd h⟩
    | cons g gs =>
      have hg : IsName g := (List.forall_mem_cons.1 hgs).1
      rw [calls_cons_append] at h
      obtain ⟨-, hrest⟩ := name_append_inj hu hg hc hparen h
      exact absurd (List.cons.inj hrest).1 hcall
  | cons f fs ih =>
    obtain ⟨hf, hfs'⟩ := List.forall_mem_cons.1 hfs
    rw [calls_cons_append] at h
    cases gs with
    | nil =>
      obtain ⟨-, hrest⟩ := name_append_inj hf hv hparen hd h
      exact absurd (List.cons.inj hrest).1.symm hdcall
    | cons g gs =>
      obtain ⟨hg, hgs'⟩ := List.forall_mem_cons.1 hgs
      rw [calls_cons_append] at h
      obtain ⟨rfl, hrest⟩ := name_append_inj hf hg hparen hparen h
      obtain ⟨rfl, hends⟩ := ih hfs' hgs' (List.cons.inj hrest).2
      exact ⟨rfl, hends⟩

/-- The text of a good item shows what the item is and where the text ends, as long as what follows
is one of `Ends`. -/
def SelfDelimiting {α β : Type} (item : α → List Char) (shown : α → β) (Good : α → Prop)
    (Ends : List Char → Prop) : Prop :=
  ∀ x y, Good x → Good y → ∀ s t, Ends s → Ends t →
    item x ++ s = item y ++ t → shown x = shown y ∧ s = t

theorem intercalate_cons_cons_append {α : Type} (item : α → List Char) (sep s : List Char)
    (x y : α) (ys : List α) :
    sep.intercalate ((x :: y :: ys).map item) ++ s =
      item x ++ (sep ++ (sep.intercalate ((y :: ys).map item) ++ s)) := by
  simp [List.intercalate_cons_cons]

/-- Joined items are told apart too, as long as what stands between them does not begin what follows
the last. -/
theorem SelfDelimiting.intercalate_inj {α β : Type} {item : α → List Char} {shown : α → β}
    {Good : α → Prop} {Ends : List Char → Prop} (hitem : SelfDelimiting item shown Good Ends)
    {sep : List Char} (hsep : ∀ s, Ends (sep ++ s)) {xs ys : List α} (hxs : ∀ x ∈ xs, Good x)
    (hys : ∀ y ∈ ys, Good y) (hxne : xs ≠ []) (hyne : ys ≠ []) {s t : List Char} (hs : Ends s)
    (ht : Ends t) (hnots : ¬sep <+: s) (hnott : ¬sep <+: t)
    (h : sep.intercalate (xs.map item) ++ s = sep.intercalate (ys.map item) ++ t) :
    xs.map shown = ys.map shown ∧ s = t := by
  induction xs generalizing ys with
  | nil => exact absurd rfl hxne
  | cons x xs ih =>
    obtain ⟨hx, hxs⟩ := List.forall_mem_cons.1 hxs
    cases ys with
    | nil => exact absurd rfl hyne
    | cons y ys =>
      obtain ⟨hy, hys⟩ := List.forall_mem_cons.1 hys
      cases xs with
      | nil =>
        cases ys with
        | nil =>
          obtain ⟨hshown, hend⟩ := hitem x y hx hy s t hs ht (by simpa using h)
          exact ⟨by simp [hshown], hend⟩
        | cons y' ys =>
          rw [intercalate_cons_cons_append] at h
          obtain ⟨-, hend⟩ := hitem x y hx hy s _ hs (hsep _) (by simpa using h)
          exact absurd ⟨_, hend.symm⟩ hnots
      | cons x' xs =>
        rw [intercalate_cons_cons_append] at h
        cases ys with
        | nil =>
          obtain ⟨-, hend⟩ := hitem x y hx hy _ t (hsep _) ht (by simpa using h)
          exact absurd ⟨_, hend⟩ hnott
        | cons y' ys =>
          rw [intercalate_cons_cons_append] at h
          obtain ⟨hshown, hrest⟩ := hitem x y hx hy _ _ (hsep _) (hsep _) h
          obtain ⟨htail, hend⟩ :=
            ih hxs hys (by simp) (by simp) (List.append_cancel_left hrest)
          exact ⟨by rw [List.map_cons, htail, hshown, ← List.map_cons], hend⟩

end DerivedQuery.Text
