import DerivedQuery.Proofs.LetterCase
import DerivedQuery.QueryName.Reader

/-!
Cutting a text into the pieces that it was joined from. A delimiter whose words are words of the
text cuts nowhere else than where such a word stands.
-/

namespace DerivedQuery.Text

variable {sep : Char} {f : List Char}

theorem fields_of_notMem (h : sep ∉ f) : fields sep f = [f] := by
  induction f with
  | nil => rfl
  | cons c f ih =>
    obtain ⟨hc, hf⟩ := not_or.1 (List.mem_cons.not.1 h)
    rw [fields, if_neg (Ne.symm hc), ih hf]

theorem fields_append (h : sep ∉ f) (s : List Char) :
    fields sep (f ++ ([sep] ++ s)) = f :: fields sep s := by
  induction f with
  | nil => simp [fields]
  | cons c f ih =>
    obtain ⟨hc, hf⟩ := not_or.1 (List.mem_cons.not.1 h)
    rw [List.cons_append, fields, if_neg (Ne.symm hc), ih hf]

theorem fields_intercalate {fs : List (List Char)} (hne : fs ≠ []) (h : ∀ f ∈ fs, sep ∉ f) :
    fields sep ([sep].intercalate fs) = fs := by
  induction fs with
  | nil => exact absurd rfl hne
  | cons f fs ih =>
    obtain ⟨hf, hfs⟩ := List.forall_mem_cons.1 h
    cases fs with
    | nil => simpa using fields_of_notMem hf
    | cons g gs =>
      rw [List.intercalate_cons_cons, List.append_assoc, fields_append hf,
        ih (List.cons_ne_nil g gs) hfs]

end DerivedQuery.Text

namespace DerivedQuery.Text.Delimiter

variable {β : Type} {d : Delimiter β} {body b tail rest : List Char} {w : List Char × β}

/-- The delimiter looks for whole words. -/
structure Wordwise (d : Delimiter β) : Prop where
  isWord : ∀ w ∈ d.words, IsWord w.1
  follows : ∀ rest, d.follows rest = true → BeginsWord rest

/-- A text that a delimiter has nothing to cut from. -/
structure Uncut (d : Delimiter β) (body : List Char) : Prop where
  ne_nil : body ≠ []
  absent : ∀ w ∈ d.words, w.1 ∉ Text.words body

theorem start?_eq_none (hd : d.Wordwise) (hbody : d.Uncut body) (htail : BeginsWord tail)
    (hb : b <:+ body) (hne : b ≠ []) : d.start? (b ++ tail) = none := by
  rw [Option.eq_none_iff_forall_ne_some]
  rintro ⟨w, rest⟩ hstart
  obtain ⟨hw, hs, hfollows⟩ := start?_eq_some hstart
  exact hbody.absent w hw
    (mem_words_of_found (hd.isWord w hw) hb hne htail (hd.follows rest hfollows) hs)

/-- Where a word of the delimiter stands, no other one does. -/
theorem start?_append (hd : d.Wordwise) (hone : ∀ v ∈ d.words, v.1 = w.1 → v = w)
    (hw : w ∈ d.words) (hrest : d.follows rest = true) :
    d.start? (w.1 ++ rest) = some (w, rest) := by
  have hsome : (d.start? (w.1 ++ rest)).isSome = true := by
    refine List.findSome?_isSome_iff.2 ⟨w, hw, ?_⟩
    rw [dropInitial?_eq_some.2 rfl]
    simp [hrest]
  obtain ⟨⟨v, r⟩, hstart⟩ := Option.isSome_iff_exists.1 hsome
  obtain ⟨hv, hs, hfollows⟩ := start?_eq_some hstart
  have hwords : w.1 :: Text.words rest = v.1 :: Text.words r := by
    rw [← words_word_append (hd.isWord w hw) (hd.follows rest hrest), hs,
      words_word_append (hd.isWord v hv) (hd.follows r hfollows)]
  obtain rfl : v = w := hone v hv (List.cons.inj hwords).1.symm
  rw [hstart, List.append_cancel_left hs]

theorem cut?_append (hne : body ≠ [])
    (hskip : ∀ b, b <:+ body → b ≠ [] → d.start? (b ++ tail) = none)
    (hstart : d.start? tail = some (w, rest)) : d.cut? (body ++ tail) = some (body, w, rest) := by
  induction body with
  | nil => exact absurd rfl hne
  | cons c body ih =>
    rw [List.cons_append, cut?]
    cases hbody : body with
    | nil => rw [List.nil_append, hstart]
    | cons c' body' =>
      have hne' : body ≠ [] := hbody ▸ List.cons_ne_nil c' body'
      rw [← hbody, hskip body (List.suffix_cons c body) hne',
        ih hne' fun b hb hne => hskip b (hb.trans (List.suffix_cons c body)) hne]
      rfl

theorem cut?_eq_none (hnil : d.start? [] = none)
    (hskip : ∀ b, b <:+ body → b ≠ [] → d.start? b = none) : d.cut? body = none := by
  induction body with
  | nil => rfl
  | cons c body ih =>
    have hstart : d.start? body = none := by
      cases hbody : body with
      | nil => exact hnil
      | cons c' body' =>
        exact hskip (c' :: body') (hbody ▸ List.suffix_cons c body) (List.cons_ne_nil c' body')
    rw [cut?, hstart, ih fun b hb hne => hskip b (hb.trans (List.suffix_cons c body)) hne]
    rfl

theorem split_of_cut? {s piece : List Char} (h : d.cut? s = some (piece, w, rest)) :
    d.split s = (piece, some w) :: d.split rest := by
  have hne : s ≠ [] := by
    rintro rfl
    cases h
  rw [split, if_neg hne]
  split
  · next hnone => simp [h] at hnone
  · next heq =>
    rw [h] at heq
    cases heq
    rfl

theorem pieces_of_cut? {s piece : List Char} (h : d.cut? s = some (piece, w, rest)) :
    d.pieces s = piece :: d.pieces rest := by
  rw [pieces]
  split
  · next hnone => simp [h] at hnone
  · next heq =>
    rw [h] at heq
    cases heq
    rfl

theorem pieces_of_cut?_eq_none (h : d.cut? body = none) : d.pieces body = [body] := by
  rw [pieces]
  split
  · rfl
  · next heq => simp [h] at heq

/-- The first piece ends where the first word of the delimiter stands. -/
theorem cut?_word_append (hd : d.Wordwise) (hone : ∀ v ∈ d.words, v.1 = w.1 → v = w)
    (hw : w ∈ d.words) (hrest : d.follows rest = true) (hbody : d.Uncut body) :
    d.cut? (body ++ (w.1 ++ rest)) = some (body, w, rest) := by
  have htail : BeginsWord (w.1 ++ rest) :=
    (hd.isWord w hw).1.append_of_ne_nil (hd.isWord w hw).ne_nil rest
  exact cut?_append hbody.ne_nil (fun b => start?_eq_none hd hbody htail)
    (start?_append hd hone hw hrest)

theorem cut?_of_uncut (hd : d.Wordwise) (hbody : d.Uncut body) : d.cut? body = none := by
  have hnil : d.start? [] = none := by
    rw [Option.eq_none_iff_forall_ne_some]
    rintro ⟨w, rest⟩ hstart
    obtain ⟨hw, hs, -⟩ := start?_eq_some hstart
    exact (hd.isWord w hw).ne_nil (List.append_eq_nil_iff.1 hs.symm).1
  refine cut?_eq_none hnil fun b hb hne => ?_
  simpa using start?_eq_none hd hbody beginsWord_nil hb hne

end DerivedQuery.Text.Delimiter

namespace DerivedQuery.QueryName

open Text

/-- An ending is taken off again if it is no ending of another one. -/
theorem dropEnding?_append {endings : List (List Char)}
    (hone : ∀ e ∈ endings, ∀ e' ∈ endings, e <:+ e' → e = e') {e : List Char} (he : e ∈ endings)
    (s : List Char) : dropEnding? endings (s ++ e) = some s := by
  have hsome : (dropEnding? endings (s ++ e)).isSome = true := by
    refine List.findSome?_isSome_iff.2 ⟨e, he, ?_⟩
    rw [dropFinal?_eq_some.2 rfl]
    rfl
  obtain ⟨r, hr⟩ := Option.isSome_iff_exists.1 hsome
  obtain ⟨e', he', hdrop⟩ := List.exists_of_findSome?_eq_some hr
  have heq : s ++ e = r ++ e' := dropFinal?_eq_some.1 hdrop
  have hsame : e = e' := by
    rcases List.suffix_or_suffix_of_suffix ⟨s, heq⟩ (List.suffix_append r e') with h | h
    · exact hone e he e' he' h
    · exact (hone e' he' e he h).symm
  subst hsame
  rw [hr, List.append_cancel_right heq]

theorem dropEnding?_eq_none {endings : List (List Char)} {s : List Char}
    (h : ∀ e ∈ endings, ¬e <:+ s) : dropEnding? endings s = none := by
  rw [dropEnding?, List.findSome?_eq_none_iff]
  intro e he
  rw [Option.eq_none_iff_forall_ne_some]
  intro r hr
  exact h e he ⟨r, (dropFinal?_eq_some.1 hr).symm⟩

theorem wordwise_connective {word : List Char} (hword : IsWord word) :
    (connective word).Wordwise := by
  refine ⟨?_, fun _ => beginsWord_of_startsUpper⟩
  intro w hw
  obtain rfl := List.mem_singleton.1 hw
  exact hword

/-- What a word joins, it separates again, if it is none of the words joined. -/
theorem pieces_intercalate {word : List Char} (hword : IsWord word) {parts : List (List Char)}
    (hne : parts ≠ []) (hupper : ∀ p ∈ parts, startsUpper p = true)
    (habsent : ∀ p ∈ parts, word ∉ words p) :
    (connective word).pieces (word.intercalate parts) = parts := by
  have hd := wordwise_connective hword
  induction parts with
  | nil => exact absurd rfl hne
  | cons p ps ih =>
    obtain ⟨hp, hps⟩ := List.forall_mem_cons.1 hupper
    obtain ⟨hp', hps'⟩ := List.forall_mem_cons.1 habsent
    have huncut : (connective word).Uncut p := by
      refine ⟨?_, ?_⟩
      · rintro rfl
        cases hp
      · intro w hw
        obtain rfl := List.mem_singleton.1 hw
        exact hp'
    cases ps with
    | nil =>
      rw [List.intercalate_singleton]
      exact Delimiter.pieces_of_cut?_eq_none (Delimiter.cut?_of_uncut hd huncut)
    | cons q qs =>
      have hrest : startsUpper (word.intercalate (q :: qs)) = true :=
        startsUpper_intercalate (List.forall_mem_cons.1 hps).1 qs
      have hcut := Delimiter.cut?_word_append (w := (word, ())) hd (fun v _ hv => Prod.ext hv rfl)
        (List.mem_singleton.2 rfl) hrest huncut
      rw [List.intercalate_cons_cons, List.append_assoc, Delimiter.pieces_of_cut? hcut,
        ih (List.cons_ne_nil q qs) hps hps']

end DerivedQuery.QueryName
