import Mathlib.Data.List.Nodup
import DerivedQuery.Operator
import DerivedQuery.Proofs.Words

/-!
The operator of a clause: the longest keyword that the clause ends with chooses it. No two operators
share a keyword, so there is one such choice, and the order in which keywords are tried does not
matter. Where no word of a property is a word of a keyword, the keyword that was written after the
property is the longest one to be found.
-/

namespace DerivedQuery.Operator

open Text

/-- The words that keywords are made of. -/
def keywordWords : List (List Char) := vocabulary.flatMap fun e => words e.1

/-- The clause ends with the keyword and has a property before it. -/
def Ends (clause : List Char) (e : List Char × Operator) : Prop :=
  ∃ property, property ≠ [] ∧ clause = property ++ e.1

/-- Keywords with their operators, in the order of a table of operators and of the list of keywords
that it gives to each of them. -/
def entriesOf (operators : List Operator) (keywordsOf : Operator → List String) :
    List (List Char × Operator) :=
  operators.flatMap fun op => (keywordsOf op).map fun k => (k.toList, op)

/-- The property of a clause and its operator, by the keywords of these tables. -/
def detectAmong (operators : List Operator) (keywordsOf : Operator → List String)
    (clause : List Char) : List Char × Operator :=
  match (entriesOf operators keywordsOf).foldl (longest clause) none with
  | some (_, property, op) => (property, op)
  | none => (clause, .equals)

theorem detect_eq_detectAmong (clause : List Char) :
    detect clause = detectAmong all keywords clause := rfl

/-- The clause is read as this property and this operator: no operator has a keyword to end the
clause with, or the keyword is the longest one that any operator has. -/
inductive Reads (clause : List Char) : List Char → Operator → Prop
  | plain (absent : ∀ (op : Operator), ∀ k ∈ op.keywords, ¬Ends clause (k.toList, op)) :
    Reads clause clause .equals
  | keyword {property : List Char} {op : Operator} {k : String} (mem : k ∈ op.keywords)
      (ne_nil : property ≠ []) (text : clause = property ++ k.toList)
      (longest : ∀ (op' : Operator), ∀ k' ∈ op'.keywords, Ends clause (k'.toList, op') →
        k'.toList.length ≤ k.toList.length) :
    Reads clause property op

/-- What the entries tried so far have given: nothing where none of them ends the clause, else one
that is as long as any of them. -/
inductive Best (clause : List Char) (tried : List (List Char × Operator)) :
    Option (List Char × List Char × Operator) → Prop
  | none (absent : ∀ e ∈ tried, ¬Ends clause e) : Best clause tried none
  | some {k property : List Char} {op : Operator} (mem : (k, op) ∈ tried)
      (ne_nil : property ≠ []) (text : clause = property ++ k)
      (longest : ∀ e ∈ tried, Ends clause e → e.1.length ≤ k.length) :
    Best clause tried (some (k, property, op))

variable {clause property property' : List Char} {op op' : Operator} {k : String}
  {e : List Char × Operator} {tried entries : List (List Char × Operator)}
  {best : Option (List Char × List Char × Operator)} {operators : List Operator}
  {keywordsOf : Operator → List String}

theorem longest_of_not_ends (h : ¬Ends clause e) : longest clause best e = best := by
  unfold longest
  cases hdrop : dropFinal? e.1 clause with
  | none => rfl
  | some property =>
    have hproperty : property = [] := by
      by_contra hne
      exact h ⟨property, hne, dropFinal?_eq_some.1 hdrop⟩
    simp [hproperty]

theorem longest_of_ends (hne : property ≠ []) (hclause : clause = property ++ e.1)
    (hbest : ∀ b ∈ best, b.1.length < e.1.length) :
    longest clause best e = some (e.1, property, e.2) := by
  unfold longest
  rw [dropFinal?_eq_some.2 hclause]
  cases best with
  | none => simp [hne]
  | some b => simp [hne, hbest b rfl]

/-- A keyword that is no longer than the one found does not take its place. -/
theorem longest_of_le {found : List Char × List Char × Operator}
    (h : Ends clause e → e.1.length ≤ found.1.length) :
    longest clause (some found) e = some found := by
  by_cases hends : Ends clause e
  · obtain ⟨property, hne, hclause⟩ := hends
    unfold longest
    rw [dropFinal?_eq_some.2 hclause]
    simp [hne, Nat.not_lt.2 (h ⟨property, hne, hclause⟩)]
  · exact longest_of_not_ends hends

/-- One more entry is tried: it is taken where it ends the clause and is longer than the best so
far. -/
theorem Best.step (h : Best clause tried best) (e : List Char × Operator) :
    Best clause (tried ++ [e]) (Operator.longest clause best e) := by
  by_cases hends : Ends clause e
  · obtain ⟨property, hne, hclause⟩ := hends
    cases h with
    | none absent =>
      rw [longest_of_ends hne hclause (by simp)]
      refine .some (by simp) hne hclause fun e' he' hends' => ?_
      rcases List.mem_append.1 he' with he' | he'
      · exact absurd hends' (absent e' he')
      · rw [List.mem_singleton.1 he']
    | @some k property' op mem ne_nil text longest =>
      by_cases hlt : k.length < e.1.length
      · rw [longest_of_ends hne hclause (by simpa using hlt)]
        refine .some (by simp) hne hclause fun e' he' hends' => ?_
        rcases List.mem_append.1 he' with he' | he'
        · exact (longest e' he' hends').trans hlt.le
        · rw [List.mem_singleton.1 he']
      · rw [longest_of_le fun _ => Nat.not_lt.1 hlt]
        refine .some (List.mem_append_left _ mem) ne_nil text fun e' he' hends' => ?_
        rcases List.mem_append.1 he' with he' | he'
        · exact longest e' he' hends'
        · rw [List.mem_singleton.1 he']
          exact Nat.not_lt.1 hlt
  · rw [longest_of_not_ends hends]
    have hnot : ∀ e' ∈ tried ++ [e], Ends clause e' → e' ∈ tried := by
      intro e' he' hends'
      rcases List.mem_append.1 he' with he' | he'
      · exact he'
      · exact absurd (List.mem_singleton.1 he' ▸ hends') hends
    cases h with
    | none absent => exact .none fun e' he' hends' => absent e' (hnot e' he' hends') hends'
    | some mem ne_nil text longest =>
      exact .some (List.mem_append_left _ mem) ne_nil text fun e' he' hends' =>
        longest e' (hnot e' he' hends') hends'

theorem Best.foldl (h : Best clause tried best) (entries : List (List Char × Operator)) :
    Best clause (tried ++ entries) (entries.foldl (Operator.longest clause) best) := by
  induction entries generalizing tried best with
  | nil => simpa using h
  | cons e es ih => simpa using ih (h.step e)

theorem best_entries (clause : List Char) (entries : List (List Char × Operator)) :
    Best clause entries (entries.foldl (longest clause) none) := by
  have hnone : Best clause [] none := .none fun e he => absurd he List.not_mem_nil
  simpa using hnone.foldl entries

theorem mem_entriesOf : e ∈ entriesOf operators keywordsOf ↔
    e.2 ∈ operators ∧ ∃ k ∈ keywordsOf e.2, k.toList = e.1 := by
  simp only [entriesOf, List.mem_flatMap, List.mem_map]
  constructor
  · rintro ⟨op, hop, k, hk, rfl⟩
    exact ⟨hop, k, hk, rfl⟩
  · rintro ⟨hop, k, hk, htext⟩
    exact ⟨e.2, hop, k, hk, by rw [htext]⟩

theorem mem_vocabulary : e ∈ vocabulary ↔ ∃ k ∈ e.2.keywords, k.toList = e.1 :=
  mem_entriesOf.trans (and_iff_right e.2.mem_all)

/-- Tables with the same keywords for each operator read every clause as its longest keyword
says. -/
theorem reads_detectAmong (hoperators : ∀ op, op ∈ operators)
    (hkeywords : ∀ op k, k ∈ keywordsOf op ↔ k ∈ op.keywords) (clause : List Char) :
    Reads clause (detectAmong operators keywordsOf clause).1
      (detectAmong operators keywordsOf clause).2 := by
  have hmem : ∀ (op : Operator), ∀ k ∈ op.keywords,
      (k.toList, op) ∈ entriesOf operators keywordsOf := fun op k hk =>
    mem_entriesOf.2 ⟨hoperators op, k, (hkeywords op k).2 hk, rfl⟩
  have hbest := best_entries clause (entriesOf operators keywordsOf)
  rw [detectAmong]
  generalize (entriesOf operators keywordsOf).foldl (longest clause) none = best at hbest
  cases hbest with
  | none absent => exact .plain fun op k hk => absent _ (hmem op k hk)
  | some mem ne_nil text longest =>
    obtain ⟨-, k, hk, rfl⟩ := mem_entriesOf.1 mem
    exact .keyword ((hkeywords _ k).1 hk) ne_nil text fun op' k' hk' hends =>
      longest _ (hmem op' k' hk') hends

theorem beginsWord_of_mem_vocabulary : ∀ e ∈ vocabulary, e.1 ≠ [] ∧ BeginsWord e.1 := by decide

theorem nodup_vocabulary : (vocabulary.map (·.1)).Nodup := by decide +kernel

theorem operator_of_keyword (h : k ∈ op.keywords) (h' : k ∈ op'.keywords) : op = op' := by
  have hmem : (k.toList, op) ∈ vocabulary := mem_vocabulary.2 ⟨k, h, rfl⟩
  have hmem' : (k.toList, op') ∈ vocabulary := mem_vocabulary.2 ⟨k, h', rfl⟩
  exact congrArg Prod.snd (List.inj_on_of_nodup_map nodup_vocabulary hmem hmem' rfl)

/-- Two keywords as long as any that ends the clause are the same keyword, hence of the same
operator. -/
theorem Reads.unique (h : Reads clause property op) (h' : Reads clause property' op') :
    property = property' ∧ op = op' := by
  cases h with
  | plain absent =>
    cases h' with
    | plain => exact ⟨rfl, rfl⟩
    | keyword mem ne_nil text => exact absurd ⟨_, ne_nil, text⟩ (absent _ _ mem)
  | @keyword _ _ k mem ne_nil text longest =>
    cases h' with
    | plain absent => exact absurd ⟨_, ne_nil, text⟩ (absent _ _ mem)
    | @keyword _ _ k' mem' ne_nil' text' longest' =>
      have hlength : k.toList.length = k'.toList.length :=
        Nat.le_antisymm (longest' _ _ mem ⟨_, ne_nil, text⟩) (longest _ _ mem' ⟨_, ne_nil', text'⟩)
      obtain ⟨hproperty, hkeyword⟩ := List.append_inj' (text.symm.trans text') hlength
      obtain rfl := String.toList_injective hkeyword
      exact ⟨hproperty, operator_of_keyword mem mem'⟩

theorem detectAmong_eq_iff (hoperators : ∀ op, op ∈ operators)
    (hkeywords : ∀ op k, k ∈ keywordsOf op ↔ k ∈ op.keywords) :
    detectAmong operators keywordsOf clause = (property, op) ↔ Reads clause property op := by
  have hreads := reads_detectAmong hoperators hkeywords clause
  constructor
  · intro h
    rwa [h] at hreads
  · intro h
    obtain ⟨hproperty, hop⟩ := hreads.unique h
    exact Prod.ext hproperty hop

theorem detect_eq_iff_reads : detect clause = (property, op) ↔ Reads clause property op := by
  rw [detect_eq_detectAmong]
  exact detectAmong_eq_iff mem_all fun _ _ => Iff.rfl

/-- What ends a property and a keyword does not reach into the property. -/
theorem length_le_of_ends {k : List Char} (hfree : ∀ w ∈ words property, w ∉ keywordWords)
    (hk : BeginsWord k) (he : e ∈ vocabulary) (hends : Ends (property ++ k) e) :
    e.1.length ≤ k.length := by
  obtain ⟨before, -, hclause⟩ := hends
  by_contra hlt
  obtain ⟨x, hproperty, hkeyword⟩ : ∃ x, property = before ++ x ∧ e.1 = x ++ k := by
    rcases List.append_eq_append_iff.1 hclause with ⟨x, hbefore, hk'⟩ | h
    · have hlength := congrArg List.length hk'
      rw [List.length_append] at hlength
      omega
    · exact h
  have hx : BeginsWord x := BeginsWord.of_append (hkeyword ▸ (beginsWord_of_mem_vocabulary e he).2)
  have hne : x ≠ [] := by
    rintro rfl
    simp [hkeyword] at hlt
  obtain ⟨w, hw⟩ := List.exists_mem_of_ne_nil _ (words_ne_nil hne)
  refine hfree w (words_subset_of_suffix ⟨before, hproperty.symm⟩ hx hw) ?_
  refine List.mem_flatMap.2 ⟨e, he, ?_⟩
  rw [hkeyword, words_append x hk]
  exact List.mem_append_left _ hw

theorem detect_append (hne : property ≠ []) (hfree : ∀ w ∈ words property, w ∉ keywordWords)
    (he : e ∈ vocabulary) : detect (property ++ e.1) = (property, e.2) := by
  obtain ⟨k, hk, htext⟩ := mem_vocabulary.1 he
  refine detect_eq_iff_reads.2 (.keyword hk hne (by rw [htext]) fun op' k' hk' hends => ?_)
  rw [htext]
  exact length_le_of_ends hfree (beginsWord_of_mem_vocabulary e he).2
    (mem_vocabulary.2 ⟨k', hk', rfl⟩) hends

theorem detect_property (hfree : ∀ w ∈ words property, w ∉ keywordWords) :
    detect property = (property, .equals) := by
  refine detect_eq_iff_reads.2 (.plain fun op' k' hk' hends => ?_)
  have hmem : (k'.toList, op') ∈ vocabulary := mem_vocabulary.2 ⟨k', hk', rfl⟩
  have hends' : Ends (property ++ []) (k'.toList, op') := by rwa [List.append_nil]
  have hle := length_le_of_ends hfree beginsWord_nil hmem hends'
  exact (beginsWord_of_mem_vocabulary _ hmem).1 (List.length_eq_zero_iff.1 (Nat.le_zero.1 hle))

/-- A clause is read as its longest keyword says, in one way only, and tables in another order read
it alike. -/
theorem detect_longest_keyword (clause : List Char) :
    (∀ property op, detect clause = (property, op) ↔ Reads clause property op) ∧
      ∀ operators keywordsOf, operators.Perm all → (∀ op, (keywordsOf op).Perm op.keywords) →
        detectAmong operators keywordsOf clause = detect clause := by
  refine ⟨fun property op => detect_eq_iff_reads, ?_⟩
  intro operators keywordsOf hoperators hkeywords
  refine (detectAmong_eq_iff (fun op => hoperators.mem_iff.2 op.mem_all)
    fun op k => (hkeywords op).mem_iff).2 ?_
  exact detect_eq_iff_reads.1 rfl

end DerivedQuery.Operator

namespace DerivedQuery.Example

open Operator

/-- With all tables turned round, `IsNotNull` still goes before `NotNull` and `Null`. -/
theorem detect_by_reversed_tables :
    all.reverse.Perm all ∧ (∀ op : Operator, op.keywords.reverse.Perm op.keywords) ∧
      detectAmong all.reverse (fun op => op.keywords.reverse) "PriceIsNotNull".toList =
        ("Price".toList, .isNotNull) := by
  have hkeywords : ∀ op : Operator, op.keywords.reverse.Perm op.keywords :=
    fun op => List.reverse_perm _
  refine ⟨List.reverse_perm _, hkeywords, ?_⟩
  rw [(detect_longest_keyword "PriceIsNotNull".toList).2 all.reverse _ (List.reverse_perm _)
    hkeywords]
  decide +kernel

end DerivedQuery.Example
