import DerivedQuery.Proofs.LetterCount

/-!
Where an ordering starts: at the first `OrderBy` of a predicate, whatever comes behind it. A
property with `OrderBy` in it, such as `OrderBytes`, is not kept whole.
-/

namespace DerivedQuery.QueryName

open Text

variable {name : List Char} {sections : Sections} {query : QueryName}

theorem ReadFrom.keys_eq_nil_iff (h : ReadFrom name sections query) :
    query.orderBy.keys = [] ↔ ¬orderByWord <:+: sections.predicate := by
  rcases h.ordering with ⟨habsent, horderBy⟩ | ⟨before, after, hfirst, hne, hread⟩
  · simp [habsent, horderBy]
  · have hoccurs : orderByWord <:+: sections.predicate := ⟨_, _, hfirst.text.symm⟩
    simp [hoccurs, keys_ne_nil_of_readOrdering hne hread]

/-- An ordering takes a B out of the clauses, the one of `OrderBy`. -/
theorem ReadFrom.withoutFoldAll_iff (h : ReadFrom name sections query) :
    WithoutFoldAll sections.predicate query.joinedClauses.toList ↔
      ¬orderByWord <:+: sections.predicate := by
  rw [← h.keys_eq_nil_iff]
  constructor
  · intro hwhole
    have hcount := countB_predicate h
    rw [countB, countB_withoutFoldAll hwhole] at hcount
    by_contra hkeys
    rw [if_neg hkeys] at hcount
    omega
  · intro hkeys
    obtain ⟨front, hfront, htext⟩ := h.front
    exact hfront.eq_of_absent (h.keys_eq_nil_iff.1 hkeys) ▸ htext

/-- A name orders by nothing, and its clauses make up its predicate, exactly if there is no
`OrderBy` in the predicate, before a lower-case letter or not. -/
theorem unordered_iff_orderBy_absent {verb : List Char} (hverb : verb ∈ verbWords)
    (predicate : List Char) (query : QueryName)
    (h : parse (String.ofList (verb ++ (byWord ++ predicate))) = .ok query) :
    (query.orderBy.keys = [] ↔ ¬orderByWord <:+: predicate) ∧
      (WithoutFoldAll predicate query.joinedClauses.toList ↔ ¬orderByWord <:+: predicate) := by
  obtain ⟨sections, hread⟩ := parse_eq_ok_iff.1 h
  rw [String.toList_ofList] at hread
  obtain ⟨rfl, -⟩ := hread.eq_of_firstAt hverb (firstAt_front byWord predicate)
  exact ⟨hread.keys_eq_nil_iff, hread.withoutFoldAll_iff⟩

end DerivedQuery.QueryName

namespace DerivedQuery.Example

open QueryName

/-- The one `OrderBy` stands before a lower-case letter, and yet the query orders by `tes`. -/
theorem orderBytes_orders :
    (∀ before after, "OrderBytes".toList = before ++ (orderByWord ++ after) →
      ∃ c rest, after = c :: rest ∧ 'a' ≤ c ∧ c ≤ 'z') ∧
    ∃ query, parse "findByOrderBytes" = .ok query ∧ query.groups = [] ∧
      query.orderBy.keys = [⟨"tes", .asc, false⟩] := by
  refine ⟨fun before after htext => ?_, ?_⟩
  · cases before with
    | nil =>
      have hafter : orderByWord ++ ['t', 'e', 's'] = orderByWord ++ after := htext
      obtain rfl := List.append_cancel_left hafter
      exact ⟨'t', ['e', 's'], rfl, by decide, by decide⟩
    | cons c before =>
      have htail : "rderBytes".toList = before ++ (orderByWord ++ after) := (List.cons.inj htext).2
      have hmem : 'O' ∈ before ++ (orderByWord ++ after) :=
        List.mem_append_right _ List.mem_cons_self
      rw [← htail] at hmem
      exact absurd hmem (by decide)
  · have hparts : (parse "findByOrderBytes").toOption.map (fun query =>
        (query.groups, query.orderBy.keys)) = some ([], [⟨"tes", .asc, false⟩]) := by
      decide +kernel
    obtain ⟨query, hquery, heq⟩ := Option.map_eq_some_iff.1 hparts
    obtain ⟨hgroups, hkeys⟩ := Prod.mk.inj heq
    exact ⟨query, Fallible.eq_ok_of_toOption hquery, hgroups, hkeys⟩

/-- Where `OrderBy` is not spelled out, a property that begins with `Order` is kept. -/
theorem orderCount_kept :
    ∃ query, parse "findByOrderCountAndBrandName" = .ok query ∧ query.orderBy.keys = [] ∧
      WithoutFoldAll "OrderCountAndBrandName".toList query.joinedClauses.toList := by
  obtain ⟨query, hquery⟩ := Fallible.exists_eq_ok_of_isOk
    (x := parse "findByOrderCountAndBrandName") (by decide +kernel)
  have hverb : ['f', 'i', 'n', 'd'] ∈ verbWords := by decide
  have habsent : ¬orderByWord <:+: "OrderCountAndBrandName".toList := by decide
  obtain ⟨hkeys, hwhole⟩ :=
    unordered_iff_orderBy_absent hverb "OrderCountAndBrandName".toList query hquery
  exact ⟨query, hquery, hkeys.2 habsent, hwhole.2 habsent⟩

end DerivedQuery.Example
