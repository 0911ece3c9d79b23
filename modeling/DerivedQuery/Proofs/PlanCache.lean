import DerivedQuery.PlanCache
import DerivedQuery.Proofs.Outcome

/-!
What one request does to a memo of plans: it returns what is kept, or else compiles, and a compiled
plan is kept if there is room.
-/

namespace DerivedQuery.PlanCache

variable {c : PlanCache} {key : String}

open Outcome

/-- The memo after a plan has been compiled for a key that was not kept. -/
def extend (c : PlanCache) (key : String) (plan : Plan) : PlanCache :=
  if c.capacity ≤ c.size then { c with compiled := c.compiled + 1 }
  else { c with entries := c.entries ++ [(key, ⟨c.compiled, plan⟩)], compiled := c.compiled + 1 }

theorem mem_of_get? {kept : CompiledPlan} (h : c.get? key = some kept) :
    (key, kept) ∈ c.entries := by
  obtain ⟨⟨k, p⟩, hfind, rfl⟩ := Option.map_eq_some_iff.1 h
  have hk : k = key := by simpa using List.find?_some hfind
  exact hk ▸ List.mem_of_find?_eq_some hfind

theorem mem_extend {plan : Plan} {entry : String × CompiledPlan}
    (h : entry ∈ (c.extend key plan).entries) :
    entry ∈ c.entries ∨ entry = (key, ⟨c.compiled, plan⟩) := by
  unfold extend at h
  split at h
  · exact Or.inl h
  · simpa using h

theorem capacity_extend (plan : Plan) : (c.extend key plan).capacity = c.capacity := by
  unfold extend
  split <;> rfl

theorem get?_extend_self {plan : Plan} (hroom : c.size < c.capacity) (hnone : c.get? key = none) :
    (c.extend key plan).get? key = some ⟨c.compiled, plan⟩ := by
  have hfind : c.entries.find? (·.1 == key) = none := by simpa [get?] using hnone
  simp [extend, Nat.not_le.2 hroom, get?, List.find?_append, hfind]

theorem getOrCompile_of_kept {kept : CompiledPlan} (h : c.get? key = some kept)
    (r : Except QueryError Plan) :
    c.getOrCompile key (fun _ => r) = (c, ⟨[.planReused], .ok kept⟩) := by
  unfold getOrCompile
  rw [h]
  rfl

theorem getOrCompile_error (h : c.get? key = none) (e : QueryError) :
    c.getOrCompile key (fun _ => .error e) = (c, fail e) := by
  unfold getOrCompile
  rw [h]
  rfl

theorem settle_of_kept {kept : CompiledPlan} (h : c.get? key = some kept) (plan : Plan) :
    c.settle key (.ok plan) =
      ({ c with compiled := c.compiled + 1 }, ⟨[.planCompiled], .ok kept⟩) := by
  have hc : ({ c with compiled := c.compiled + 1 } : PlanCache).get? key = some kept := h
  simp only [settle, keep, hc]
  rfl

/-- A compilation is noted once, with a word on whether its plan was kept. -/
theorem settle_of_not_kept (h : c.get? key = none) (plan : Plan) :
    ∃ level text, c.settle key (.ok plan) =
      (c.extend key plan, ⟨[.planCompiled, .log level text], .ok ⟨c.compiled, plan⟩⟩) := by
  have hc : ({ c with compiled := c.compiled + 1 } : PlanCache).get? key = none := h
  simp only [settle, keep, hc, extend, size]
  by_cases hfull : c.capacity ≤ c.entries.length
  · simp only [hfull, if_true]
    exact ⟨_, _, rfl⟩
  · simp only [hfull, if_false]
    exact ⟨_, _, rfl⟩

theorem getOrCompile_ok (h : c.get? key = none) (plan : Plan) :
    ∃ level text, c.getOrCompile key (fun _ => .ok plan) =
      (c.extend key plan, ⟨[.planCompiled, .log level text], .ok ⟨c.compiled, plan⟩⟩) := by
  unfold getOrCompile
  rw [h]
  exact settle_of_not_kept h plan

theorem statements_getOrCompile (c : PlanCache) (key : String) (r : Except QueryError Plan) :
    (c.getOrCompile key fun _ => r).2.statements = [] := by
  cases hk : c.get? key with
  | some kept => rw [getOrCompile_of_kept hk]; rfl
  | none =>
    cases r with
    | error e => rw [getOrCompile_error hk]; rfl
    | ok plan =>
      obtain ⟨level, text, h⟩ := getOrCompile_ok hk plan
      rw [h]
      rfl

end DerivedQuery.PlanCache
