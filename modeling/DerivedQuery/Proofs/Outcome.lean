import DerivedQuery.Outcome

/-!
Outcomes in sequence. The statements of two steps are those of the first and then, unless it failed,
those of the second; the result is that of the same steps without their events. What holds of all
that each step records holds of all that they record together.
-/

namespace DerivedQuery.Outcome

variable {α β : Type}

@[simp] theorem bind_eq_andThen (x : Outcome α) (f : α → Outcome β) : x >>= f = x.andThen f := rfl

@[simp] theorem ofExcept_ok (a : α) : ofExcept (.ok a) = ok a := rfl

@[simp] theorem ofExcept_error (e : QueryError) : (ofExcept (.error e) : Outcome α) = fail e := rfl

@[simp] theorem result_ok (a : α) : (ok a).result = .ok a := rfl

@[simp] theorem result_fail (e : QueryError) : (fail e : Outcome α).result = .error e := rfl

@[simp] theorem result_ofExcept (r : Except QueryError α) : (ofExcept r).result = r := rfl

@[simp] theorem statements_fail (e : QueryError) : (fail e : Outcome α).statements = [] := rfl

theorem result_andThen (x : Outcome α) (f : α → Outcome β) :
    (x.andThen f).result = x.result.bind fun a => (f a).result := by
  obtain ⟨events, result⟩ := x
  cases result <;> rfl

theorem statements_andThen_of_ok {x : Outcome α} {a : α} (f : α → Outcome β)
    (h : x.result = .ok a) : (x.andThen f).statements = x.statements ++ (f a).statements := by
  obtain ⟨events, result⟩ := x
  subst h
  exact List.filterMap_append

theorem statements_andThen_of_error {x : Outcome α} {e : QueryError} (f : α → Outcome β)
    (h : x.result = .error e) : (x.andThen f).statements = x.statements := by
  obtain ⟨events, result⟩ := x
  subst h
  rfl

/-- A last step that reaches no store adds no statement. -/
theorem statements_andThen_of_silent {x : Outcome α} {f : α → Outcome β}
    (h : ∀ a, (f a).statements = []) : (x.andThen f).statements = x.statements := by
  cases hx : x.result with
  | ok a => rw [statements_andThen_of_ok f hx, h, List.append_nil]
  | error e => exact statements_andThen_of_error f hx

/-- All events of a step are among `P`. -/
def Records (P : Event → Prop) (x : Outcome α) : Prop := ∀ ev ∈ x.events, P ev

theorem events_andThen (x : Outcome α) (f : α → Outcome β) :
    (x.andThen f).events = x.events ++
      match x.result with
      | .ok a => (f a).events
      | .error _ => [] := by
  unfold andThen
  cases x.result with
  | ok a => rfl
  | error e => exact (List.append_nil _).symm

namespace Records

variable {P : Event → Prop} {x : Outcome α}

theorem of_ok (a : α) : Records P (ok a) := by
  intro ev h
  cases h

theorem of_fail (e : QueryError) : Records P (fail e : Outcome α) := by
  intro ev h
  cases h

theorem ofExcept (r : Except QueryError α) : Records P (ofExcept r) := by
  intro ev h
  cases h

theorem andThen {f : α → Outcome β} (hx : Records P x) (hf : ∀ a, Records P (f a)) :
    Records P (x.andThen f) := by
  unfold Outcome.andThen
  split
  · intro ev hev
    rcases List.mem_append.1 hev with h | h
    · exact hx ev h
    · exact hf _ ev h
  · exact hx

end Records

end DerivedQuery.Outcome
