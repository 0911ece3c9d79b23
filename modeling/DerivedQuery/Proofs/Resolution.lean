import DerivedQuery.Plan
import DerivedQuery.Proofs.Fallible

/-!
Where a property is found. The first column whose field has its dotted name settles it, for a
condition as well as for a key of an ordering, and a list of properties fails at the first one that
no field has.
-/

namespace DerivedQuery

/-- The first element of the list for which this holds. -/
def IsFirst {α : Type} (P : α → Prop) (xs : List α) (x : α) : Prop :=
  ∃ before after, xs = before ++ x :: after ∧ (∀ y ∈ before, ¬P y) ∧ P x

/-- No field of the entity has this dotted name. -/
def Entity.Lacks (entity : Entity) (dotted : String) : Prop :=
  ∀ c ∈ entity.columns, c.field ≠ dotted

section IsFirst

variable {α β ε : Type} {P : α → Prop} {xs : List α} {x y : α}

theorem find?_eq_some_iff_isFirst {p : α → Bool} :
    xs.find? p = some x ↔ IsFirst (p · = true) xs x := by
  rw [List.find?_eq_some_iff_append]
  constructor
  · rintro ⟨hx, before, after, hxs, hbefore⟩
    exact ⟨before, after, hxs, by simpa using hbefore, hx⟩
  · rintro ⟨before, after, hxs, hbefore, hx⟩
    exact ⟨hx, before, after, hxs, by simpa using hbefore⟩

theorem IsFirst.holds (h : IsFirst P xs x) : P x := h.choose_spec.choose_spec.2.2

theorem IsFirst.mem (h : IsFirst P xs x) : x ∈ xs := by
  obtain ⟨before, after, rfl, -, -⟩ := h
  exact List.mem_append_right _ List.mem_cons_self

theorem IsFirst.unique (h : IsFirst P xs x) (h' : IsFirst P xs y) : x = y := by
  classical
  have hfind : ∀ z, IsFirst P xs z → xs.find? (P ·) = some z := by
    intro z hz
    rw [find?_eq_some_iff_isFirst]
    simpa using hz
  exact Option.some.inj ((hfind x h).symm.trans (hfind y h'))

theorem exists_isFirst_iff : (∃ x, IsFirst P xs x) ↔ ∃ x ∈ xs, P x := by
  classical
  constructor
  · rintro ⟨x, h⟩
    exact ⟨x, h.mem, h.holds⟩
  · rintro ⟨x, hmem, hx⟩
    have hsome : (xs.find? (P ·)).isSome = true := List.find?_isSome.2 ⟨x, hmem, by simpa using hx⟩
    obtain ⟨y, hy⟩ := Option.isSome_iff_exists.1 hsome
    exact ⟨y, by simpa using find?_eq_some_iff_isFirst.1 hy⟩

/-- The first image that has the property is the image of the first element whose image has it. -/
theorem isFirst_map_iff {f : β → α} {ys : List β} :
    IsFirst P (ys.map f) x ↔ ∃ y, IsFirst (fun y => P (f y)) ys y ∧ f y = x := by
  constructor
  · rintro ⟨before, after, hys, hbefore, hx⟩
    obtain ⟨before', rest, rfl, rfl, hrest⟩ := List.map_eq_append_iff.1 hys
    obtain ⟨y, after', rfl, rfl, rfl⟩ := List.map_eq_cons_iff.1 hrest
    exact ⟨y, ⟨before', after', rfl, fun z hz => hbefore _ (List.mem_map_of_mem hz), hx⟩, rfl⟩
  · rintro ⟨y, ⟨before, after, rfl, hbefore, hy⟩, rfl⟩
    exact ⟨before.map f, after.map f, by simp, List.forall_mem_map.2 hbefore, hy⟩

/-- Steps that fail exactly where something holds, each with its own error, fail together with the
error of the first place where it holds. -/
theorem Fallible.mapM_eq_error_iff_isFirst {f : α → Except ε β} {fault : α → ε} {e : ε}
    (hf : ∀ x ∈ xs, ∀ e, f x = .error e ↔ P x ∧ e = fault x) :
    xs.mapM f = .error e ↔ ∃ x, IsFirst P xs x ∧ e = fault x := by
  have hok : ∀ x ∈ xs, (∃ b, f x = .ok b) ↔ ¬P x := by
    intro x hx
    rw [← not_iff_not, ← Fallible.exists_error_iff, not_not]
    simp [hf x hx]
  rw [Fallible.mapM_eq_error_iff]
  constructor
  · rintro ⟨before, x, after, rfl, hbefore, hx⟩
    have hmem : x ∈ before ++ x :: after := List.mem_append_right _ List.mem_cons_self
    obtain ⟨hP, rfl⟩ := (hf x hmem e).1 hx
    exact ⟨x, ⟨before, after, rfl, fun y hy => (hok y (List.mem_append_left _ hy)).1 (hbefore y hy),
      hP⟩, rfl⟩
  · rintro ⟨x, ⟨before, after, rfl, hbefore, hP⟩, rfl⟩
    have hmem : x ∈ before ++ x :: after := List.mem_append_right _ List.mem_cons_self
    exact ⟨before, x, after, rfl, fun y hy => (hok y (List.mem_append_left _ hy)).2 (hbefore y hy),
      (hf x hmem _).2 ⟨hP, rfl⟩⟩

end IsFirst

variable {table dotted : String} {columns : List Column} {column : Column} {entity : Entity}

theorem resolveField_eq_ok_iff (table : String) :
    resolveField table columns dotted = .ok column ↔ IsFirst (·.field = dotted) columns column := by
  have hfirst : IsFirst (·.field = dotted) columns column ↔
      columns.find? (·.field == dotted) = some column := by
    rw [find?_eq_some_iff_isFirst]
    simp
  rw [hfirst, resolveField]
  cases columns.find? (·.field == dotted) <;> simp

/-- A property is found on its first column, or no column has its field. -/
theorem resolveField_cases (table : String) (columns : List Column) (dotted : String) :
    (∃ column, IsFirst (·.field = dotted) columns column ∧
      resolveField table columns dotted = .ok column) ∨
    (∀ c ∈ columns, c.field ≠ dotted) ∧
      resolveField table columns dotted = .error (.unknownProperty table dotted) := by
  by_cases hfield : ∃ c ∈ columns, c.field = dotted
  · obtain ⟨column, hfirst⟩ := exists_isFirst_iff.2 hfield
    exact Or.inl ⟨column, hfirst, (resolveField_eq_ok_iff table).2 hfirst⟩
  · have hnone : columns.find? (·.field == dotted) = none := by simpa using hfield
    exact Or.inr ⟨by simpa using hfield, by rw [resolveField, hnone]⟩

/-- Whether a condition on a column of this type ignores case, where its operator can. -/
def CasePolicy.folds : CasePolicy → WireType → Bool
  | .never, _ => false
  | .always, _ => true
  | .whenPossible, type => type == .string

theorem CasePolicy.folds_eq_true_iff {policy : CasePolicy} {type : WireType} :
    policy.folds type = true ↔ policy = .always ∨ policy = .whenPossible ∧ type = .string := by
  cases policy <;> simp [folds]

namespace Plan

variable {tag : Nat} {c : Condition} {l : Leaf} {e : QueryError}

theorem columnKey_eq_ok_iff {k : SortKey} {key : ColumnKey} :
    columnKey table columns k = .ok key ↔
      ∃ column, IsFirst (·.field = k.property) columns column ∧
        key = ⟨column.name, k.direction, k.ignoreCase⟩ := by
  rw [columnKey, PropertyPath.dotted_parse]
  simp only [← resolveField_eq_ok_iff table]
  cases resolveField table columns k.property with
  | error fault => simp
  | ok column => simp [eq_comm]

theorem columnKey_eq_error_iff {k : SortKey} :
    columnKey table columns k = .error e ↔
      (∀ c ∈ columns, c.field ≠ k.property) ∧
        e = .metadata (.unknownProperty table k.property) := by
  rw [columnKey, PropertyPath.dotted_parse]
  rcases resolveField_cases table columns k.property with ⟨column, hfirst, hok⟩ | ⟨habsent, herror⟩
  · rw [hok]
    simp only [reduceCtorEq, false_iff, not_and]
    exact fun habsent => absurd hfirst.holds (habsent column hfirst.mem)
  · rw [herror]
    simp only [Except.error.injEq, and_iff_right habsent]
    exact eq_comm

theorem leaf_eq_ok_iff :
    leaf entity tag c = .ok l ↔
      ∃ column, IsFirst (·.field = c.path.dotted) entity.columns column ∧
        l = ⟨tag, c.operator, column.name,
          c.operator.canFold && c.casePolicy.folds column.type⟩ := by
  simp only [leaf, Entity.resolve, ← resolveField_eq_ok_iff entity.table]
  cases resolveField entity.table entity.columns c.path.dotted with
  | error fault => simp
  | ok column =>
    simp only [Except.ok.injEq, exists_eq_left']
    rw [eq_comm]
    cases c.casePolicy <;> rfl

theorem leaf_eq_error_iff :
    leaf entity tag c = .error e ↔
      entity.Lacks c.path.dotted ∧
        e = .metadata (.unknownProperty entity.table c.path.dotted) := by
  rw [leaf, Entity.resolve, Entity.Lacks]
  rcases resolveField_cases entity.table entity.columns c.path.dotted with
    ⟨column, hfirst, hok⟩ | ⟨habsent, herror⟩
  · rw [hok]
    simp only [reduceCtorEq, false_iff, not_and]
    exact fun habsent => absurd hfirst.holds (habsent column hfirst.mem)
  · rw [herror]
    simp only [Except.error.injEq, and_iff_right habsent]
    exact eq_comm

end Plan

end DerivedQuery
