import DerivedQuery.Proofs.Binding

/-!
One argument at one leaf. It is coerced, and then the operator of the leaf may ask for a string or
for an array; a string gets the wildcards of the operator. Converters have a say in objects only.
-/

namespace DerivedQuery

/-- What a comparison with wildcards takes: a string, or a null of any type. -/
inductive WireValue.IsTextOrNull : WireValue → Prop
  | string (s : String) : IsTextOrNull (.string s)
  | null (type : WireType) : IsTextOrNull (.null type)

/-- A value for the leaf: a string with the wildcards of the operator around it, any other as it
is. -/
def Leaf.wrapped (l : Leaf) (v : WireValue) : WireValue :=
  match l.operator.pattern?, v with
  | some pattern, .string s => .string (pattern.apply s)
  | _, v => v

theorem Leaf.type_wrapped (l : Leaf) (v : WireValue) : (l.wrapped v).type = v.type := by
  unfold wrapped
  split <;> rfl

theorem Leaf.isTextOrNull_wrapped {l : Leaf} {v : WireValue} (h : v.IsTextOrNull) :
    (l.wrapped v).IsTextOrNull := by
  unfold wrapped
  split
  · exact .string _
  · exact h

/-- The comparisons that put wildcards around their value. -/
def Operator.wildcarded : List Operator := [.startingWith, .endingWith, .containing, .notContaining]

/-- The comparisons with a list of values. -/
def Operator.listed : List Operator := [.isIn, .notIn]

theorem Operator.isSome_pattern?_iff {op : Operator} :
    op.pattern?.isSome = true ↔ op ∈ wildcarded := by
  cases op <;> simp [pattern?, wildcarded]

theorem Operator.takesArray_iff {op : Operator} : op.takesArray = true ↔ op ∈ listed := by
  cases op <;> simp [takesArray, listed]

/-- No operator takes both wildcards and an array. -/
theorem Operator.pattern?_of_takesArray {op : Operator} (h : op.takesArray = true) :
    op.pattern? = none := by
  cases op <;> first | rfl | cases h

namespace Binding

/-- What comes of an argument at a leaf. -/
inductive LeafOutcome (lookup : String → Option Converter) (l : Leaf) (a : Argument)
    (type : ParameterType) : Except QueryError WireValue → Prop
  | uncoerced {e : QueryError} (h : coerce lookup (Sql.tagName l.tag) a type = .error e) :
      LeafOutcome lookup l a type (.error e)
  | noText {v : WireValue} (h : coerce lookup (Sql.tagName l.tag) a type = .ok v)
      (hpattern : l.operator.pattern?.isSome = true) (htext : ¬v.IsTextOrNull) :
      LeafOutcome lookup l a type
        (.error (.unsupportedParameter (Sql.tagName l.tag) (.expectsString v.type l.operator)))
  | noArray {v : WireValue} (h : coerce lookup (Sql.tagName l.tag) a type = .ok v)
      (htakes : l.operator.takesArray = true) (harray : v.type.isArray = false) :
      LeafOutcome lookup l a type
        (.error (.unsupportedParameter (Sql.tagName l.tag) (.expectsArray v.type l.operator)))
  | value {v : WireValue} (h : coerce lookup (Sql.tagName l.tag) a type = .ok v)
      (htext : l.operator.pattern?.isSome = true → v.IsTextOrNull)
      (harray : l.operator.takesArray = true → v.type.isArray = true) :
      LeafOutcome lookup l a type (.ok (l.wrapped v))

theorem withPattern_of_text {l : Leaf} {v : WireValue}
    (h : l.operator.pattern?.isSome = true → v.IsTextOrNull) :
    withPattern l v = .ok (l.wrapped v) := by
  unfold withPattern Leaf.wrapped
  cases hpattern : l.operator.pattern? with
  | none => rfl
  | some pattern => cases h (by simp [hpattern]) <;> rfl

theorem withPattern_of_no_text {l : Leaf} {v : WireValue}
    (hpattern : l.operator.pattern?.isSome = true) (h : ¬v.IsTextOrNull) :
    withPattern l v =
      .error (.unsupportedParameter (Sql.tagName l.tag) (.expectsString v.type l.operator)) := by
  obtain ⟨pattern, hpattern⟩ := Option.isSome_iff_exists.1 hpattern
  unfold withPattern
  rw [hpattern]
  cases v with
  | string s => exact absurd (.string s) h
  | null type => exact absurd (.null type) h
  | _ => rfl

variable {lookup : String → Option Converter} {l : Leaf} {a : Argument} {type : ParameterType}

theorem LeafOutcome.bindLeaf_eq {outcome : Except QueryError WireValue}
    (h : LeafOutcome lookup l a type outcome) :
    bindLeaf lookup l a type = outcome.map (⟨Sql.tagName l.tag, ·⟩) := by
  unfold bindLeaf
  cases h with
  | uncoerced h =>
    rw [h]
    rfl
  | noText h hpattern htext =>
    rw [h]
    simp only [Bind.bind, Except.bind, withPattern_of_no_text hpattern htext, Except.map]
  | noArray h htakes harray =>
    have hpattern := Operator.pattern?_of_takesArray htakes
    rw [h]
    simp only [Bind.bind, Except.bind, withPattern_of_text (l := l) (by simp [hpattern]),
      checkArray, htakes, Leaf.type_wrapped, harray, Bool.not_false, Bool.and_self, if_true,
      Except.map]
  | @value v h htext harray =>
    have harray : (l.operator.takesArray && !v.type.isArray) = false := by
      cases htakes : l.operator.takesArray <;> simp_all
    rw [h]
    simp only [Bind.bind, Except.bind, withPattern_of_text htext, checkArray, Leaf.type_wrapped,
      harray, Bool.false_eq_true, if_false, Except.map]
    rfl

theorem exists_leafOutcome (lookup : String → Option Converter) (l : Leaf) (a : Argument)
    (type : ParameterType) : ∃ outcome, LeafOutcome lookup l a type outcome := by
  cases h : coerce lookup (Sql.tagName l.tag) a type with
  | error e => exact ⟨_, .uncoerced h⟩
  | ok v =>
    by_cases htext : l.operator.pattern?.isSome = true → v.IsTextOrNull
    · by_cases harray : l.operator.takesArray = true → v.type.isArray = true
      · exact ⟨_, .value h htext harray⟩
      · push Not at harray
        exact ⟨_, .noArray h harray.1 (by simpa using harray.2)⟩
    · push Not at htext
      exact ⟨_, .noText h htext.1 htext.2⟩

theorem bindLeaf_eq_error_iff {e : QueryError} :
    bindLeaf lookup l a type = .error e ↔ LeafOutcome lookup l a type (.error e) := by
  constructor
  · intro h
    obtain ⟨outcome, houtcome⟩ := exists_leafOutcome lookup l a type
    rw [houtcome.bindLeaf_eq] at h
    cases outcome with
    | error e' =>
      cases h
      exact houtcome
    | ok v => cases h
  · exact LeafOutcome.bindLeaf_eq

theorem bindLeaf_eq_ok_iff {b : TagBinding} :
    bindLeaf lookup l a type = .ok b ↔
      ∃ v, LeafOutcome lookup l a type (.ok v) ∧ b = ⟨Sql.tagName l.tag, v⟩ := by
  constructor
  · intro h
    obtain ⟨outcome, houtcome⟩ := exists_leafOutcome lookup l a type
    rw [houtcome.bindLeaf_eq] at h
    cases outcome with
    | error e => cases h
    | ok v => exact ⟨v, houtcome, (Except.ok.inj h).symm⟩
  · rintro ⟨v, h, rfl⟩
    exact h.bindLeaf_eq

/-- A value that is bound suits the operator of its leaf. -/
theorem LeafOutcome.suits {v : WireValue} (h : LeafOutcome lookup l a type (.ok v)) :
    (l.operator ∈ Operator.wildcarded → v.IsTextOrNull) ∧
      (l.operator ∈ Operator.listed → v.type.isArray = true) := by
  cases h with
  | value hcoerce htext harray =>
    refine ⟨fun hop => Leaf.isTextOrNull_wrapped (htext ?_), fun hop => ?_⟩
    · exact Operator.isSome_pattern?_iff.2 hop
    · rw [Leaf.type_wrapped]
      exact harray (Operator.takesArray_iff.2 hop)

end Binding

/-- The argument is an object or a list that holds one, itself or in a list of its own. -/
inductive Argument.HasObject : Argument → Prop
  | object (type : String) (fields : List (String × Scalar)) : HasObject (.object type fields)
  | item {items : List Argument} {a : Argument} (ha : a ∈ items) (h : a.HasObject) :
      HasObject (.list items)

section Objectless

variable (lookup lookup' : String → Option Converter)

theorem single_eq_of_no_object (tag : String) {a : Argument} (declared : ParameterType)
    (h : ¬a.HasObject) :
    Coercion.single lookup tag a declared = Coercion.single lookup' tag a declared := by
  cases a with
  | object type fields => exact absurd (.object type fields) h
  | _ => rfl

/-- Converters are for objects only. -/
theorem coerce_eq_of_no_object (tag : String) {a : Argument} (declared : ParameterType)
    (h : ¬a.HasObject) : coerce lookup tag a declared = coerce lookup' tag a declared := by
  cases a with
  | list items =>
    unfold coerce
    dsimp only
    rw [Fallible.mapM_congr fun item hitem =>
      single_eq_of_no_object lookup lookup' tag _ fun hobject => h (.item hitem hobject)]
  | _ => exact single_eq_of_no_object lookup lookup' tag declared h

theorem bindLeaf_eq_of_no_object (l : Leaf) {a : Argument} (type : ParameterType)
    (h : ¬a.HasObject) : Binding.bindLeaf lookup l a type = Binding.bindLeaf lookup' l a type := by
  unfold Binding.bindLeaf
  rw [coerce_eq_of_no_object lookup lookup' _ type h]

end Objectless

end DerivedQuery
