import DerivedQuery.Coercion
import DerivedQuery.Proofs.Resolution

/-!
Lists on the wire. Each element is coerced by itself, those that are not null have to share a type,
and the nulls take it. Their order decides which error comes first, and the type only where all are
null.
-/

namespace DerivedQuery

/-- The value as an element of an array: a null takes the type of the array. -/
def WireValue.asElement (element : WireType) (v : WireValue) : WireValue :=
  if v.isNull then .null element else v

namespace Coercion

variable {lookup : String → Option Converter} {tag : String} {type declared : ParameterType}
  {items : List Argument} {values : List WireValue} {a : Argument} {v w : WireValue}
  {e : QueryError}

/-- What an element of a list becomes. A list in a list becomes nothing. -/
structure Becomes (lookup : String → Option Converter) (tag : String) (type : ParameterType)
    (a : Argument) (v : WireValue) : Prop where
  flat : a.isList = false
  value : coerce lookup tag a type = .ok v

theorem single_eq_coerce (h : a.isList = false) :
    single lookup tag a type = coerce lookup tag a type := by
  cases a with
  | list items => cases h
  | _ => rfl

theorem single_of_isList (h : a.isList = true) :
    single lookup tag a type = .error (.unsupportedParameter tag .nestedList) := by
  cases a with
  | list items => rfl
  | _ => cases h

theorem single_eq_ok_iff :
    single lookup tag a type = .ok v ↔ Becomes lookup tag type a v := by
  cases hlist : a.isList with
  | true =>
    rw [single_of_isList hlist]
    constructor
    · rintro ⟨⟩
    · intro h
      rw [h.flat] at hlist
      cases hlist
  | false =>
    rw [single_eq_coerce hlist]
    exact ⟨fun h => ⟨hlist, h⟩, Becomes.value⟩

/-- The values that are not null share a type. -/
def Agree (values : List WireValue) : Prop :=
  ∀ v ∈ values, ∀ w ∈ values, v.isNull = false → w.isNull = false → v.type = w.type

theorem elementType_of_isFirst (h : IsFirst (·.isNull = false) values v) :
    elementType type values = v.type := by
  have hfind : values.find? (!·.isNull) = some v :=
    find?_eq_some_iff_isFirst.2 (by simpa using h)
  unfold elementType
  rw [hfind]

theorem elementType_of_agree (h : Agree values) (hv : v ∈ values) (hnull : v.isNull = false) :
    elementType type values = v.type := by
  obtain ⟨w, hw⟩ := (exists_isFirst_iff (P := (·.isNull = false))).2 ⟨v, hv, hnull⟩
  rw [elementType_of_isFirst hw]
  exact h w hw.mem v hv hw.holds hnull

theorem array_of_agree (h : Agree values) :
    array tag type values =
      .ok (.array (elementType type values)
        (values.map (·.asElement (elementType type values)))) := by
  have hfind : values.find? (fun v => v.type ≠ elementType type values && !v.isNull) = none := by
    rw [List.find?_eq_none]
    intro v hv
    cases hnull : v.isNull with
    | true => simp
    | false => simp [elementType_of_agree h hv hnull]
  rw [array, hfind]
  rfl

theorem coerce_list_of_becomes
    (h : List.Forall₂ (Becomes lookup tag (elementOf declared)) items values) :
    coerce lookup tag (.list items) declared = array tag (elementOf declared) values := by
  have hvalues : items.mapM (single lookup tag · (elementOf declared)) = .ok values :=
    Fallible.mapM_eq_ok_iff.2 (h.imp fun _ _ => single_eq_ok_iff.2)
  exact Fallible.bind_of_ok hvalues _

section Becomes

variable (h : List.Forall₂ (Becomes lookup tag type) items values)
include h

end Becomes

/-- A null of another type takes the type of the values around it. -/
example : coerce (fun _ => none) "tag0"
    (.list [.scalar (.string none), .null, .scalar (.unsigned (some 7))]) .any =
    .ok (.array .int64 [.null .int64, .null .int64, .int64 7]) := rfl

end Coercion

end DerivedQuery
