import DerivedQuery.Proofs.ListCoercion

/-!
Scalars on the wire. A value and the null of its variant have one type, and an integer keeps its
value whatever its width and sign, in a list as well; the only integers without a wire value are
those beyond 64 bits with a sign.
-/

namespace DerivedQuery

open Coercion

namespace Scalar

/-- The null of the same variant. -/
def emptied : Scalar → Scalar
  | .bool _ => .bool none
  | .tinyInt _ => .tinyInt none
  | .smallInt _ => .smallInt none
  | .int _ => .int none
  | .bigInt _ => .bigInt none
  | .tinyUnsigned _ => .tinyUnsigned none
  | .smallUnsigned _ => .smallUnsigned none
  | .unsigned _ => .unsigned none
  | .bigUnsigned _ => .bigUnsigned none
  | .float _ => .float none
  | .double _ => .double none
  | .string _ => .string none
  | .char _ => .char none
  | .bytes _ => .bytes none
  | .json _ => .json none
  | .decimal _ => .decimal none
  | .uuid _ => .uuid none
  | .date _ => .date none
  | .timestamp _ => .timestamp none
  | .time _ => .time none
  | .dateTime _ => .dateTime none
  | .zonedDateTime _ => .zonedDateTime none
  | .localDateTime _ => .localDateTime none
  | .member type _ => .member type none

/-- The variants that the wire does not know. -/
inductive HasNoWireForm : Scalar → Prop
  | time (v : Option TimeOfDay) : HasNoWireForm (.time v)
  | dateTime (v : Option DateTime) : HasNoWireForm (.dateTime v)
  | zonedDateTime (v : Option ZonedDateTime) : HasNoWireForm (.zonedDateTime v)
  | localDateTime (v : Option ZonedDateTime) : HasNoWireForm (.localDateTime v)
  | member (type : String) (v : Option String) : HasNoWireForm (.member type v)

/-- The number that a variant of integers holds. -/
def integer? : Scalar → Option Int
  | .tinyInt v => v.map Int8.toInt
  | .smallInt v => v.map Int16.toInt
  | .int v => v.map Int32.toInt
  | .bigInt v => v.map Int64.toInt
  | .tinyUnsigned v => v.map fun n => (n.toNat : Int)
  | .smallUnsigned v => v.map fun n => (n.toNat : Int)
  | .unsigned v => v.map fun n => (n.toNat : Int)
  | .bigUnsigned v => v.map fun n => (n.toNat : Int)
  | _ => none

/-- The scalar is an unsigned number beyond the signed ones of 64 bits. -/
def Exceeds (v : Scalar) (n : UInt64) : Prop :=
  v = .bigUnsigned (some n) ∧ Int64.maxValue.toInt < n.toNat

variable {tag tag' : String} {v : Scalar} {w : WireValue} {e : QueryError} {n : Int}

theorem fits_iff (n : UInt64) :
    n.toNat < Nat.pow 2 63 ↔ (n.toNat : Int) ≤ Int64.maxValue.toInt := by
  have hpow : Nat.pow 2 63 = 9223372036854775808 := rfl
  have hmax : Int64.maxValue.toInt = 9223372036854775807 := rfl
  omega

theorem toWire_bigUnsigned (n : UInt64) :
    (bigUnsigned (some n)).toWire tag =
      if (n.toNat : Int) ≤ Int64.maxValue.toInt then .ok (.int64 (.ofNat n.toNat))
      else .error (.unsupportedParameter tag (.exceedsInt64 n)) := by
  simp only [toWire, fits_iff]

theorem toWire_eq_error_iff :
    v.toWire tag = .error e ↔
      (v.HasNoWireForm ∧ e = .unsupportedParameter tag (.noWireForm v)) ∨
        ∃ n, v.Exceeds n ∧ e = .unsupportedParameter tag (.exceedsInt64 n) := by
  constructor
  · intro h
    cases v
    case bigUnsigned v =>
      cases v with
      | none => cases h
      | some n =>
        rw [toWire_bigUnsigned] at h
        split at h
        · cases h
        · next hlarge =>
          cases h
          exact Or.inr ⟨n, ⟨rfl, Int.not_le.1 hlarge⟩, rfl⟩
    case time v => exact Or.inl ⟨.time v, (Except.error.inj h).symm⟩
    case dateTime v => exact Or.inl ⟨.dateTime v, (Except.error.inj h).symm⟩
    case zonedDateTime v => exact Or.inl ⟨.zonedDateTime v, (Except.error.inj h).symm⟩
    case localDateTime v => exact Or.inl ⟨.localDateTime v, (Except.error.inj h).symm⟩
    case member type v => exact Or.inl ⟨.member type v, (Except.error.inj h).symm⟩
    all_goals cases h
  · rintro (⟨hform, rfl⟩ | ⟨n, ⟨rfl, hlarge⟩, rfl⟩)
    · cases hform <;> rfl
    · rw [toWire_bigUnsigned, if_neg (Int.not_le.2 hlarge)]

/-- The null of a variant has the type of its values. -/
theorem toWire_emptied (h : v.toWire tag = .ok w) : v.emptied.toWire tag' = .ok (.null w.type) := by
  cases v
  case bigUnsigned v =>
    cases v with
    | none =>
      cases h
      rfl
    | some n =>
      rw [toWire_bigUnsigned] at h
      split at h
      · cases h
        rfl
      · cases h
  case time | dateTime | zonedDateTime | localDateTime | member => cases h
  all_goals
    next v =>
    cases v <;>
    · cases h
      rfl

/-- The variant settles the type. -/
theorem type_of_emptied {u : Scalar} {w' : WireValue} (h : u.emptied = v.emptied)
    (hu : u.toWire tag = .ok w) (hv : v.toWire tag' = .ok w') : w.type = w'.type := by
  have hnull : u.emptied.toWire tag = .ok (.null w.type) := toWire_emptied hu
  have hnull' : v.emptied.toWire tag = .ok (.null w'.type) := toWire_emptied hv
  rw [h, hnull'] at hnull
  exact (WireValue.null.inj (Except.ok.inj hnull)).symm

/-- An integer keeps its value, or is too large. -/
theorem toWire_integer (h : v.integer? = some n) :
    (∃ i : Int64, v.toWire tag = .ok (.int64 i) ∧ i.toInt = n) ∨ ∃ x, v.Exceeds x := by
  cases v
  case tinyInt | smallInt | int | bigInt =>
    next v =>
    obtain ⟨x, rfl, rfl⟩ := Option.map_eq_some_iff.1 h
    exact Or.inl ⟨_, rfl, by simp⟩
  case tinyUnsigned | smallUnsigned | unsigned =>
    next v =>
    obtain ⟨x, rfl, rfl⟩ := Option.map_eq_some_iff.1 h
    have hlt := x.toNat_lt
    exact Or.inl ⟨_, rfl, Int64.toInt_ofNat_of_lt (by omega)⟩
  case bigUnsigned v =>
    obtain ⟨x, rfl, rfl⟩ := Option.map_eq_some_iff.1 h
    by_cases hfits : (x.toNat : Int) ≤ Int64.maxValue.toInt
    · refine Or.inl ⟨.ofNat x.toNat, ?_, Int64.toInt_ofNat_of_lt ((fits_iff x).2 hfits)⟩
      rw [toWire_bigUnsigned, if_pos hfits]
    · exact Or.inr ⟨x, rfl, Int.not_le.1 hfits⟩
  all_goals cases h

theorem toInt_of_toWire (h : v.integer? = some n) (hw : v.toWire tag = .ok w) :
    ∃ i : Int64, w = .int64 i ∧ i.toInt = n := by
  rcases toWire_integer h with ⟨i, hi, hn⟩ | ⟨x, hx⟩
  · rw [hw] at hi
    exact ⟨i, Except.ok.inj hi, hn⟩
  · have hfail : v.toWire tag = .error _ := toWire_eq_error_iff.2 (Or.inr ⟨x, hx, rfl⟩)
    rw [hw] at hfail
    cases hfail

end Scalar

section List

variable {lookup : String → Option Converter} {tag : String}

theorem forall₂_becomes_integers (type : ParameterType) {items : List Scalar} {ns : List Int}
    (hns : items.map Scalar.integer? = ns.map some)
    (hfit : ∀ v ∈ items, ∀ x, ¬v.Exceeds x) :
    ∃ is : List Int64, is.map Int64.toInt = ns ∧
      List.Forall₂ (Becomes lookup tag type) (items.map .scalar) (is.map .int64) := by
  induction items generalizing ns with
  | nil =>
    refine ⟨[], ?_, .nil⟩
    rw [List.map_nil, eq_comm, List.map_eq_nil_iff] at hns
    rw [hns, List.map_nil]
  | cons v items ih =>
    obtain ⟨n, ns, rfl, hn, hrest⟩ := List.map_eq_cons_iff.1 hns.symm
    obtain ⟨hv, hitems⟩ := List.forall_mem_cons.1 hfit
    obtain ⟨is, his, hbecomes⟩ := ih hrest.symm hitems
    rcases Scalar.toWire_integer hn.symm with ⟨i, hi, hvalue⟩ | ⟨x, hx⟩
    · refine ⟨i :: is, ?_, .cons ⟨rfl, hi⟩ hbecomes⟩
      rw [List.map_cons, hvalue, his]
    · exact absurd hx (hv x)

theorem WireValue.int64s?_array (is : List Int64) :
    (WireValue.array .int64 (is.map .int64)).int64s? = some is := by
  rw [WireValue.int64s?]
  induction is with
  | nil => rfl
  | cons i is ih =>
    rw [List.map_cons, List.mapM_cons, ih]
    rfl

/-- A list of integers becomes an array of integers. -/
theorem coerce_integers (declared : ParameterType) {items : List Argument} {is : List Int64}
    (hne : is ≠ [])
    (h : List.Forall₂ (Becomes lookup tag (elementOf declared)) items (is.map .int64)) :
    coerce lookup tag (.list items) declared = .ok (.array .int64 (is.map .int64)) := by
  have hinteger : ∀ v ∈ is.map WireValue.int64, v.type = .int64 ∧ v.isNull = false :=
    List.forall_mem_map.2 fun _ _ => ⟨rfl, rfl⟩
  have hagree : Agree (is.map .int64) := by
    intro v hv w hw _ _
    exact (hinteger v hv).1.trans (hinteger w hw).1.symm
  obtain ⟨i, is, rfl⟩ := List.exists_cons_of_ne_nil hne
  have hfirst : WireValue.int64 i ∈ (i :: is).map WireValue.int64 := List.mem_cons_self
  rw [coerce_list_of_becomes h, array_of_agree hagree,
    elementType_of_agree hagree hfirst rfl, List.map_map]
  rfl

end List

/-- A scalar has no wire value exactly if its variant has none or it is an unsigned number that is
too large. Its type is that of its variant, for a null as well. An integer keeps its value, so
integers of all variants compare as they did, and a list of them is read back in order. -/
theorem scalar_keeps_type_and_value (tag : String) (v : Scalar) :
    (∀ e, v.toWire tag = .error e ↔
      (v.HasNoWireForm ∧ e = .unsupportedParameter tag (.noWireForm v)) ∨
        ∃ x, v.Exceeds x ∧ e = .unsupportedParameter tag (.exceedsInt64 x)) ∧
    (∀ w, v.toWire tag = .ok w → v.emptied.toWire tag = .ok (.null w.type) ∧
      ∀ (u : Scalar) w', u.emptied = v.emptied → u.toWire tag = .ok w' → w'.type = w.type) ∧
    (∀ n w, v.integer? = some n → v.toWire tag = .ok w →
      ∃ i : Int64, w = .int64 i ∧ i.toInt = n ∧
        ∀ (u : Scalar) m w', u.integer? = some m → u.toWire tag = .ok w' →
          ∃ j : Int64, w' = .int64 j ∧ (i < j ↔ n < m) ∧ (i ≤ j ↔ n ≤ m)) ∧
    ∀ (lookup : String → Option Converter) (declared : ParameterType) (items : List Scalar)
      (ns : List Int), items ≠ [] → items.map Scalar.integer? = ns.map some →
        (∀ v ∈ items, ∀ x, ¬v.Exceeds x) →
          ∃ w, coerce lookup tag (.list (items.map .scalar)) declared = .ok w ∧
            w.int64s?.map (·.map Int64.toInt) = some ns := by
  refine ⟨fun e => Scalar.toWire_eq_error_iff, fun w hw => ⟨Scalar.toWire_emptied hw, ?_⟩, ?_, ?_⟩
  · intro u w' hu hw'
    exact Scalar.type_of_emptied hu hw' hw
  · intro n w hn hw
    obtain ⟨i, rfl, hi⟩ := Scalar.toInt_of_toWire hn hw
    refine ⟨i, rfl, hi, fun u m w' hm hw' => ?_⟩
    obtain ⟨j, rfl, hj⟩ := Scalar.toInt_of_toWire hm hw'
    refine ⟨j, rfl, ?_, ?_⟩
    · rw [Int64.lt_iff_toInt_lt, hi, hj]
    · rw [Int64.le_iff_toInt_le, hi, hj]
  · intro lookup declared items ns hne hns hfit
    obtain ⟨is, rfl, hbecomes⟩ :=
      forall₂_becomes_integers (elementOf declared) hns hfit
    have hne' : is ≠ [] := by
      rintro rfl
      simp at hns
      exact hne hns
    refine ⟨_, coerce_integers declared hne' hbecomes, ?_⟩
    rw [WireValue.int64s?_array]
    rfl

/-- The largest unsigned number that fits. -/
example : (Scalar.bigUnsigned (some 9223372036854775807)).toWire "tag0" =
    .ok (.int64 Int64.maxValue) := by
  rfl

end DerivedQuery
