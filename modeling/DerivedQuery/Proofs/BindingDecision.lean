import DerivedQuery.Example.Trades
import DerivedQuery.Proofs.Compile
import DerivedQuery.Proofs.LeafBinding
import Mathlib.Data.List.Duplicate

/-!
How a call is bound, stated position by position. Four checks come one after the other: the number
of arguments, the markers in the order of their positions, the number of arguments that are left for
the leaves, and the leaves in the order of their tags. The first failure is the error of the call;
if there is none, the tag of each leaf holds the argument at the position that is counted for it.
-/

namespace DerivedQuery

section Lists

variable {α β : Type}

/-- An element that a filter keeps, by its position and by the number of those kept before it. -/
theorem getElem?_filter_eq_some_iff {q : α → Bool} {xs : List α} {k : Nat} {x : α} :
    (xs.filter q)[k]? = some x ↔
      ∃ i, xs[i]? = some x ∧ q x = true ∧ (xs.take i).countP q = k := by
  induction xs generalizing k with
  | nil => simp
  | cons y ys ih =>
    cases hy : q y with
    | false =>
      rw [List.filter_cons_of_neg (by simp [hy]), ih]
      constructor
      · rintro ⟨i, hx, hq, hcount⟩
        exact ⟨i + 1, by simpa using hx, hq, by simpa [hy] using hcount⟩
      · rintro ⟨_ | i, hx, hq, hcount⟩
        · simp at hx
          simp [← hx, hy] at hq
        · exact ⟨i, by simpa using hx, hq, by simpa [hy] using hcount⟩
    | true =>
      rw [List.filter_cons_of_pos hy]
      cases k with
      | zero =>
        constructor
        · intro hx
          have hx : y = x := by simpa using hx
          exact ⟨0, by simp [hx], hx ▸ hy, rfl⟩
        · rintro ⟨_ | i, hx, hq, hcount⟩
          · simpa using hx
          · simp [hy] at hcount
      | succ k =>
        rw [List.getElem?_cons_succ, ih]
        constructor
        · rintro ⟨i, hx, hq, hcount⟩
          exact ⟨i + 1, by simpa using hx, hq, by simpa [hy] using hcount⟩
        · rintro ⟨_ | i, hx, hq, hcount⟩
          · simp at hcount
          · exact ⟨i, by simpa using hx, hq, by simpa [hy] using hcount⟩

/-- What a list holds at most once, it holds at one position. -/
theorem eq_of_getElem?_of_count_le_one [DecidableEq α] {xs : List α} {x : α}
    (h : xs.count x ≤ 1) {i j : Nat} (hi : xs[i]? = some x) (hj : xs[j]? = some x) : i = j := by
  have hpos : ∀ {ys : List α} {k : Nat}, ys[k]? = some x → 0 < ys.count x :=
    fun hk => List.count_pos_iff.2 (List.mem_of_getElem? hk)
  induction xs generalizing i j with
  | nil => simp at hi
  | cons y ys ih =>
    rw [List.count_cons] at h
    rcases i with _ | i <;> rcases j with _ | j
    · rfl
    · have hy : y = x := by simpa using hi
      have hmore : 0 < ys.count x := hpos hj
      simp only [hy, beq_self_eq_true, if_true] at h
      omega
    · have hy : y = x := by simpa using hj
      have hmore : 0 < ys.count x := hpos hi
      simp only [hy, beq_self_eq_true, if_true] at h
      omega
    · rw [ih (by omega) hi hj]

theorem mem_zip_iff {xs : List α} {ys : List β} {x : α} {y : β} :
    (x, y) ∈ xs.zip ys ↔ ∃ i : Nat, xs[i]? = some x ∧ ys[i]? = some y := by
  simp only [List.mem_iff_getElem?, List.getElem?_zip_eq_some]

theorem countP_snd_zip (q : β → Bool) {xs : List α} {ys : List β} (h : xs.length = ys.length) :
    (xs.zip ys).countP (fun pair => q pair.2) = ys.countP q := by
  have hsnd : (xs.zip ys).map (·.2) = ys := List.map_snd_zip (Nat.le_of_eq h.symm)
  conv_rhs => rw [← hsnd, List.countP_map]
  rfl

end Lists

namespace Plan

variable {p : Plan} {arguments : List Argument}

/-- The number of parameters that are bound to tags. -/
def tagged (p : Plan) : Nat := p.parameters.countP (!·.isMarker)

/-- The argument that belongs to a tag, with its declared type: it stands at a position that is no
marker's, and the tag is numbered by the positions before it that are none either. -/
def Serves (p : Plan) (arguments : List Argument) (tag : Nat) (a : Argument)
    (type : ParameterType) : Prop :=
  ∃ i, arguments[i]? = some a ∧ p.parameters[i]? = some type ∧ type.isMarker = false ∧
    (p.parameters.take i).countP (!·.isMarker) = tag

/-- The marker at a position holds neither a request of its kind nor a null. -/
structure MisfitAt (p : Plan) (arguments : List Argument) (i : Nat) (a : Argument)
    (type : ParameterType) : Prop where
  argument : arguments[i]? = some a
  parameter : p.parameters[i]? = some type
  misfit : Binding.Misfit a type

theorem getElem?_leafArguments_eq_some_iff {k : Nat} {a : Argument} {type : ParameterType} :
    (p.leafArguments arguments)[k]? = some (a, type) ↔ p.Serves arguments k a type := by
  unfold leafArguments Serves
  rw [getElem?_filter_eq_some_iff]
  simp only [List.getElem?_zip_eq_some, and_assoc]
  refine exists_congr fun i => and_congr_right fun ha => and_congr_right fun htype => ?_
  have hi : i < arguments.length := (List.getElem?_eq_some_iff.1 ha).1
  have hi' : i < p.parameters.length := (List.getElem?_eq_some_iff.1 htype).1
  have hcount : ((arguments.zip p.parameters).take i).countP (fun pair => !pair.2.isMarker) =
      (p.parameters.take i).countP (!·.isMarker) := by
    have hlength : (arguments.take i).length = (p.parameters.take i).length := by
      rw [List.length_take, List.length_take]
      omega
    rw [List.zip, List.take_zipWith]
    exact countP_snd_zip (fun type : ParameterType => !type.isMarker) hlength
  rw [hcount]
  simp

theorem length_leafArguments (h : arguments.length = p.parameters.length) :
    (p.leafArguments arguments).length = p.tagged := by
  rw [leafArguments, ← List.countP_eq_length_filter]
  exact countP_snd_zip (fun type : ParameterType => !type.isMarker) h

theorem checkMarkers_eq_error_iff {e : QueryError} :
    Binding.checkMarkers 0 (arguments.zip p.parameters) = .error e ↔
      ∃ i a type, p.MisfitAt arguments i a type ∧
        (∀ j < i, ∀ a' type', ¬p.MisfitAt arguments j a' type') ∧
        e = .invalidArgument i type a := by
  rw [Binding.checkMarkers_eq_error_iff]
  simp only [List.getElem?_zip_eq_some, Nat.zero_add]
  constructor
  · rintro ⟨i, a, type, ⟨ha, htype⟩, h, hfirst, rfl⟩
    exact ⟨i, a, type, ⟨ha, htype, h⟩,
      fun j hj a' type' h' => hfirst j hj a' type' ⟨h'.argument, h'.parameter⟩ h'.misfit, rfl⟩
  · rintro ⟨i, a, type, h, hfirst, rfl⟩
    exact ⟨i, a, type, ⟨h.argument, h.parameter⟩, h.misfit,
      fun j hj a' type' h' hmisfit => hfirst j hj a' type' ⟨h'.1, h'.2, hmisfit⟩, rfl⟩

theorem checkMarkers_eq_ok_iff :
    Binding.checkMarkers 0 (arguments.zip p.parameters) = .ok () ↔
      ∀ i a type, ¬p.MisfitAt arguments i a type := by
  rw [Binding.checkMarkers_eq_ok_iff]
  constructor
  · intro h i a type hmisfit
    have hmem := mem_zip_iff.2 ⟨i, hmisfit.argument, hmisfit.parameter⟩
    exact hmisfit.misfit.2 (h (a, type) hmem hmisfit.misfit.1)
  · rintro h ⟨a, type⟩ hmem hmarker
    obtain ⟨i, ha, htype⟩ := mem_zip_iff.1 hmem
    by_contra hfits
    exact h i a type ⟨ha, htype, hmarker, hfits⟩

section Requests

/-- What is looked for at the one position of a marker. -/
theorem findSome?_zip_eq_some_iff {γ : Type} {f : Argument × ParameterType → Option γ}
    {make : γ → Argument} {marker : ParameterType}
    (hf : ∀ a type c, f (a, type) = some c ↔ a = make c ∧ type = marker)
    (h : p.parameters.count marker ≤ 1) {c : γ} :
    (arguments.zip p.parameters).findSome? f = some c ↔
      ∃ i : Nat, arguments[i]? = some (make c) ∧ p.parameters[i]? = some marker := by
  have hfound : ∀ c, (arguments.zip p.parameters).findSome? f = some c →
      ∃ i : Nat, arguments[i]? = some (make c) ∧ p.parameters[i]? = some marker := by
    intro c hc
    obtain ⟨⟨a, type⟩, hmem, hpair⟩ := List.exists_of_findSome?_eq_some hc
    obtain ⟨rfl, rfl⟩ := (hf a type c).1 hpair
    exact mem_zip_iff.1 hmem
  constructor
  · exact hfound c
  · rintro ⟨i, hi, htype⟩
    have hthere : f (make c, marker) = some c := (hf _ _ c).2 ⟨rfl, rfl⟩
    cases hother : (arguments.zip p.parameters).findSome? f with
    | none =>
      rw [List.findSome?_eq_none_iff.1 hother _ (mem_zip_iff.2 ⟨i, hi, htype⟩)] at hthere
      cases hthere
    | some c' =>
      obtain ⟨j, hj, htype'⟩ := hfound c' hother
      rw [eq_of_getElem?_of_count_le_one h htype' htype, hi, Option.some.injEq] at hj
      rw [← hthere, hj, (hf _ _ c').2 ⟨rfl, rfl⟩]

theorem pageOf_eq_some_iff (h : p.parameters.count .page ≤ 1) {request : PageRequest} :
    Binding.pageOf (arguments.zip p.parameters) = some request ↔
      ∃ i : Nat, arguments[i]? = some (.page request) ∧ p.parameters[i]? = some .page := by
  refine findSome?_zip_eq_some_iff (fun a type request => ?_) h
  cases a <;> cases type <;> simp

theorem orderByOf_eq_some_iff (h : p.parameters.count .ordering ≤ 1) {orderBy : OrderBy} :
    Binding.orderByOf (arguments.zip p.parameters) = some orderBy ↔
      ∃ i : Nat, arguments[i]? = some (.ordering orderBy) ∧ p.parameters[i]? = some .ordering := by
  refine findSome?_zip_eq_some_iff (fun a type orderBy => ?_) h
  cases a <;> cases type <;> simp

end Requests

section Leaves

variable {lookup : String → Option Converter}

theorem getElem?_zip_leaves_iff {k : Nat} {l : Leaf} {a : Argument} {type : ParameterType} :
    (p.leaves.zip (p.leafArguments arguments))[k]? = some (l, a, type) ↔
      p.leaves[k]? = some l ∧ p.Serves arguments k a type := by
  rw [List.getElem?_zip_eq_some, getElem?_leafArguments_eq_some_iff]

theorem mapM_bindLeaf_eq_error_iff {e : QueryError} :
    ((p.leaves.zip (p.leafArguments arguments)).mapM fun (l, argument, type) =>
        Binding.bindLeaf lookup l argument type) = .error e ↔
      ∃ k l a type, p.leaves[k]? = some l ∧ p.Serves arguments k a type ∧
        Binding.LeafOutcome lookup l a type (.error e) ∧
        ∀ j < k, ∀ l' a' type', p.leaves[j]? = some l' → p.Serves arguments j a' type' →
          ∃ v, Binding.LeafOutcome lookup l' a' type' (.ok v) := by
  rw [Fallible.mapM_eq_error_iff_getElem?]
  constructor
  · rintro ⟨k, ⟨l, a, type⟩, hk, herror, hfirst⟩
    obtain ⟨hl, ha⟩ := getElem?_zip_leaves_iff.1 hk
    refine ⟨k, l, a, type, hl, ha, Binding.bindLeaf_eq_error_iff.1 herror, ?_⟩
    intro j hj l' a' type' hl' ha'
    obtain ⟨b, hb⟩ := hfirst j hj (l', a', type') (getElem?_zip_leaves_iff.2 ⟨hl', ha'⟩)
    obtain ⟨v, hv, -⟩ := Binding.bindLeaf_eq_ok_iff.1 hb
    exact ⟨v, hv⟩
  · rintro ⟨k, l, a, type, hl, ha, herror, hfirst⟩
    refine ⟨k, (l, a, type), getElem?_zip_leaves_iff.2 ⟨hl, ha⟩,
      Binding.bindLeaf_eq_error_iff.2 herror, ?_⟩
    rintro j hj ⟨l', a', type'⟩ hk'
    obtain ⟨hl', ha'⟩ := getElem?_zip_leaves_iff.1 hk'
    obtain ⟨v, hv⟩ := hfirst j hj l' a' type' hl' ha'
    exact ⟨_, hv.bindLeaf_eq⟩

theorem mapM_bindLeaf_eq_ok_iff (hcount : (p.leafArguments arguments).length = p.leaves.length)
    {bindings : List TagBinding} :
    ((p.leaves.zip (p.leafArguments arguments)).mapM fun (l, argument, type) =>
        Binding.bindLeaf lookup l argument type) = .ok bindings ↔
      bindings.length = p.leaves.length ∧
        ∀ k l, p.leaves[k]? = some l → ∃ a type v, p.Serves arguments k a type ∧
          Binding.LeafOutcome lookup l a type (.ok v) ∧
          bindings[k]? = some ⟨Sql.tagName l.tag, v⟩ := by
  rw [Fallible.mapM_eq_ok_iff_getElem?, List.length_zip, hcount, Nat.min_self]
  refine and_congr_right fun _ => ?_
  constructor
  · intro h k l hl
    have hk : k < (p.leafArguments arguments).length := by
      rw [hcount]
      exact (List.getElem?_eq_some_iff.1 hl).1
    obtain ⟨⟨a, type⟩, hpair⟩ : ∃ pair, (p.leafArguments arguments)[k]? = some pair :=
      ⟨_, List.getElem?_eq_getElem hk⟩
    have ha := getElem?_leafArguments_eq_some_iff.1 hpair
    obtain ⟨b, hb, hbind⟩ := h k (l, a, type) (getElem?_zip_leaves_iff.2 ⟨hl, ha⟩)
    obtain ⟨v, hv, rfl⟩ := Binding.bindLeaf_eq_ok_iff.1 hbind
    exact ⟨a, type, v, ha, hv, hb⟩
  · rintro h k ⟨l, a, type⟩ hk
    obtain ⟨hl, ha⟩ := getElem?_zip_leaves_iff.1 hk
    obtain ⟨a', type', v, ha', hv, hb⟩ := h k l hl
    have hsame : some (a', type') = some (a, type) :=
      (getElem?_leafArguments_eq_some_iff.2 ha').symm.trans
        (getElem?_leafArguments_eq_some_iff.2 ha)
    cases hsame
    exact ⟨_, hb, hv.bindLeaf_eq⟩

end Leaves

/-- As many arguments as parameters, and whatever stands at a marker fits it. -/
structure Fitting (p : Plan) (arguments : List Argument) : Prop where
  length : arguments.length = p.parameters.length
  fits : ∀ i a type, ¬p.MisfitAt arguments i a type

/-- Then, an argument for each tag and a tag for each of the other arguments. -/
structure Covering (p : Plan) (arguments : List Argument) : Prop extends
    p.Fitting arguments where
  count : p.tagged = p.leaves.length

end Plan

/-- How the binding of a call is decided. -/
inductive Decision (lookup : String → Option Converter) (p : Plan) (arguments : List Argument) :
    Except QueryError BoundArguments → Prop
  | length (h : arguments.length ≠ p.parameters.length) :
      Decision lookup p arguments
        (.error (.signatureMismatch p.parameters.length arguments.length))
  /-- The first marker whose argument does not fit it. -/
  | marker {i : Nat} {a : Argument} {type : ParameterType}
      (hlength : arguments.length = p.parameters.length) (h : p.MisfitAt arguments i a type)
      (hfirst : ∀ j < i, ∀ a' type', ¬p.MisfitAt arguments j a' type') :
      Decision lookup p arguments (.error (.invalidArgument i type a))
  | count (hfitting : p.Fitting arguments) (h : p.tagged ≠ p.leaves.length) :
      Decision lookup p arguments (.error (.argumentCountMismatch p.leaves.length p.tagged))
  /-- The first leaf whose argument cannot be bound. -/
  | leaf {k : Nat} {l : Leaf} {a : Argument} {type : ParameterType} {e : QueryError}
      (hcovering : p.Covering arguments) (hl : p.leaves[k]? = some l)
      (ha : p.Serves arguments k a type) (h : Binding.LeafOutcome lookup l a type (.error e))
      (hfirst : ∀ j < k, ∀ l' a' type', p.leaves[j]? = some l' → p.Serves arguments j a' type' →
        ∃ v, Binding.LeafOutcome lookup l' a' type' (.ok v)) :
      Decision lookup p arguments (.error e)
  /-- One binding for each leaf, of the argument that belongs to its tag, and the requests at the
  markers. -/
  | bound {bound : BoundArguments} (hcovering : p.Covering arguments)
      (hlength : bound.bindings.length = p.leaves.length)
      (hbindings : ∀ k l, p.leaves[k]? = some l → ∃ a type v, p.Serves arguments k a type ∧
        Binding.LeafOutcome lookup l a type (.ok v) ∧
        bound.bindings[k]? = some ⟨Sql.tagName k, v⟩)
      (horderBy : ∀ orderBy, bound.orderBy = some orderBy ↔
        ∃ i : Nat, arguments[i]? = some (.ordering orderBy) ∧ p.parameters[i]? = some .ordering)
      (hpage : ∀ request, bound.page = some request ↔
        ∃ i : Nat, arguments[i]? = some (.page request) ∧ p.parameters[i]? = some .page) :
      Decision lookup p arguments (.ok bound)

section Compiled

variable {lookup : String → Option Converter} {p : Plan} {arguments : List Argument}
  {entity : Entity} {query : QueryName} {parameters : List ParameterType} {shape : ResultShape}

theorem Plan.count_page_le_one (h : p.CompiledFrom entity query parameters shape) :
    p.parameters.count .page ≤ 1 := by
  have := markers_of_checkSignature h.signature
  rw [h.parameters]
  omega

theorem Plan.count_ordering_le_one (h : p.CompiledFrom entity query parameters shape) :
    p.parameters.count .ordering ≤ 1 := by
  have := markers_of_checkSignature h.signature
  rw [h.parameters]
  omega

theorem bind_of_length_ne (h : arguments.length ≠ p.parameters.length) :
    bind lookup p arguments =
      .error (.signatureMismatch p.parameters.length arguments.length) := by
  unfold bind
  rw [if_pos h]
  rfl

theorem bind_of_misfit (hlength : arguments.length = p.parameters.length) {e : QueryError}
    (h : Binding.checkMarkers 0 (arguments.zip p.parameters) = .error e) :
    bind lookup p arguments = .error e := by
  unfold bind
  rw [if_neg (not_not.2 hlength)]
  simp only [h]
  rfl

theorem Plan.Fitting.bind_eq (h : p.Fitting arguments) :
    bind lookup p arguments =
      if p.tagged ≠ p.leaves.length then
        .error (.argumentCountMismatch p.leaves.length p.tagged)
      else
        ((p.leaves.zip (p.leafArguments arguments)).mapM fun (l, argument, type) =>
          Binding.bindLeaf lookup l argument type).map fun bindings =>
            ⟨bindings, Binding.orderByOf (arguments.zip p.parameters),
              Binding.pageOf (arguments.zip p.parameters)⟩ := by
  rw [bind_of_fitting h.length (Plan.checkMarkers_eq_ok_iff.2 h.fits),
    Plan.length_leafArguments h.length]

theorem Plan.Covering.bind_eq (h : p.Covering arguments) :
    bind lookup p arguments =
      ((p.leaves.zip (p.leafArguments arguments)).mapM fun (l, argument, type) =>
        Binding.bindLeaf lookup l argument type).map fun bindings =>
          ⟨bindings, Binding.orderByOf (arguments.zip p.parameters),
            Binding.pageOf (arguments.zip p.parameters)⟩ := by
  rw [h.toFitting.bind_eq, if_neg (not_not.2 h.count)]

theorem Plan.Covering.length_leafArguments (h : p.Covering arguments) :
    (p.leafArguments arguments).length = p.leaves.length :=
  (Plan.length_leafArguments h.length).trans h.count

/-- Every call is decided one way. -/
theorem decision_bind (h : p.CompiledFrom entity query parameters shape) :
    Decision lookup p arguments (bind lookup p arguments) := by
  by_cases hlength : arguments.length = p.parameters.length
  swap
  · rw [bind_of_length_ne hlength]
    exact .length hlength
  cases hmarkers : Binding.checkMarkers 0 (arguments.zip p.parameters) with
  | error e =>
    rw [bind_of_misfit hlength hmarkers]
    obtain ⟨i, a, type, hmisfit, hfirst, rfl⟩ := Plan.checkMarkers_eq_error_iff.1 hmarkers
    exact .marker hlength hmisfit hfirst
  | ok =>
    have hfitting : p.Fitting arguments := ⟨hlength, Plan.checkMarkers_eq_ok_iff.1 hmarkers⟩
    by_cases hcount : p.tagged = p.leaves.length
    swap
    · rw [hfitting.bind_eq, if_pos hcount]
      exact .count hfitting hcount
    have hcovering : p.Covering arguments := ⟨hfitting, hcount⟩
    rw [hcovering.bind_eq]
    cases hbindings : (p.leaves.zip (p.leafArguments arguments)).mapM fun (l, argument, type) =>
        Binding.bindLeaf lookup l argument type with
    | error e =>
      obtain ⟨k, l, a, type, hl, ha, hleaf, hfirst⟩ := Plan.mapM_bindLeaf_eq_error_iff.1 hbindings
      exact .leaf hcovering hl ha hleaf hfirst
    | ok bindings =>
      obtain ⟨hsame, hall⟩ :=
        (Plan.mapM_bindLeaf_eq_ok_iff hcovering.length_leafArguments).1 hbindings
      refine .bound hcovering hsame (fun k l hl => ?_)
        (fun _ => Plan.orderByOf_eq_some_iff (Plan.count_ordering_le_one h))
        (fun _ => Plan.pageOf_eq_some_iff (Plan.count_page_le_one h))
      rw [← Plan.tag_of_numbered h.tags hl]
      exact hall l.tag l (by rwa [Plan.tag_of_numbered h.tags hl])

/-- What is decided for a call is what binding it gives. -/
theorem Decision.bind_eq (h : p.CompiledFrom entity query parameters shape)
    {result : Except QueryError BoundArguments} (hd : Decision lookup p arguments result) :
    bind lookup p arguments = result := by
  cases hd with
  | length hlength => exact bind_of_length_ne hlength
  | marker hlength hmisfit hfirst =>
    exact bind_of_misfit hlength
      (Plan.checkMarkers_eq_error_iff.2 ⟨_, _, _, hmisfit, hfirst, rfl⟩)
  | count hfitting hcount => rw [hfitting.bind_eq, if_pos hcount]
  | leaf hcovering hl ha hleaf hfirst =>
    rw [hcovering.bind_eq,
      Plan.mapM_bindLeaf_eq_error_iff.2 ⟨_, _, _, _, hl, ha, hleaf, hfirst⟩]
    rfl
  | @bound bound hcovering hsame hbindings horderBy hpage =>
    have hall : ∀ k l, p.leaves[k]? = some l → ∃ a type v, p.Serves arguments k a type ∧
        Binding.LeafOutcome lookup l a type (.ok v) ∧
        bound.bindings[k]? = some ⟨Sql.tagName l.tag, v⟩ := by
      intro k l hl
      rw [Plan.tag_of_numbered h.tags hl]
      exact hbindings k l hl
    have horderBy' : Binding.orderByOf (arguments.zip p.parameters) = bound.orderBy :=
      Option.ext fun o => (Plan.orderByOf_eq_some_iff (Plan.count_ordering_le_one h)).trans
        (horderBy o).symm
    have hpage' : Binding.pageOf (arguments.zip p.parameters) = bound.page :=
      Option.ext fun request => (Plan.pageOf_eq_some_iff (Plan.count_page_le_one h)).trans
        (hpage request).symm
    rw [hcovering.bind_eq,
      (Plan.mapM_bindLeaf_eq_ok_iff hcovering.length_leafArguments).2 ⟨hsame, hall⟩, horderBy',
      hpage']
    rfl

theorem exists_leafOutcome_of_bind (h : p.CompiledFrom entity query parameters shape)
    {bound : BoundArguments} (hbound : bind lookup p arguments = .ok bound) {k : Nat} {l : Leaf}
    {b : TagBinding} (hl : p.leaves[k]? = some l) (hb : bound.bindings[k]? = some b) :
    ∃ a type, Binding.LeafOutcome lookup l a type (.ok b.value) := by
  have hd : Decision lookup p arguments (.ok bound) := hbound ▸ decision_bind h
  cases hd with
  | bound hcovering hsame hbindings horderBy hpage =>
    obtain ⟨a, type, v, -, hv, hb'⟩ := hbindings k l hl
    cases hb.symm.trans hb'
    exact ⟨a, type, hv⟩

end Compiled

theorem bind_eq_of_no_object (lookup lookup' : String → Option Converter) (p : Plan)
    {arguments : List Argument} (h : ∀ a ∈ arguments, ¬a.HasObject) :
    bind lookup p arguments = bind lookup' p arguments := by
  have hleaves :
      ((p.leaves.zip ((arguments.zip p.parameters).filter (!·.2.isMarker))).mapM
          fun (l, argument, type) => Binding.bindLeaf lookup l argument type) =
        (p.leaves.zip ((arguments.zip p.parameters).filter (!·.2.isMarker))).mapM
          fun (l, argument, type) => Binding.bindLeaf lookup' l argument type := by
    refine Fallible.mapM_congr fun ⟨l, a, type⟩ hmem => ?_
    have hpair := List.mem_of_mem_filter (List.of_mem_zip hmem).2
    exact bindLeaf_eq_of_no_object lookup lookup' l type (h a (List.of_mem_zip hpair).1)
  unfold bind
  dsimp only
  rw [hleaves]

/-- Binding is decided by the number of arguments, then by the first misfit at a marker, then by the
number of arguments for the leaves, then by the first leaf whose argument cannot be bound; otherwise
every leaf has the argument of its tag. A comparison with wildcards is bound to a string or a null,
and a comparison with a list to an array. Without objects every failure is a binding error. -/
theorem bind_eq_iff_decision {entity : Entity} {query : QueryName}
    {parameters : List ParameterType} {shape : ResultShape} {p : Plan}
    (hp : Plan.compile entity query parameters shape = .ok p) (lookup : String → Option Converter)
    (arguments : List Argument) :
    (∀ result, bind lookup p arguments = result ↔ Decision lookup p arguments result) ∧
      (∀ bound, bind lookup p arguments = .ok bound →
        ∀ (k : Nat) (l : Leaf) (b : TagBinding), p.leaves[k]? = some l →
          bound.bindings[k]? = some b →
          (l.operator ∈ Operator.wildcarded → b.value.IsTextOrNull) ∧
          (l.operator ∈ Operator.listed → b.value.type.isArray = true)) ∧
      ((∀ a ∈ arguments, ¬a.HasObject) →
        ∀ e, bind lookup p arguments = .error e → e.isBindingError = true) := by
  have h := Plan.compiledFrom_of_compile hp
  refine ⟨fun result => ⟨?_, Decision.bind_eq h⟩, ?_, ?_⟩
  · rintro rfl
    exact decision_bind h
  · intro bound hbound k l b hl hb
    obtain ⟨a, type, houtcome⟩ := exists_leafOutcome_of_bind h hbound hl hb
    exact houtcome.suits
  · intro hobjects e he
    rw [bind_eq_of_no_object lookup (fun _ => none) p hobjects] at he
    exact fails_bind (fun _ h => h) (fun _ _ h => by cases h) p arguments e he

namespace Example

def findByActionAndTickers : QueryMethod :=
  ⟨"Trades", "findByActionStartingWithAndSymbolIn", [.string, .page, .list .string], .many⟩

def tickersPlan : Plan :=
  { method := findByActionAndTickers.name
    operation := .find
    shape := .many
    distinct := false
    limit := none
    table := trades.table
    columns := trades.columns
    groups := [[⟨0, .startingWith, "action", false⟩, ⟨1, .isIn, "ticker", false⟩]]
    orderBy := []
    parameters := findByActionAndTickers.parameters }

def startingWithBuy (tickers : Argument) : List Argument :=
  [.scalar (.string (some "BU")), .null, tickers]

def ticker : Argument := .scalar (.string (some "ABC"))

/-- A list of tickers is bound next to a prefix with its wildcard, a ticker by itself is not. -/
theorem bind_decided_by_tickers :
    ∃ query, Plan.compile trades query findByActionAndTickers.parameters .many = .ok tickersPlan ∧
      Decision trades.converter? tickersPlan (startingWithBuy ticker)
        (.error (.unsupportedParameter "tag1" (.expectsArray .string .isIn))) ∧
      Decision trades.converter? tickersPlan (startingWithBuy (.list [ticker]))
        (.ok ⟨[⟨"tag0", .string "BU%"⟩, ⟨"tag1", .array .string [.string "ABC"]⟩], none,
          none⟩) := by
  have hplan : (findByActionAndTickers.plan trades).toOption = some tickersPlan := by
    decide +kernel
  obtain ⟨query, -, hcompile⟩ := QueryMethod.plan_eq_ok_iff.1 (Fallible.eq_ok_of_toOption hplan)
  exact ⟨query, hcompile, ((bind_eq_iff_decision hcompile _ _).1 _).1 rfl,
    ((bind_eq_iff_decision hcompile _ _).1 _).1 rfl⟩

end Example

end DerivedQuery
