import DerivedQuery.Example.Trades
import DerivedQuery.Proofs.Binding
import DerivedQuery.Proofs.Compile
import Mathlib.Data.List.InsertIdx

/-!
Where a method declares its paging or sorting parameter makes no difference. A plan depends on the
parameters as a collection only; binding leaves the marker and its argument out of the sequence that
goes to the tags, and finds the request wherever it stands.
-/

namespace DerivedQuery

section Insertion

variable {α β : Type}

theorem zip_insertIdx {as : List α} {bs : List β} (h : as.length = bs.length) (i : Nat) (a : α)
    (b : β) : (as.insertIdx i a).zip (bs.insertIdx i b) = (as.zip bs).insertIdx i (a, b) := by
  induction i generalizing as bs with
  | zero => simp
  | succ i ih =>
    cases as with
    | nil => cases bs <;> simp_all
    | cons a' as =>
      cases bs with
      | nil => simp at h
      | cons b' bs => simp_all

theorem filter_insertIdx_of_neg {q : α → Bool} {x : α} (h : q x = false) (i : Nat) (xs : List α) :
    (xs.insertIdx i x).filter q = xs.filter q := by
  induction i generalizing xs with
  | zero => simp [h]
  | succ i ih =>
    cases xs with
    | nil => rfl
    | cons y ys => simp [List.filter_cons, ih]

theorem findSome?_insertIdx {f : α → Option β} {xs : List α} (h : ∀ y ∈ xs, f y = none) {i : Nat}
    (hi : i ≤ xs.length) (x : α) : (xs.insertIdx i x).findSome? f = f x := by
  induction i generalizing xs with
  | zero =>
    have hnone : xs.findSome? f = none := List.findSome?_eq_none_iff.2 h
    cases hx : f x <;> simp [hx, hnone]
  | succ i ih =>
    cases xs with
    | nil => simp at hi
    | cons y ys =>
      obtain ⟨hy, hys⟩ := List.forall_mem_cons.1 h
      simpa [hy] using ih hys (by simpa using hi)

end Insertion

namespace Plan

variable {entity : Entity} {query : QueryName} {shape : ResultShape} {p : Plan}
  {parameters parameters' : List ParameterType}

theorem checkSignature_of_perm (h : parameters.Perm parameters') :
    checkSignature query parameters' shape = checkSignature query parameters shape := by
  simp [checkSignature, h.count_eq]

theorem deletesByKey_of_perm (h : p.parameters.Perm parameters') :
    ({ p with parameters := parameters' } : Plan).deletesByKey = p.deletesByKey := by
  have hpage : (.page ∈ parameters') ↔ .page ∈ p.parameters := h.mem_iff.symm
  simp [deletesByKey, hpage]

theorem checkKey_of_perm (h : p.parameters.Perm parameters') :
    checkKey { p with parameters := parameters' } = checkKey p := by
  unfold checkKey
  rw [deletesByKey_of_perm h]
  rfl

/-- A method whose parameters stand in another order has the same plan but for that order. -/
theorem compile_of_perm (h : parameters.Perm parameters') :
    compile entity query parameters' shape =
      (compile entity query parameters shape).map
        fun p => { p with parameters := parameters' } := by
  unfold compile
  rw [checkSignature_of_perm h]
  cases checkOperators query with
  | error e => rfl
  | ok =>
    cases checkSignature query parameters shape with
    | error e => rfl
    | ok =>
      cases leafGroups entity 0 query.groups with
      | error e => rfl
      | ok groups =>
        cases query.orderBy.keys.mapM (columnKey entity.table entity.columns) with
        | error e => rfl
        | ok orderBy =>
          let plan : Plan := ⟨query.text, query.operation, shape, query.distinct, query.limit,
            entity.table, entity.columns, groups, orderBy, parameters⟩
          change ((checkKey { plan with parameters := parameters' }).bind fun _ =>
              .ok { plan with parameters := parameters' }) =
            ((checkKey plan).bind fun _ => .ok plan).map fun p =>
              { p with parameters := parameters' }
          rw [checkKey_of_perm (p := plan) h]
          cases checkKey plan <;> rfl

theorem render_of_perm (h : p.parameters.Perm parameters') (orderBy : Option OrderBy)
    (page : Option PageRequest) :
    ({ p with parameters := parameters' } : Plan).render orderBy page = p.render orderBy page := by
  unfold render
  rw [deletesByKey_of_perm h]
  rfl

end Plan

/-- The stages of a call before it reaches the store, one within the other: its plan, its bindings
and the text of its statement. -/
def Entity.stages (entity : Entity) (m : QueryMethod) (arguments : List Argument) :
    Except QueryError (Except QueryError (BoundArguments × Except QueryError String)) :=
  (m.plan entity).map fun p =>
    (bind entity.converter? p arguments).map fun bound =>
      (bound, p.render bound.orderBy bound.page)

section Marker

variable {types : List ParameterType} {arguments : List Argument} {marker : ParameterType}
  {request : Argument}

theorem pageOf_insertIdx {pairs : List (Argument × ParameterType)}
    (h : ∀ pair ∈ pairs, pair.2.isMarker = false) {i : Nat} (hi : i ≤ pairs.length)
    (pair : Argument × ParameterType) :
    Binding.pageOf (pairs.insertIdx i pair) = Binding.pageOf [pair] := by
  unfold Binding.pageOf
  rw [findSome?_insertIdx ?_ hi]
  · simp
  · intro other hother
    split
    · cases h _ hother
    · rfl

theorem orderByOf_insertIdx {pairs : List (Argument × ParameterType)}
    (h : ∀ pair ∈ pairs, pair.2.isMarker = false) {i : Nat} (hi : i ≤ pairs.length)
    (pair : Argument × ParameterType) :
    Binding.orderByOf (pairs.insertIdx i pair) = Binding.orderByOf [pair] := by
  unfold Binding.orderByOf
  rw [findSome?_insertIdx ?_ hi]
  · simp
  · intro other hother
    split
    · cases h _ hother
    · rfl

/-- Wherever the marker stands, the other arguments go to the leaves in their order, and the request
is found. -/
theorem bind_insertIdx (lookup : String → Option Converter) (p : Plan)
    (htypes : ∀ type ∈ types, type.isMarker = false) (hlength : arguments.length = types.length)
    (hfits : Binding.Fits marker request) {i : Nat} (hi : i ≤ types.length) :
    bind lookup { p with parameters := types.insertIdx i marker } (arguments.insertIdx i request) =
      if (arguments.zip types).length ≠ p.leaves.length then
        .error (.argumentCountMismatch p.leaves.length (arguments.zip types).length)
      else
        ((p.leaves.zip (arguments.zip types)).mapM fun (l, argument, type) =>
          Binding.bindLeaf lookup l argument type).map fun bindings =>
            ⟨bindings, Binding.orderByOf [(request, marker)],
              Binding.pageOf [(request, marker)]⟩ := by
  have hbindable : ∀ pair ∈ arguments.zip types, pair.2.isMarker = false :=
    fun pair hpair => htypes pair.2 (List.of_mem_zip hpair).2
  have hzip : (arguments.insertIdx i request).zip (types.insertIdx i marker) =
      (arguments.zip types).insertIdx i (request, marker) := zip_insertIdx hlength i request marker
  have hi' : i ≤ (arguments.zip types).length := by simp [hlength, hi]
  have hmarkers : Binding.checkMarkers 0
      ((arguments.insertIdx i request).zip (types.insertIdx i marker)) = .ok () := by
    rw [hzip, Binding.checkMarkers_eq_ok_iff]
    intro pair hpair hmarker
    rcases List.eq_or_mem_of_mem_insertIdx hpair with rfl | hpair
    · exact hfits
    · simp [hbindable pair hpair] at hmarker
  have hleaves : ({ p with parameters := types.insertIdx i marker } : Plan).leafArguments
      (arguments.insertIdx i request) = arguments.zip types := by
    unfold Plan.leafArguments
    rw [hzip, filter_insertIdx_of_neg (by simp [hfits.isMarker]), List.filter_eq_self]
    intro pair hpair
    simp [hbindable pair hpair]
  rw [bind_of_fitting (by simp [List.length_insertIdx, hlength]) hmarkers, hleaves, hzip,
    orderByOf_insertIdx hbindable hi', pageOf_insertIdx hbindable hi']
  rfl

/-- A call ends alike in every stage wherever its method declares the marker. -/
theorem stages_eq_of_marker_moved (entity : Entity) (repository name : String)
    (shape : ResultShape) (types : List ParameterType) (arguments : List Argument)
    (marker : ParameterType) (request : Argument)
    (htypes : ∀ type ∈ types, type.isMarker = false) (hlength : arguments.length = types.length)
    (hfits : Binding.Fits marker request) (i j : Nat) (hi : i ≤ types.length)
    (hj : j ≤ types.length) :
    entity.stages ⟨repository, name, types.insertIdx i marker, shape⟩
        (arguments.insertIdx i request) =
      entity.stages ⟨repository, name, types.insertIdx j marker, shape⟩
        (arguments.insertIdx j request) := by
  have hperm : (types.insertIdx i marker).Perm (types.insertIdx j marker) :=
    (List.perm_insertIdx _ _ hi).trans (List.perm_insertIdx _ _ hj).symm
  unfold Entity.stages QueryMethod.plan
  cases QueryName.parse name with
  | error e => rfl
  | ok query =>
    change (Plan.compile entity query (types.insertIdx i marker) shape).map _ =
      (Plan.compile entity query (types.insertIdx j marker) shape).map _
    rw [Plan.compile_of_perm hperm]
    cases hplan : Plan.compile entity query (types.insertIdx i marker) shape with
    | error e => rfl
    | ok p =>
      have hparameters : p.parameters = types.insertIdx i marker :=
        (Plan.compiledFrom_of_compile hplan).parameters
      have hrender := Plan.render_of_perm (hparameters ▸ hperm)
      have hbind := bind_insertIdx entity.converter? p htypes hlength hfits hi
      rw [← hparameters] at hbind
      have hbind' := bind_insertIdx entity.converter? p htypes hlength hfits hj
      simp only [Except.map, hrender, hbind, hbind']

end Marker

namespace Example

/-- The arguments of `findByActionAndSymbol` without a page. -/
def boughtStock : List Argument := [.scalar (.string (some "BUY")), .scalar (.string (some "ABC"))]

def secondPage : Argument := .page { page := 1, size := 10 }

/-- A page in front of the values of the conditions or between them. -/
theorem stages_eq_of_page_moved :
    (∀ type ∈ [ParameterType.string, .string], type.isMarker = false) ∧
      boughtStock.length = [ParameterType.string, .string].length ∧
      Binding.Fits .page secondPage ∧
      trades.stages ⟨"Trades", "findByActionAndSymbol", [.page, .string, .string], .many⟩
          (secondPage :: boughtStock) =
        trades.stages ⟨"Trades", "findByActionAndSymbol", [.string, .page, .string], .many⟩
          (boughtStock.insertIdx 1 secondPage) := by
  have htypes : ∀ type ∈ [ParameterType.string, .string], type.isMarker = false := by decide
  exact ⟨htypes, rfl, .page _, stages_eq_of_marker_moved trades "Trades" "findByActionAndSymbol"
    .many [.string, .string] boughtStock .page secondPage htypes rfl (.page _) 0 1 (by decide)
    (by decide)⟩

end Example

end DerivedQuery
