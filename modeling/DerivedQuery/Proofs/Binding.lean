import DerivedQuery.Binding
import DerivedQuery.Proofs.Fallible

/-!
Binding as a whole. It succeeds when four checks do, and then each leaf has one binding, under the
leaf's own tag.
-/

namespace DerivedQuery

variable {lookup : String → Option Converter} {p : Plan} {arguments : List Argument}
  {bound : BoundArguments}

/-- The arguments that belong to leaves, with their types. -/
def Plan.leafArguments (p : Plan) (arguments : List Argument) : List (Argument × ParameterType) :=
  (arguments.zip p.parameters).filter (!·.2.isMarker)

theorem bind_eq_ok_iff :
    bind lookup p arguments = .ok bound ↔
      arguments.length = p.parameters.length ∧
      Binding.checkMarkers 0 (arguments.zip p.parameters) = .ok () ∧
      (p.leafArguments arguments).length = p.leaves.length ∧
      (p.leaves.zip (p.leafArguments arguments)).mapM
        (fun (l, argument, type) => Binding.bindLeaf lookup l argument type) = .ok bound.bindings ∧
      bound.orderBy = Binding.orderByOf (arguments.zip p.parameters) ∧
      bound.page = Binding.pageOf (arguments.zip p.parameters) := by
  have hbind : bind lookup p arguments = .ok bound ↔
      ¬arguments.length ≠ p.parameters.length ∧
      ∃ u, Binding.checkMarkers 0 (arguments.zip p.parameters) = .ok u ∧
      ¬(p.leafArguments arguments).length ≠ p.leaves.length ∧
      ∃ bindings, (p.leaves.zip (p.leafArguments arguments)).mapM
        (fun (l, argument, type) => Binding.bindLeaf lookup l argument type) = .ok bindings ∧
      (pure ⟨bindings, Binding.orderByOf (arguments.zip p.parameters),
        Binding.pageOf (arguments.zip p.parameters)⟩ : Except QueryError BoundArguments) =
          .ok bound := by
    unfold bind
    simp only [Fallible.check_eq_ok_iff, Fallible.bind_eq_ok_iff]
    rfl
  rw [hbind]
  simp only [ne_eq, not_not]
  constructor
  · rintro ⟨hlength, _, hmarkers, hcount, bindings, hbindings, h⟩
    cases h
    exact ⟨hlength, hmarkers, hcount, hbindings, rfl, rfl⟩
  · rintro ⟨hlength, hmarkers, hcount, hbindings, horder, hpage⟩
    obtain ⟨bindings, orderBy, page⟩ := bound
    subst horder hpage
    exact ⟨hlength, (), hmarkers, hcount, bindings, hbindings, rfl⟩

/-- Once every marker has its request, binding counts the other arguments and takes them one by
one. -/
theorem bind_of_fitting (hlength : arguments.length = p.parameters.length)
    (hmarkers : Binding.checkMarkers 0 (arguments.zip p.parameters) = .ok ()) :
    bind lookup p arguments =
      if (p.leafArguments arguments).length ≠ p.leaves.length then
        .error (.argumentCountMismatch p.leaves.length (p.leafArguments arguments).length)
      else
        ((p.leaves.zip (p.leafArguments arguments)).mapM fun (l, argument, type) =>
          Binding.bindLeaf lookup l argument type).map fun bindings =>
            ⟨bindings, Binding.orderByOf (arguments.zip p.parameters),
              Binding.pageOf (arguments.zip p.parameters)⟩ := by
  unfold bind
  simp only [hlength, ne_eq, not_true_eq_false, if_false, hmarkers, Plan.leafArguments]
  by_cases hcount : (List.filter (!·.2.isMarker) (arguments.zip p.parameters)).length =
      p.leaves.length
  · simp only [hcount, not_true_eq_false, if_false]
    cases List.mapM (fun x => Binding.bindLeaf lookup x.1 x.2.1 x.2.2)
      (p.leaves.zip (List.filter (!·.2.isMarker) (arguments.zip p.parameters))) <;> rfl
  · simp only [hcount, not_false_eq_true, if_true]
    rfl

namespace Binding

/-- What may stand at a marker: a request of its own kind, or a null for none. -/
inductive Fits : ParameterType → Argument → Prop
  | page (request : PageRequest) : Fits .page (.page request)
  | ordering (orderBy : OrderBy) : Fits .ordering (.ordering orderBy)
  | noPage : Fits .page .null
  | noOrdering : Fits .ordering .null

theorem fitsMarker_iff {type : ParameterType} {a : Argument} :
    fitsMarker type a = true ↔ Fits type a := by
  constructor
  · intro h
    unfold fitsMarker at h
    split at h
    · exact .page _
    · exact .ordering _
    · exact .noPage
    · exact .noOrdering
    · cases h
  · intro h
    cases h <;> rfl

theorem Fits.isMarker {type : ParameterType} {a : Argument} (h : Fits type a) :
    type.isMarker = true := by
  cases h <;> rfl

theorem checkMarkers_cons (position : Nat) (a : Argument) (type : ParameterType)
    (pairs : List (Argument × ParameterType)) :
    checkMarkers position ((a, type) :: pairs) =
      if type.isMarker && !fitsMarker type a then .error (.invalidArgument position type a)
      else checkMarkers (position + 1) pairs := rfl

theorem checkMarkers_eq_ok_iff {position : Nat} {pairs : List (Argument × ParameterType)} :
    checkMarkers position pairs = .ok () ↔
      ∀ pair ∈ pairs, pair.2.isMarker = true → Fits pair.2 pair.1 := by
  induction pairs generalizing position with
  | nil => simp [checkMarkers]
  | cons pair pairs ih =>
    obtain ⟨a, type⟩ := pair
    rw [List.forall_mem_cons, ← @ih (position + 1), ← fitsMarker_iff, checkMarkers_cons]
    cases type.isMarker <;> cases fitsMarker type a <;> simp

/-- The position is a marker's, and what it holds is neither a request of its kind nor a null. -/
def Misfit (a : Argument) (type : ParameterType) : Prop := type.isMarker = true ∧ ¬Fits type a

theorem misfit_iff {a : Argument} {type : ParameterType} :
    (type.isMarker && !fitsMarker type a) = true ↔ Misfit a type := by
  simp [Misfit, ← fitsMarker_iff]

/-- The error of the markers is that of the first misfit, and names its position. -/
theorem checkMarkers_eq_error_iff {position : Nat} {pairs : List (Argument × ParameterType)}
    {e : QueryError} :
    checkMarkers position pairs = .error e ↔
      ∃ i a type, pairs[i]? = some (a, type) ∧ Misfit a type ∧
        (∀ j < i, ∀ a' type', pairs[j]? = some (a', type') → ¬Misfit a' type') ∧
        e = .invalidArgument (position + i) type a := by
  induction pairs generalizing position with
  | nil => simp [checkMarkers]
  | cons pair pairs ih =>
    obtain ⟨a, type⟩ := pair
    rw [checkMarkers_cons]
    by_cases hmisfit : Misfit a type
    · rw [if_pos (misfit_iff.2 hmisfit)]
      constructor
      · rintro ⟨⟩
        exact ⟨0, a, type, rfl, hmisfit, fun j hj => absurd hj (Nat.not_lt_zero j), rfl⟩
      · rintro ⟨_ | i, a', type', hpair, -, hfirst, rfl⟩
        · cases hpair
          rfl
        · exact absurd hmisfit (hfirst 0 (by omega) a type rfl)
    · rw [if_neg (mt misfit_iff.1 hmisfit), ih]
      constructor
      · rintro ⟨i, a', type', hpair, h, hfirst, rfl⟩
        refine ⟨i + 1, a', type', hpair, h, ?_, by rw [Nat.add_right_comm, Nat.add_assoc]⟩
        rintro (_ | j) hj a'' type'' hpair''
        · cases hpair''
          exact hmisfit
        · exact hfirst j (by omega) a'' type'' hpair''
      · rintro ⟨_ | i, a', type', hpair, h, hfirst, rfl⟩
        · cases hpair
          exact absurd h hmisfit
        · refine ⟨i, a', type', hpair, h, ?_, by rw [Nat.add_right_comm, Nat.add_assoc]⟩
          exact fun j hj => hfirst (j + 1) (by omega)

end Binding

section Errors

open Fallible

variable {P : QueryError → Prop}

theorem fails_toWire (hP : ∀ tag fault, P (.unsupportedParameter tag fault)) (tag : String)
    (value : Scalar) : Fails P (value.toWire tag) := by
  cases value with
  | bigUnsigned v =>
    cases v with
    | none => exact .ok _
    | some n =>
      rw [Scalar.toWire]
      split
      · exact .ok _
      · exact .error (hP _ _)
  | time | dateTime | zonedDateTime | localDateTime | member => exact .error (hP _ _)
  | _ => exact .ok _

variable (hP : ∀ tag fault, P (.unsupportedParameter tag fault))
  (hconverters : ∀ type convert, lookup type = some convert → ∀ a, Fails P (convert a))

include hP

theorem fails_array (tag : String) (declared : ParameterType) (values : List WireValue) :
    Fails P (Coercion.array tag declared values) := by
  unfold Coercion.array
  dsimp only
  split
  · exact .error (hP _ _)
  · exact .ok _

include hconverters

theorem fails_single (tag : String) (argument : Argument) (declared : ParameterType) :
    Fails P (Coercion.single lookup tag argument declared) := by
  cases argument with
  | scalar v => exact fails_toWire hP tag v
  | enumerated type variant => exact .ok _
  | null => exact .ok _
  | object type fields =>
    unfold Coercion.single
    dsimp only
    split
    · next convert hconvert => exact hconverters type convert hconvert _
    · exact .error (hP _ _)
  | list | page | ordering => exact .error (hP _ _)

/-- A coercion fails as its converters do, or for want of a wire value. -/
theorem fails_coerce (tag : String) (argument : Argument) (declared : ParameterType) :
    Fails P (coerce lookup tag argument declared) := by
  unfold coerce
  split
  · refine .bind (.mapM fun item _ => fails_single hP hconverters tag item _) fun values => ?_
    exact fails_array hP tag _ values
  · exact fails_single hP hconverters tag _ declared

theorem fails_bindLeaf (l : Leaf) (argument : Argument) (type : ParameterType) :
    Fails P (Binding.bindLeaf lookup l argument type) := by
  unfold Binding.bindLeaf
  refine .bind (fails_coerce hP hconverters _ _ _) fun value => .bind ?_ fun value' =>
    .bind ?_ fun _ => .ok _
  · unfold Binding.withPattern
    split
    · exact .ok _
    · exact .ok _
    · exact .ok _
    · exact .error (hP _ _)
  · unfold Binding.checkArray
    split
    · exact .error (hP _ _)
    · exact .ok _

omit hP hconverters

theorem fails_checkMarkers
    (hP : ∀ position type argument, P (.invalidArgument position type argument))
    (position : Nat) (pairs : List (Argument × ParameterType)) :
    Fails P (Binding.checkMarkers position pairs) := by
  induction pairs generalizing position with
  | nil => exact .ok ()
  | cons pair pairs ih =>
    unfold Binding.checkMarkers
    split
    · exact .error (hP _ _ _)
    · exact ih _

/-- Binding fails as the converters do, or with a binding error. -/
theorem fails_bind (hP : ∀ e, e.isBindingError = true → P e)
    (hconverters : ∀ type convert, lookup type = some convert → ∀ a, Fails P (convert a))
    (p : Plan) (arguments : List Argument) : Fails P (bind lookup p arguments) := by
  unfold bind
  split
  · exact .error (hP _ rfl)
  · refine .bind (fails_checkMarkers (fun _ _ _ => hP _ rfl) _ _) fun _ => ?_
    dsimp only
    split
    · exact .error (hP _ rfl)
    · refine .bind (.mapM fun leaf _ => ?_) fun _ => .ok _
      exact fails_bindLeaf (fun _ _ => hP _ rfl) hconverters _ _ _

end Errors

theorem tag_of_bindLeaf {l : Leaf} {argument : Argument} {type : ParameterType} {b : TagBinding}
    (h : Binding.bindLeaf lookup l argument type = .ok b) : b.tag = Sql.tagName l.tag := by
  obtain ⟨_, -, h⟩ := Fallible.bind_eq_ok_iff.1 h
  obtain ⟨_, -, h⟩ := Fallible.bind_eq_ok_iff.1 h
  obtain ⟨_, -, h⟩ := Fallible.bind_eq_ok_iff.1 h
  cases h
  rfl

theorem tags_of_bind (h : bind lookup p arguments = .ok bound) :
    bound.bindings.map (·.tag) = p.leaves.map fun l => Sql.tagName l.tag := by
  obtain ⟨-, -, hcount, hbindings, -, -⟩ := bind_eq_ok_iff.1 h
  have hpairs := Fallible.mapM_eq_ok_iff.1 hbindings
  have htags : bound.bindings.map (·.tag) =
      (p.leaves.zip (p.leafArguments arguments)).map fun pair => Sql.tagName pair.1.tag := by
    rw [eq_comm, ← List.forall₂_eq_eq_eq, List.forall₂_map_left_iff, List.forall₂_map_right_iff]
    exact hpairs.imp fun _ _ hb => (tag_of_bindLeaf hb).symm
  have hleaves : (p.leaves.zip (p.leafArguments arguments)).map (·.1) = p.leaves :=
    List.map_fst_zip (by omega)
  rw [htags]
  conv_rhs => rw [← hleaves, List.map_map]
  rfl

end DerivedQuery
