import DerivedQuery.Coercion
import DerivedQuery.Plan
import DerivedQuery.Statement

/-!
Binding the arguments of a call to the tags of a plan. Paging and sorting arguments are set aside;
the others belong to the leaves in order, one to each.
-/

namespace DerivedQuery

structure BoundArguments where
  /-- One binding per leaf, in the order of the tags. -/
  bindings : List TagBinding
  orderBy : Option OrderBy
  page : Option PageRequest

namespace Binding

/-- Whether an argument can stand at a marker: its own kind, or a null for no request. -/
def fitsMarker : ParameterType → Argument → Bool
  | .page, .page _ | .ordering, .ordering _ | .page, .null | .ordering, .null => true
  | _, _ => false

/-- The first argument that does not fit its marker fails, with its position. -/
def checkMarkers (position : Nat) : List (Argument × ParameterType) → Except QueryError Unit
  | [] => .ok ()
  | (argument, type) :: rest =>
    if type.isMarker && !fitsMarker type argument then
      .error (.invalidArgument position type argument)
    else checkMarkers (position + 1) rest

def pageOf : List (Argument × ParameterType) → Option PageRequest :=
  List.findSome? fun
    | (.page request, .page) => some request
    | _ => none

def orderByOf : List (Argument × ParameterType) → Option OrderBy :=
  List.findSome? fun
    | (.ordering orderBy, .ordering) => some orderBy
    | _ => none

/-- A value with the wildcards of the leaf around it. Only strings take wildcards; a null stays. -/
def withPattern (l : Leaf) (value : WireValue) : Except QueryError WireValue :=
  match l.operator.pattern?, value with
  | none, v => .ok v
  | some pattern, .string s => .ok (.string (pattern.apply s))
  | some _, .null t => .ok (.null t)
  | some _, v =>
    .error (.unsupportedParameter (Sql.tagName l.tag) (.expectsString v.type l.operator))

/-- An operator that takes an array gets one. -/
def checkArray (l : Leaf) (value : WireValue) : Except QueryError Unit :=
  if l.operator.takesArray && !value.type.isArray then
    .error (.unsupportedParameter (Sql.tagName l.tag) (.expectsArray value.type l.operator))
  else .ok ()

def bindLeaf (lookup : String → Option Converter) (l : Leaf) (argument : Argument)
    (type : ParameterType) : Except QueryError TagBinding := do
  let value ← coerce lookup (Sql.tagName l.tag) argument type
  let value ← withPattern l value
  checkArray l value
  return ⟨Sql.tagName l.tag, value⟩

end Binding

def bind (lookup : String → Option Converter) (p : Plan) (arguments : List Argument) :
    Except QueryError BoundArguments := do
  if arguments.length ≠ p.parameters.length then
    throw (.signatureMismatch p.parameters.length arguments.length)
  let pairs := arguments.zip p.parameters
  Binding.checkMarkers 0 pairs
  let bindable := pairs.filter (!·.2.isMarker)
  if bindable.length ≠ p.leaves.length then
    throw (.argumentCountMismatch p.leaves.length bindable.length)
  let bindings ← (p.leaves.zip bindable).mapM fun (l, argument, type) =>
    Binding.bindLeaf lookup l argument type
  return ⟨bindings, Binding.orderByOf pairs, Binding.pageOf pairs⟩

end DerivedQuery
