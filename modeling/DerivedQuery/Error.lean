import DerivedQuery.Argument
import DerivedQuery.Operation
import DerivedQuery.Operator

/-!
Everything that can go wrong, by cause. Plan errors show on the method alone; binding errors show on
the arguments of a call, before anything runs; the others come from the transport or from its rows.
-/

namespace DerivedQuery

/-- Why a text is no query name. -/
inductive NameFault where
  | unknownVerb (verbs : List String)
  | noOperation (verb : String)
  | limitTooLarge (digits : String)
  | limitZero (keyword digits : String)
  | emptyClause
  | emptySegment (clause property : String)
  | emptyOrdering
  | emptyOrderingSegment (ordering property : String)
  deriving DecidableEq, Repr

/-- Why a query cannot have the signature of its method. -/
inductive SignatureFault where
  | tooManyMarkers (pages orderings : Nat)
  | shapeMismatch (operation : Operation) (shape : ResultShape)
  deriving DecidableEq, Repr

/-- What an entity lacks. -/
inductive MetadataFault where
  | unknownProperty (table path : String)
  | noPrimaryKey (table : String)
  deriving DecidableEq, Repr

/-- Why an argument has no wire value for its tag. -/
inductive CoercionFault where
  | exceedsInt64 (n : UInt64)
  | noWireForm (value : Scalar)
  | nestedList
  | mixedElements (element other : WireType)
  | noConverter (type : String)
  | marker (argument : Argument)
  | expectsString (found : WireType) (operator : Operator)
  | expectsArray (found : WireType) (operator : Operator)

/-- Why a row does not give what is asked of it. -/
inductive RowFault where
  | missingColumn (column : String)
  | noColumns
  | notACount (found : WireType)
  | notAnExistence (found : WireType)
  | unreadable (reason : String)
  deriving DecidableEq, Repr

inductive QueryError where
  | invalidName (method : String) (fault : NameFault)
  | unsupportedOperator (operator : Operator)
  | invalidSignature (method : String) (fault : SignatureFault)
  | argumentCountMismatch (tags arguments : Nat)
  | signatureMismatch (declared supplied : Nat)
  | invalidArgument (position : Nat) (expected : ParameterType) (found : Argument)
  | unsupportedParameter (tag : String) (fault : CoercionFault)
  | metadata (fault : MetadataFault)
  | nonUniqueResult (rows : Nat)
  | execution (reason : String)
  | rowMapping (fault : RowFault)
  | configuration (reason : String)
  | other (reason : String)

def NameFault.text : NameFault → String
  | .unknownVerb verbs => "expected one of the prefixes [" ++ ", ".intercalate verbs ++ "]"
  | .noOperation verb => "unknown prefix '" ++ verb ++ "'"
  | .limitTooLarge digits =>
    "invalid limit '" ++ digits ++ "': number too large to fit in target type"
  | .limitZero keyword digits => keyword ++ digits ++ " must select at least one row"
  | .emptyClause => "empty condition between And/Or keywords"
  | .emptySegment clause property =>
    "clause '" ++ clause ++ "': empty property segment in '" ++ property ++ "'"
  | .emptyOrdering => "OrderBy must name at least one property"
  | .emptyOrderingSegment ordering property =>
    "OrderBy clause '" ++ ordering ++ "': empty property segment in '" ++ property ++ "'"

def SignatureFault.text : SignatureFault → String
  | .tooManyMarkers pages orderings =>
    "at most one Pageable or Sort parameter is allowed, found " ++ toString pages ++
      " Pageable and " ++ toString orderings ++ " Sort"
  | .shapeMismatch operation shape =>
    "a " ++ operation.name ++ " query cannot return " ++ shape.name

def MetadataFault.text : MetadataFault → String
  | .unknownProperty table path =>
    "No property '" ++ path ++ "' found on entity mapped to table '" ++ table ++ "'"
  | .noPrimaryKey table => "Entity mapped to table '" ++ table ++ "' declares no primary key"

def CoercionFault.text : CoercionFault → String
  | .exceedsInt64 n => "BigUnsigned(" ++ toString n.toNat ++ ") exceeds INT64"
  | .noWireForm value => value.described
  | .nestedList => "nested List"
  | .mixedElements element other => "mixed array of " ++ element.text ++ " and " ++ other.text
  | .noConverter type => type
  | .marker argument => argument.kindName
  | .expectsString found operator => found.text ++ " (expected STRING for " ++ operator.name ++ ")"
  | .expectsArray found operator => found.text ++ " (expected ARRAY for " ++ operator.name ++ ")"

def RowFault.text : RowFault → String
  | .missingColumn column => "column '" ++ column ++ "' not present in row"
  | .noColumns => "row has no columns"
  | .notACount found => "count returned " ++ found.text
  | .notAnExistence found => "exists returned " ++ found.text
  | .unreadable reason => reason

namespace QueryError

def message : QueryError → String
  | .invalidName method fault => "Invalid query method name '" ++ method ++ "': " ++ fault.text
  | .unsupportedOperator op =>
    "The statement type: " ++ op.name ++ " (" ++ toString op.arity ++ "): [" ++
      ", ".intercalate op.keywords ++ "] is not supported."
  | .invalidSignature method fault =>
    "Invalid signature for query method '" ++ method ++ "': " ++ fault.text
  | .argumentCountMismatch tags arguments =>
    "The number of tags (" ++ toString tags ++ ") does not match the number of params (" ++
      toString arguments ++ ")."
  | .signatureMismatch declared supplied =>
    "Query method declares " ++ toString declared ++ " parameter(s) but was called with " ++
      toString supplied ++ " argument(s)"
  | .invalidArgument position expected found =>
    "Argument at position " ++ toString position ++ " must be " ++ expected.name ++ ", found " ++
      found.kindName
  | .unsupportedParameter tag fault => tag ++ " is not a supported type: " ++ fault.text
  | .metadata fault => fault.text
  | .nonUniqueResult rows =>
    "Single-result query matched " ++ toString rows ++ " rows (strict_single_result is enabled)"
  | .execution reason => "Execution error: " ++ reason
  | .rowMapping fault => "Row mapping error: " ++ fault.text
  | .configuration reason => "Configuration error: " ++ reason
  | .other reason => "Query engine error: " ++ reason

/-- The error shows on the method, whatever its arguments. -/
def isPlanError : QueryError → Bool
  | .invalidName .. | .unsupportedOperator .. | .invalidSignature .. | .metadata .. => true
  | _ => false

/-- The error shows on the arguments, before anything runs. -/
def isBindingError : QueryError → Bool
  | .argumentCountMismatch .. | .signatureMismatch .. | .invalidArgument .. => true
  | .unsupportedParameter .. => true
  | _ => false

/-- The text of the fault that the error passes on unchanged. -/
def source? : QueryError → Option String
  | .metadata fault => some fault.text
  | _ => none

end QueryError

end DerivedQuery
