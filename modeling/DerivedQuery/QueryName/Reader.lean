import DerivedQuery.Error
import DerivedQuery.QueryName
import DerivedQuery.Text.Case
import DerivedQuery.Text.Delimiter
import DerivedQuery.Text.Digits
import DerivedQuery.Text.Pattern

/-!
Reading a query name. After its verb a name is a subject, then a predicate from the first `By` on,
then an ordering from the first `OrderBy` of the predicate on. The predicate is cut at `Or` and each
part of it at `And`, wherever an upper-case character follows. Verb, subject and predicate are found
by two patterns, of which the second one is for names without a predicate.
-/

namespace DerivedQuery.QueryName

def verbWords : List (List Char) :=
  [['f', 'i', 'n', 'd'], ['r', 'e', 'a', 'd'], ['g', 'e', 't'], ['q', 'u', 'e', 'r', 'y'],
   ['s', 'e', 'a', 'r', 'c', 'h'], ['s', 't', 'r', 'e', 'a', 'm'], ['c', 'o', 'u', 'n', 't'],
   ['e', 'x', 'i', 's', 't', 's'], ['d', 'e', 'l', 'e', 't', 'e'], ['r', 'e', 'm', 'o', 'v', 'e']]

def verbs : List (List Char × Operation) :=
  [(['f', 'i', 'n', 'd'], .find), (['r', 'e', 'a', 'd'], .find), (['g', 'e', 't'], .find),
   (['q', 'u', 'e', 'r', 'y'], .find), (['s', 'e', 'a', 'r', 'c', 'h'], .find),
   (['s', 't', 'r', 'e', 'a', 'm'], .find), (['c', 'o', 'u', 'n', 't'], .count),
   (['e', 'x', 'i', 's', 't', 's'], .exist), (['d', 'e', 'l', 'e', 't', 'e'], .delete),
   (['r', 'e', 'm', 'o', 'v', 'e'], .delete)]

def byWord : List Char := ['B', 'y']

def orderByWord : List Char := ['O', 'r', 'd', 'e', 'r', 'B', 'y']

def distinctWord : List Char := ['D', 'i', 's', 't', 'i', 'n', 'c', 't']

def topWord : List Char := ['T', 'o', 'p']

def firstWord : List Char := ['F', 'i', 'r', 's', 't']

/-- The endings of one clause that ignores case. -/
def foldEndings : List (List Char) :=
  [['I', 'g', 'n', 'o', 'r', 'e', 'C', 'a', 's', 'e'],
   ['I', 'g', 'n', 'o', 'r', 'i', 'n', 'g', 'C', 'a', 's', 'e']]

/-- The endings of a predicate whose clauses all ignore case where they can. -/
def foldAllEndings : List (List Char) := foldEndings.map (['A', 'l', 'l'] ++ ·)

/-- A word between clauses, wherever an upper-case character follows it. -/
def connective (word : List Char) : Text.Delimiter Unit := ⟨[(word, ())], Text.startsUpper⟩

def orWord : Text.Delimiter Unit := connective ['O', 'r']

def andWord : Text.Delimiter Unit := connective ['A', 'n', 'd']

/-- A direction, wherever an upper-case character follows it or nothing at all. -/
def directionWord : Text.Delimiter Direction :=
  ⟨[(['A', 's', 'c'], .asc), (['D', 'e', 's', 'c'], .desc)],
    fun rest => rest.isEmpty || Text.startsUpper rest⟩

/-- `s` without the first of the endings that it has. -/
def dropEnding? (endings : List (List Char)) (s : List Char) : Option (List Char) :=
  endings.findSome? fun e => Text.dropFinal? e s

def inLine (c : Char) : Bool := c ≠ '\n'

def verbPart : Text.Pattern := .group 1 (.oneOf verbWords)

/-- A subject begins with an upper-case letter. -/
def subjectPart (greedy : Bool) : Text.Pattern :=
  .maybe greedy (.group 2 (.seq (.one Text.isUpperLetter) (.many greedy inLine)))

def predicatePart : Text.Pattern :=
  .seq (.oneOf [byWord]) (.seq (.group 3 (.many true inLine)) .textEnd)

/-- The names with a predicate; the subject is as short as it can be. -/
def nameWithPredicate : Text.Pattern := .seq verbPart (.seq (subjectPart false) predicatePart)

def nameWithoutPredicate : Text.Pattern := .seq verbPart (.seq (subjectPart true) .textEnd)

structure Sections where
  verb : List Char
  subject : List Char
  predicate : List Char

def sections? (name : List Char) : Option Sections :=
  match nameWithPredicate.atFront? name with
  | some groups => some ⟨groups.text 1, groups.text 2, groups.text 3⟩
  | none =>
    match nameWithoutPredicate.atFront? name with
    | some groups => some ⟨groups.text 1, groups.text 2, []⟩
    | none => none

/-- The count after a limiting word: the digits that follow it, or one. -/
def limitAfter (word rest : List Char) : Except NameFault Nat :=
  let digits := (Text.spanDigits rest).1
  if digits = [] then .ok 1
  else
    let n := Text.decimalValue digits
    if Nat.pow 2 64 ≤ n then .error (.limitTooLarge (String.ofList digits))
    else if n = 0 then .error (.limitZero (String.ofList word) (String.ofList digits))
    else .ok n

/-- The limit of a subject, by the first limiting word in it. -/
def readLimit (subject : List Char) : Except NameFault (Option Nat) :=
  match Text.splitFirst? topWord subject with
  | some (_, rest) => (limitAfter topWord rest).map some
  | none =>
    match Text.splitFirst? firstWord subject with
    | some (_, rest) => (limitAfter firstWord rest).map some
    | none => .ok none

/-- The path of a property, its segments between underscores and each begun in lower case. -/
def path? (property : List Char) : Option PropertyPath :=
  let segments := Text.fields '_' property
  if segments.any List.isEmpty then none
  else some ⟨segments.map fun s => String.ofList (Text.uncapitalize s)⟩

/-- The case policy of a clause, and the clause without the ending that sets it. -/
def casePolicy (foldAll : Bool) (clause : List Char) : CasePolicy × List Char :=
  match dropEnding? foldEndings clause with
  | some (c :: rest) => (.always, c :: rest)
  | _ => (if foldAll then .whenPossible else .never, clause)

def readCondition (foldAll : Bool) (clause : List Char) : Except NameFault Condition :=
  if clause = [] then .error .emptyClause
  else
    let (policy, rest) := casePolicy foldAll clause
    let (property, operator) := Operator.detect rest
    match path? property with
    | some path => .ok ⟨path, operator, policy, String.ofList clause⟩
    | none => .error (.emptySegment (String.ofList clause) (String.ofList property))

/-- The clauses of a predicate, group by group. -/
def clauses (predicate : List Char) : List (List (List Char)) :=
  if predicate = [] then [] else (orWord.pieces predicate).map andWord.pieces

def readGroups (foldAll : Bool) (predicate : List Char) :
    Except NameFault (List (List Condition)) :=
  (clauses predicate).mapM fun group => group.mapM (readCondition foldAll)

/-- One key of an ordering; without a direction it ascends. -/
def sortKey (ordering : List Char) (part : List Char × Option (List Char × Direction)) :
    Except NameFault SortKey :=
  match path? part.1 with
  | some path => .ok { property := path.dotted, direction := (part.2.map (·.2)).getD .asc }
  | none => .error (.emptyOrderingSegment (String.ofList ordering) (String.ofList part.1))

def readOrdering (text : List Char) : Except NameFault OrderBy :=
  if text = [] then .error .emptyOrdering
  else do return ⟨← (directionWord.split text).mapM (sortKey text)⟩

def readOrderBy : Option (List Char) → Except NameFault OrderBy
  | some text => readOrdering text
  | none => .ok {}

/-- The predicate in front of the first `OrderBy`, and the ordering after it. -/
def splitOrdering (predicate : List Char) : List Char × Option (List Char) :=
  match Text.splitFirst? orderByWord predicate with
  | some (before, after) => (before, some after)
  | none => (predicate, none)

/-- The predicate without the ending that folds all its clauses, and whether it had one. -/
def splitFoldAll (predicate : List Char) : List Char × Bool :=
  match dropEnding? foldAllEndings predicate with
  | some rest => (rest, true)
  | none => (predicate, false)

def readSections (name : List Char) (s : Sections) (operation : Operation) :
    Except NameFault QueryName := do
  let limit ← readLimit s.subject
  let (predicate, orderText) := splitOrdering s.predicate
  let (predicate, foldAll) := splitFoldAll predicate
  let groups ← readGroups foldAll predicate
  let orderBy ← readOrderBy orderText
  return { text := String.ofList name
           operation
           distinct := Text.occurs distinctWord s.subject
           limit, groups, orderBy }

def readChars (name : List Char) : Except NameFault QueryName :=
  match sections? name with
  | none => .error (.unknownVerb (verbWords.map String.ofList))
  | some s =>
    match verbs.lookup s.verb with
    | none => .error (.noOperation (String.ofList s.verb))
    | some operation => readSections name s operation

def parse (name : String) : Except QueryError QueryName :=
  match readChars name.toList with
  | .ok q => .ok q
  | .error fault => .error (.invalidName name fault)

end DerivedQuery.QueryName
