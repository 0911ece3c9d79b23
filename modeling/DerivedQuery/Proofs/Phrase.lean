import DerivedQuery.Proofs.Detection
import DerivedQuery.Proofs.LetterCase
import DerivedQuery.QueryName.Reader

/-!
Query names as they are written. A phrase carries the proofs of its form: its properties are made of
plain words, and none of these words is one that the parts of a name are told apart by.
-/

namespace DerivedQuery

open Text

namespace Phrase

def andText : List Char := ['A', 'n', 'd']

def orText : List Char := ['O', 'r']

def orderText : List Char := ['O', 'r', 'd', 'e', 'r']

def allText : List Char := ['A', 'l', 'l']

def caseText : List Char := ['C', 'a', 's', 'e']

/-- The words around and between the clauses of a name. -/
def structuralWords : List (List Char) :=
  [andText, orText, orderText, QueryName.byWord, ['A', 's', 'c'], ['D', 'e', 's', 'c'], allText,
   ['I', 'g', 'n', 'o', 'r', 'e'], ['I', 'g', 'n', 'o', 'r', 'i', 'n', 'g'], caseText]

/-- The words that no property contains. -/
def reserved : List (List Char) := structuralWords ++ Operator.keywordWords

/-- A capital, then lower-case letters and digits. -/
structure Word where
  initial : Char
  rest : List Char
  capital : isCapital initial = true
  plain : rest.all continuesWord = true

def Word.chars (w : Word) : List Char := w.initial :: w.rest

structure Segment where
  parts : List Word
  ne_nil : parts ≠ []
  free : ∀ w ∈ parts, w.chars ∉ reserved

def Segment.chars (s : Segment) : List Char := s.parts.flatMap Word.chars

/-- The field that a segment names. -/
def Segment.field (s : Segment) : String := String.ofList (s.chars.modifyHead Char.toLower)

structure Path where
  segments : List Segment
  ne_nil : segments ≠ []

def Path.chars (p : Path) : List Char := ['_'].intercalate (p.segments.map Segment.chars)

def Path.property (p : Path) : PropertyPath := ⟨p.segments.map Segment.field⟩

/-- The two ways to write that case is ignored. -/
inductive FoldEnding where
  | ignoreCase
  | ignoringCase

def FoldEnding.chars : FoldEnding → List Char
  | .ignoreCase => ['I', 'g', 'n', 'o', 'r', 'e', 'C', 'a', 's', 'e']
  | .ignoringCase => ['I', 'g', 'n', 'o', 'r', 'i', 'n', 'g', 'C', 'a', 's', 'e']

/-- How an operator is written: by one of its keywords, and equality also by none. -/
def spellings (op : Operator) : List (List Char) :=
  op.keywords.map String.toList ++ if op = .equals then [[]] else []

structure Clause where
  path : Path
  operator : Operator
  keyword : List Char
  spells : keyword ∈ spellings operator
  ending : Option FoldEnding

def Clause.chars (c : Clause) : List Char :=
  c.path.chars ++ c.keyword ++ (c.ending.map FoldEnding.chars).getD []

/-- The condition that a clause states where all clauses ignore case or not. -/
def Clause.condition (foldAll : Bool) (c : Clause) : Condition :=
  { path := c.path.property
    operator := c.operator
    casePolicy :=
      if c.ending.isSome then .always else if foldAll then .whenPossible else .never
    clause := String.ofList c.chars }

structure Group where
  clauses : List Clause
  ne_nil : clauses ≠ []

def Group.chars (g : Group) : List Char := andText.intercalate (g.clauses.map Clause.chars)

inductive LimitWord where
  | top
  | first

def LimitWord.chars : LimitWord → List Char
  | .top => QueryName.topWord
  | .first => QueryName.firstWord

structure Limit where
  word : LimitWord
  count : Nat
  pos : 0 < count
  le : count ≤ greatestCount

def Limit.chars (l : Limit) : List Char := l.word.chars ++ numeral l.count

/-- The subject of a name, with its two parts in either order. -/
structure Subject where
  distinct : Bool
  limit : Option Limit
  limitFirst : Bool

def Subject.distinctChars (s : Subject) : List Char :=
  if s.distinct then QueryName.distinctWord else []

def Subject.limitChars (s : Subject) : List Char := (s.limit.map Limit.chars).getD []

def Subject.chars (s : Subject) : List Char :=
  if s.limitFirst then s.limitChars ++ s.distinctChars else s.distinctChars ++ s.limitChars

def directionChars : Direction → List Char
  | .asc => ['A', 's', 'c']
  | .desc => ['D', 'e', 's', 'c']

end Phrase

structure Phrase where
  verb : List Char × Operation
  isVerb : verb ∈ QueryName.verbs
  subject : Phrase.Subject
  groups : List Phrase.Group
  foldAll : Option Phrase.FoldEnding
  orderBy : List (Phrase.Path × Direction)

namespace Phrase

def body (p : Phrase) : List Char := orText.intercalate (p.groups.map Group.chars)

def foldAllChars (p : Phrase) : List Char :=
  (p.foldAll.map fun ending => allText ++ ending.chars).getD []

def keysChars (keys : List (Path × Direction)) : List Char :=
  keys.flatMap fun (path, direction) => path.chars ++ directionChars direction

def orderingChars (p : Phrase) : List Char :=
  if p.orderBy.isEmpty then [] else QueryName.orderByWord ++ keysChars p.orderBy

def predicate (p : Phrase) : List Char := p.body ++ p.foldAllChars ++ p.orderingChars

def chars (p : Phrase) : List Char :=
  p.verb.1 ++ (p.subject.chars ++ (QueryName.byWord ++ p.predicate))

def text (p : Phrase) : String := String.ofList p.chars

/-- The query that the phrase asks for. -/
def query (p : Phrase) : QueryName :=
  { text := p.text
    operation := p.verb.2
    distinct := p.subject.distinct
    limit := p.subject.limit.map Limit.count
    groups := p.groups.map fun g => g.clauses.map (Clause.condition p.foldAll.isSome)
    orderBy :=
      ⟨p.orderBy.map fun (path, direction) => { property := path.property.dotted, direction }⟩ }

end Phrase

end DerivedQuery
