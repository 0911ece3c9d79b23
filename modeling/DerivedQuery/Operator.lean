import DerivedQuery.Text.Search

/-!
The operators of a condition. An operator is chosen by the keyword that ends a clause; the longest
keyword wins as long as a property is left before it.
-/

namespace DerivedQuery

inductive Operator where
  | isNotNull
  | isNull
  | between
  | less
  | lessEqual
  | greater
  | greaterEqual
  | before
  | after
  | notLike
  | like
  | startingWith
  | endingWith
  | isNotEmpty
  | isEmpty
  | notContaining
  | containing
  | notIn
  | isIn
  | near
  | within
  | regex
  | exist
  | isTrue
  | isFalse
  | differs
  | equals
  deriving DecidableEq, Repr

/-- Where wildcards go around the value of a pattern. -/
inductive LikePattern where
  | contains
  | startsWith
  | endsWith
  deriving DecidableEq, Repr

def LikePattern.apply : LikePattern → String → String
  | .contains, s => "%" ++ s ++ "%"
  | .startsWith, s => s ++ "%"
  | .endsWith, s => "%" ++ s

namespace Operator

/-- Every operator, in the order in which diagnostics number them. -/
def all : List Operator :=
  [.isNotNull, .isNull, .between, .less, .lessEqual, .greater, .greaterEqual, .before, .after,
   .notLike, .like, .startingWith, .endingWith, .isNotEmpty, .isEmpty, .notContaining, .containing,
   .notIn, .isIn, .near, .within, .regex, .exist, .isTrue, .isFalse, .differs, .equals]

def keywords : Operator → List String
  | .equals => ["Is", "Equals"]
  | .differs => ["IsNot", "Not"]
  | .isNull => ["IsNull", "Null"]
  | .isNotNull => ["IsNotNull", "NotNull"]
  | .less => ["IsLessThan", "LessThan"]
  | .lessEqual => ["IsLessThanEqual", "LessThanEqual"]
  | .greater => ["IsGreaterThan", "GreaterThan"]
  | .greaterEqual => ["IsGreaterThanEqual", "GreaterThanEqual"]
  | .like => ["IsLike", "Like"]
  | .notLike => ["IsNotLike", "NotLike"]
  | .startingWith => ["IsStartingWith", "StartingWith", "StartsWith"]
  | .endingWith => ["IsEndingWith", "EndingWith", "EndsWith"]
  | .containing => ["IsContaining", "Containing", "Contains"]
  | .notContaining => ["IsNotContaining", "NotContaining", "NotContains"]
  | .isIn => ["IsIn", "In"]
  | .notIn => ["IsNotIn", "NotIn"]
  | .regex => ["MatchesRegex", "Matches", "Regex"]
  | .isTrue => ["IsTrue", "True"]
  | .isFalse => ["IsFalse", "False"]
  | .between => ["IsBetween", "Between"]
  | .before => ["IsBefore", "Before"]
  | .after => ["IsAfter", "After"]
  | .isEmpty => ["IsEmpty", "Empty"]
  | .isNotEmpty => ["IsNotEmpty", "NotEmpty"]
  | .near => ["IsNear", "Near"]
  | .within => ["IsWithin", "Within"]
  | .exist => ["Exists"]

def name : Operator → String
  | .equals => "SIMPLE_PROPERTY"
  | .differs => "NEGATING_SIMPLE_PROPERTY"
  | .isNull => "IS_NULL"
  | .isNotNull => "IS_NOT_NULL"
  | .less => "LESS_THAN"
  | .lessEqual => "LESS_THAN_EQUAL"
  | .greater => "GREATER_THAN"
  | .greaterEqual => "GREATER_THAN_EQUAL"
  | .like => "LIKE"
  | .notLike => "NOT_LIKE"
  | .startingWith => "STARTING_WITH"
  | .endingWith => "ENDING_WITH"
  | .containing => "CONTAINING"
  | .notContaining => "NOT_CONTAINING"
  | .isIn => "IN"
  | .notIn => "NOT_IN"
  | .regex => "REGEX"
  | .isTrue => "TRUE"
  | .isFalse => "FALSE"
  | .between => "BETWEEN"
  | .before => "BEFORE"
  | .after => "AFTER"
  | .isEmpty => "IS_EMPTY"
  | .isNotEmpty => "IS_NOT_EMPTY"
  | .near => "NEAR"
  | .within => "WITHIN"
  | .exist => "EXISTS"

/-- How many values the operator compares with. -/
def arity : Operator → Nat
  | .isNull | .isNotNull | .isTrue | .isFalse | .isEmpty | .isNotEmpty | .exist => 0
  | .between => 2
  | _ => 1

/-- Whether a statement can express the operator. The others are known so that they can be refused
by name. -/
def isSupported : Operator → Bool
  | .between | .before | .after | .isEmpty | .isNotEmpty | .near | .within | .exist => false
  | _ => true

/-- Whether ignoring case makes sense: for the comparison with one single value. -/
def canFold : Operator → Bool
  | .equals | .differs | .less | .lessEqual | .greater | .greaterEqual => true
  | .like | .notLike | .startingWith | .endingWith | .containing | .notContaining => true
  | _ => false

def pattern? : Operator → Option LikePattern
  | .containing | .notContaining => some .contains
  | .startingWith => some .startsWith
  | .endingWith => some .endsWith
  | _ => none

def takesArray : Operator → Bool
  | .isIn | .notIn => true
  | _ => false

/-- The comparison of a column with a parameter, for the operators that have one. -/
def comparison? (column parameter : String) : Operator → Option String
  | .equals => some (column ++ "=" ++ parameter)
  | .differs => some (column ++ "<>" ++ parameter)
  | .isNull => some (column ++ "=NULL")
  | .isNotNull => some (column ++ "<>NULL")
  | .less => some (column ++ "<" ++ parameter)
  | .lessEqual => some (column ++ "<=" ++ parameter)
  | .greater => some (column ++ ">" ++ parameter)
  | .greaterEqual => some (column ++ ">=" ++ parameter)
  | .like | .startingWith | .endingWith | .containing => some (column ++ " LIKE " ++ parameter)
  | .notLike | .notContaining => some (column ++ " NOT LIKE " ++ parameter)
  | .isIn => some (column ++ " IN UNNEST(" ++ parameter ++ ")")
  | .notIn => some (column ++ " NOT IN UNNEST(" ++ parameter ++ ")")
  | .regex => some ("REGEXP_CONTAINS(" ++ column ++ "," ++ parameter ++ ")")
  | .isTrue => some (column ++ "=TRUE")
  | .isFalse => some (column ++ "=FALSE")
  | _ => none

def vocabulary : List (List Char × Operator) :=
  all.flatMap fun op => op.keywords.map fun k => (k.toList, op)

/-- A property and the operator after it; the better of two has the longer keyword. -/
def longest (clause : List Char) (best : Option (List Char × List Char × Operator))
    (entry : List Char × Operator) : Option (List Char × List Char × Operator) :=
  match Text.dropFinal? entry.1 clause with
  | none => best
  | some property =>
    if property = [] then best
    else
      match best with
      | some (keyword, _, _) =>
        if keyword.length < entry.1.length then some (entry.1, property, entry.2) else best
      | none => some (entry.1, property, entry.2)

/-- The property of a clause and its operator. Without a keyword the property is compared for
equality. -/
def detect (clause : List Char) : List Char × Operator :=
  match vocabulary.foldl (longest clause) none with
  | some (_, property, op) => (property, op)
  | none => (clause, .equals)

theorem mem_all (op : Operator) : op ∈ all := by
  cases op <;> decide

theorem isSome_comparison? (op : Operator) (column parameter : String) :
    (op.comparison? column parameter).isSome = op.isSupported := by
  cases op <;> rfl

end Operator

end DerivedQuery
