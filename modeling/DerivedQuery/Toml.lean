import DerivedQuery.Number.Binary

/-!
Values of the TOML format. Dates and times are kept as they are written.
-/

namespace DerivedQuery

inductive Toml where
  | string (s : String)
  | integer (n : Int)
  | float (x : Double)
  | boolean (b : Bool)
  | moment (text : String)
  | array (items : List Toml)
  | table (entries : List (String × Toml))
  deriving Repr, Inhabited

end DerivedQuery
