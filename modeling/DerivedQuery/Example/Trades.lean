import DerivedQuery.Converter.Standard
import DerivedQuery.Entity
import DerivedQuery.Execution

/-!
An entity to try the library on: trades with an amount of money, and the trade that a row holds.
-/

namespace DerivedQuery.Example

/-- The table of trades. A parameter of type `Money` binds its amount. -/
def trades : Entity :=
  { table := "trades"
    columns :=
      [⟨"shares", "shares", .float64, false⟩, ⟨"traderId", "trader_id", .string, false⟩,
       ⟨"symbol", "ticker", .string, false⟩, ⟨"price", "price", .float64, false⟩,
       ⟨"action", "action", .string, false⟩, ⟨"id", "id", .string, true⟩,
       ⟨"value", "value", .numeric, false⟩]
    converters := .ofList [("Money", Converter.field "amount" "money")] }

structure Trade where
  id : String
  action : String
  price : Double
  deriving DecidableEq, Repr

namespace Trade

def textColumn (r : Row) (column : String) : Except QueryError String := do
  match (← r.get column).string? with
  | some s => return s
  | none => throw (.rowMapping (.unreadable (column ++ " is not a string")))

/-- The price is looked up first. -/
def ofRow : RowMapper Trade := fun r => do
  let price ←
    match (← r.get "price").float64? with
    | some x => pure x
    | none => throw (.rowMapping (.unreadable "price is not a float"))
  return { id := ← textColumn r "id", action := ← textColumn r "action", price }

end Trade

end DerivedQuery.Example
