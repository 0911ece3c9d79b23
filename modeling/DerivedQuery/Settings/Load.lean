import DerivedQuery.Settings
import DerivedQuery.Settings.Source
import DerivedQuery.Toml.Reader

/-!
Loading the settings from a document and the environment, which wins. A document that is no TOML is
passed over; a value of the wrong kind is an error, and a missing one takes its default.
-/

namespace DerivedQuery

namespace Setting

def truthWord? (s : String) : Option Bool :=
  let word := Text.lowerAll s
  if word ∈ ["true", "on", "yes"] then some true
  else if word ∈ ["false", "off", "no"] then some false
  else none

/-- A truth value: itself, a number other than zero, or a word. -/
def bool? : Setting → Option Bool
  | .boolean b => some b
  | .integer n => some (n != 0)
  | .float x => some (!x.isZero)
  | .text "1" => some true
  | .text "0" => some false
  | .text s => truthWord? s
  | _ => none

def numeral? (s : List Char) : Option Nat :=
  match s with
  | '+' :: ds => Text.natural? ds
  | ds => Text.natural? ds

def greatestNatural : Nat := Nat.pow 2 64 - 1

/-- A natural number: itself, a truth value as 1 or 0, the one nearest to a float, or a word or
numeral. -/
def natural? : Setting → Option Nat
  | .boolean b => some b.toNat
  | .integer n => if 0 ≤ n then some n.toNat else none
  | .float x => some (x.nearestNatural greatestNatural)
  | .text s =>
    match truthWord? s with
    | some b => some b.toNat
    | none => (numeral? s.toList).filter (· ≤ greatestNatural)
  | _ => none

def orDefault {α : Type} (default : α) (read : Setting → Option α) : Option Setting → Option α
  | some s => read s
  | none => some default

/-- The settings in a group by their names, or in a list by their order. -/
def settings? (s : Setting) : Option Settings := do
  let (logStatements, strict, capacity) ←
    match s with
    | .group _ =>
      some (s.get? "log_statements", s.get? "strict_single_result", s.get? "plan_cache_capacity")
    | .list items => some (items[0]?, items[1]?, items[2]?)
    | _ => none
  let defaults : Settings := {}
  return { logStatements := ← orDefault defaults.logStatements bool? logStatements
           strictSingleResult := ← orDefault defaults.strictSingleResult bool? strict
           planCacheCapacity := ← orDefault defaults.planCacheCapacity natural? capacity }

end Setting

/-- The result of loading: whether the document was passed over, and the settings unless a value is
of the wrong kind. -/
structure LoadedSettings where
  fileSkipped : Bool
  settings : Option Settings
  deriving Repr

namespace Settings

def groupName : String := "query"

/-- The settings of a document, if there is one, and of environment variables. -/
def load (document : Option String) (environment : List (String × String)) : LoadedSettings :=
  let assigned := environment.filterMap fun (name, text) => Environment.entry? name text
  let root := document.map Toml.parse?
  let file :=
    match root with
    | some (some entries) => Setting.layEntries (Setting.ofEntries entries) (.group [])
    | _ => .group []
  let all := Setting.layEntries assigned file
  { fileSkipped := root.any Option.isNone
    settings :=
      match all.get? groupName with
      | none => some {}
      | some s => s.settings? }

end Settings

end DerivedQuery
