import DerivedQuery.Error

/-!
Converters turn the objects of a domain into wire values. A registry holds one per type name; a
later registration takes the place of an earlier one.
-/

namespace DerivedQuery

/-- What an argument becomes on the wire. -/
abbrev Converter := Argument → Except QueryError WireValue

structure ConverterRegistry where
  entries : List (String × Converter) := []

namespace ConverterRegistry

def empty : ConverterRegistry := {}

def register (r : ConverterRegistry) (type : String) (converter : Converter) : ConverterRegistry :=
  ⟨(type, converter) :: r.entries.filter (·.1 != type)⟩

def ofList (entries : List (String × Converter)) : ConverterRegistry :=
  entries.foldl (fun r (type, converter) => r.register type converter) empty

def get? (r : ConverterRegistry) (type : String) : Option Converter :=
  (r.entries.find? (·.1 == type)).map (·.2)

def size (r : ConverterRegistry) : Nat := r.entries.length

def isEmpty (r : ConverterRegistry) : Bool := r.entries.isEmpty

def typeNames (r : ConverterRegistry) : List String :=
  (r.entries.map (·.1)).mergeSort fun a b => decide (a ≤ b)

def described (r : ConverterRegistry) : String :=
  "ConverterRegistry \x7b types: [" ++ ", ".intercalate (r.typeNames.map Text.quoted) ++ "] \x7d"

@[simp] theorem get?_empty (type : String) : empty.get? type = none := rfl

theorem get?_register_self (r : ConverterRegistry) (type : String) (c : Converter) :
    (r.register type c).get? type = some c := by
  simp [register, get?]

theorem get?_register_of_ne (r : ConverterRegistry) {type other : String} (c : Converter)
    (h : other ≠ type) : (r.register type c).get? other = r.get? other := by
  have hne : (type == other) = false := by simp [h.symm]
  simp only [register, get?, List.find?_cons, hne]
  congr 1
  induction r.entries with
  | nil => rfl
  | cons e es ih =>
    by_cases he : e.1 = type
    · have : (e.1 == other) = false := by rw [he]; exact hne
      simpa [List.filter_cons, List.find?_cons, he, hne] using ih
    · by_cases ho : e.1 = other <;> simp_all

end ConverterRegistry

end DerivedQuery
