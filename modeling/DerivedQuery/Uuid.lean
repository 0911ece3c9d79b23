import DerivedQuery.Text.Digits

/-!
Universally unique identifiers: 128 bits, written as 32 lower-case hexadecimal digits in five
groups.
-/

namespace DerivedQuery

structure Uuid where
  bits : BitVec 128
  deriving DecidableEq, Repr

namespace Uuid

/-- Reads 32 hexadecimal digits of either case, hyphens between them left out. -/
def parse? (s : String) : Option Uuid :=
  let ds := s.toList.filter (· != '-')
  if ds.length = 32 then (Text.hexadecimal? ds).map fun n => ⟨.ofNat 128 n⟩ else none

def text (u : Uuid) : String :=
  let ds := Text.hexPadded 32 u.bits.toNat
  let group (start size : Nat) := (ds.drop start).take size
  String.ofList (List.intercalate ['-']
    [group 0 8, group 8 4, group 12 4, group 16 4, group 20 12])

end Uuid

end DerivedQuery
