import Mathlib

/-!
# JSON values

Objects list their entries in increasing order of the keys. A float is kept as its bits:
nothing here computes with one.
-/

namespace Lib

inductive Number where
  | posInt (n : UInt64)
  | negInt (n : Int64)
  | float (bits : UInt64)
  deriving DecidableEq

inductive Value where
  | null
  | bool (b : Bool)
  | number (n : Number)
  | string (s : String)
  | array (items : List Value)
  | object (entries : List (String × Value))

namespace Value

/-- Member access; what is not there reads as null. -/
def field (name : String) : Value → Value
  | .object entries => (entries.lookup name).getD .null
  | _ => .null

def ofUInt32 (n : UInt32) : Value :=
  .number (.posInt n.toUInt64)

end Value
end Lib
