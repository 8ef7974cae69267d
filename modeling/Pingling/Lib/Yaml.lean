import Pingling.Lib.Json

/-!
# YAML values

A mapping keeps its entries in the order they were given. The numbers are those of JSON.
-/

namespace Lib

inductive YamlValue where
  | null
  | bool (b : Bool)
  | number (n : Number)
  | string (s : String)
  | sequence (items : List YamlValue)
  | mapping (entries : List (YamlValue × YamlValue))
  | tagged (tag : String) (value : YamlValue)

end Lib
