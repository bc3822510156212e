/-! JSON documents as trees. -/
namespace Stencil.Json

/-- A JSON document. A number is kept as it is written, and the members of an object keep their
order and their repetitions. -/
inductive Value where
  | null
  | bool (b : Bool)
  | number (literal : List Char)
  | string (s : List Char)
  | array (items : List Value)
  | object (members : List (List Char × Value))

namespace Value

def ofInt (n : Int) : Value := .number (toString n).toList

end Value
end Stencil.Json
