import EnvironmentOperator.Json.Source
/-!
Reading JSON text. Every string must denote text and every number have a value, and nesting of 128 levels is
refused. Of members with one name the last stands.
-/
namespace EnvironmentOperator.Json

namespace Source

def greatestDepth : Nat := 127

mutual

/-- The value that a text denotes when no more than `levels` of its arrays and objects contain one another. -/
def value? (levels : Nat) : Source → Option Json
  | .null => some .null
  | .bool b => some (.bool b)
  | .number n => n.value?
  | .str s => s.map .str
  | .arr items =>
      match levels with
      | 0 => none
      | levels + 1 => (values? levels items).map .arr
  | .obj members =>
      match levels with
      | 0 => none
      | levels + 1 => (memberValues? levels members).map object

def values? (levels : Nat) : List Source → Option (List Json)
  | [] => some []
  | s :: rest => do
      let j ← value? levels s
      let js ← values? levels rest
      return j :: js

def memberValues? (levels : Nat) : List (Option String × Source) → Option (List (String × Json))
  | [] => some []
  | (key, s) :: rest => do
      let key ← key
      let j ← value? levels s
      let members ← memberValues? levels rest
      return (key, j) :: members

end

end Source

def parse? (text : String) : Option Json := Source.parse? text >>= Source.value? Source.greatestDepth

end EnvironmentOperator.Json
