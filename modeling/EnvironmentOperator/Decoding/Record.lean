import EnvironmentOperator.Decoding
/-!
Records that are read from an object by member name or from an array by position. In an object every member
that is there is read before a missing one is noticed, and null is a value like any other; in an array the
positions are read in turn, and none may be left over.
-/
namespace EnvironmentOperator

namespace Fields

def given {α : Type} [JsonForm α] (fields : Fields) (key : String) : Except DecodeError (Option α) :=
  match Dict.at? fields key with
  | none => .ok none
  | some j => (decode j).map some

end Fields

def require {α : Type} (field : String) : Option α → Except DecodeError α
  | some x => .ok x
  | none => .error (.missing field)

namespace Positions

def element {α : Type} [JsonForm α] (wanted : String) (items : List Json) (n : Nat) :
    Except DecodeError α :=
  match items[n]? with
  | some j => decode j
  | none => .error (.wrongLength n wanted)

def elementOr {α : Type} [JsonForm α] (items : List Json) (n : Nat) (default : α) :
    Except DecodeError α :=
  match items[n]? with
  | some j => decode j
  | none => .ok default

def elementIf {α : Type} [JsonForm α] (items : List Json) (n : Nat) : Except DecodeError (Option α) :=
  match items[n]? with
  | some .null => .ok none
  | some j => (decode j).map some
  | none => .ok none

def exhausted (items : List Json) (n : Nat) : Except DecodeError Unit :=
  if n < items.length then .error (.wrongLength items.length "fewer elements in array") else .ok ()

end Positions

/-- Reads a record named `wanted` by member or by position. -/
def decodeRecord {α : Type} (wanted : String) (byName : Fields → Except DecodeError α)
    (byPosition : List Json → Except DecodeError α) : Json → Except DecodeError α
  | .obj fields => byName fields
  | .arr items => byPosition items
  | j => .error (.wrongType j ("struct " ++ wanted))

end EnvironmentOperator
