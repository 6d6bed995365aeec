import EnvironmentOperator.Json
/-!
Editing one place inside a JSON value, reached by member names and list positions. A name makes an object of
whatever it meets and adds a missing member; a position must exist.
-/
namespace EnvironmentOperator.Json

inductive Step where
  | key (name : String)
  | index (n : Nat)
deriving DecidableEq

def setAt (items : List Json) (n : Nat) (j : Json) : List Json := items.set n j

def edit (value : Option Json) : List Step → Json → Option Json
  | [], _ => value
  | [.key k], j =>
      let fields := j.fields?.getD []
      match value with
      | some v => some (.obj (Dict.put fields k v))
      | none => some (.obj (Dict.without fields k))
  | [.index n], j =>
      match j with
      | .arr items =>
          if n < items.length then
            match value with
            | some v => some (.arr (setAt items n v))
            | none => some (.arr (items.eraseIdx n))
          else none
      | _ => none
  | .key k :: rest, j => do
      let fields := j.fields?.getD []
      let inner ← edit value rest ((Dict.at? fields k).getD .null)
      return .obj (Dict.put fields k inner)
  | .index n :: rest, j =>
      match j with
      | .arr items => do
          let old ← items[n]?
          let inner ← edit value rest old
          return .arr (setAt items n inner)
      | _ => none

end EnvironmentOperator.Json
