import EnvironmentOperator.Decoding
import EnvironmentOperator.Json.Parse
/-!
Reading typed values straight out of JSON text. What a reader does not ask for is not looked at, so it may be
repeated, nested to any depth, or hold numbers and strings that denote nothing.
-/
namespace EnvironmentOperator

/-- Reads a value that stands inside arrays and objects which leave `levels` more of nesting. -/
class FromSource (α : Type) where
  ofSource? (levels : Nat) : Json.Source → Option α

export FromSource (ofSource?)

namespace FromSource

@[reducible] def viaJson (α : Type) [JsonForm α] : FromSource α where
  ofSource? levels s := do (decode (← s.value? levels)).toOption

instance : FromSource Json := viaJson Json

instance : FromSource String := viaJson String

instance : FromSource Bool := viaJson Bool

instance : FromSource Int64 := viaJson Int64

instance : FromSource UInt16 := viaJson UInt16

instance {α : Type} [FromSource α] : FromSource (Option α) where
  ofSource? levels s :=
    match s with
    | .null => some none
    | s => (ofSource? levels s).map some

instance {α : Type} [FromSource α] : FromSource (List α) where
  ofSource? levels s :=
    match levels, s with
    | levels + 1, .arr items => items.mapM (ofSource? levels)
    | _, _ => none

end FromSource

structure Members where
  levels : Nat
  entries : List (String × Json.Source)

namespace Members

def ofSource? : Nat → Json.Source → Option Members
  | levels + 1, .obj members => do
      return ⟨levels, ← members.mapM (fun m => m.1.map (fun name => (name, m.2)))⟩
  | _, _ => none

def mentions (m : Members) (name : String) : List Json.Source :=
  (m.entries.filter (fun e => e.1 = name)).map Prod.snd

def others? (m : Members) (name : String) : Option {members : List (String × Json) // ∀ e ∈ members, e.1 ≠ name} :=
  go m.entries
where
  go : List (String × Json.Source) → Option {members : List (String × Json) // ∀ e ∈ members, e.1 ≠ name}
    | [] => some ⟨[], by simp⟩
    | e :: rest =>
        if h : e.1 = name then go rest
        else do
          let j ← e.2.value? m.levels
          let others ← go rest
          return ⟨(e.1, j) :: others.1, List.forall_mem_cons.2 ⟨h, others.2⟩⟩

/-- A member that may be left out, be null or be repeated: every mention must be readable, and the last stands. -/
def last? {α : Type} [FromSource α] (m : Members) (name : String) : Option (Option α) :=
  (m.mentions name).foldlM (fun _ s => EnvironmentOperator.ofSource? m.levels s) none

end Members

instance {α : Type} [FromSource α] : FromSource (Named α) where
  ofSource? levels s := do
    let m ← Members.ofSource? levels s
    return .ofList (← m.entries.mapM (fun e => do return (e.1, ← ofSource? m.levels e.2)))

structure Parts where
  levels : Nat
  parts : List (Option Json.Source)

namespace Parts

/-- Each part is given at most once: by name in an object, by position in an array. -/
def ofSource? (names : List String) (levels : Nat) (s : Json.Source) : Option Parts :=
  match levels, s with
  | levels + 1, .arr items => if items.length ≤ names.length then some ⟨levels, items.map some⟩ else none
  | levels, s => do
      let m ← Members.ofSource? levels s
      let parts ← names.mapM (fun name =>
        match m.mentions name with
        | [] => some none
        | [s] => some (some s)
        | _ => none)
      return ⟨m.levels, parts⟩

def part? {α : Type} [FromSource α] (p : Parts) (n : Nat) : Option (Option α) :=
  match p.parts[n]?.join with
  | none => some none
  | some s => (EnvironmentOperator.ofSource? p.levels s).map some

end Parts

end EnvironmentOperator
