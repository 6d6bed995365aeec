import EnvironmentOperator.Manifest.Scalar
/-!
Records of which only the shape matters: what is known of such a value is which members it has and of what sort they
are, and that is enough to read it and to write it again.
-/
namespace EnvironmentOperator

inductive Need where
  | optional
  | required
deriving DecidableEq

/-- The members of a record stand in the order of their names. -/
inductive Shape where
  | text
  | flag
  | int32
  | int64
  | quantity
  | port
  | list (item : Shape)
  | named (item : Shape)
  | record (name : String) (members : List (String × Need × Shape))

namespace Shape

mutual

def Value : Shape → Type
  | .text => String
  | .flag => Bool
  | .int32 => Int32
  | .int64 => Int64
  | .quantity => Quantity
  | .port => PortTarget
  | .list s => List s.Value
  | .named s => Named s.Value
  | .record _ ms => Values ms

def Values : List (String × Need × Shape) → Type
  | [] => Unit
  | (_, .optional, s) :: ms => Option s.Value × Values ms
  | (_, .required, s) :: ms => s.Value × Values ms

end

mutual

def decEq : (s : Shape) → DecidableEq s.Value
  | .text => inferInstanceAs (DecidableEq String)
  | .flag => inferInstanceAs (DecidableEq Bool)
  | .int32 => inferInstanceAs (DecidableEq Int32)
  | .int64 => inferInstanceAs (DecidableEq Int64)
  | .quantity => inferInstanceAs (DecidableEq Quantity)
  | .port => inferInstanceAs (DecidableEq PortTarget)
  | .list s =>
      letI := s.decEq
      inferInstanceAs (DecidableEq (List s.Value))
  | .named s =>
      letI := s.decEq
      inferInstanceAs (DecidableEq (Named s.Value))
  | .record _ ms => decEqs ms

def decEqs : (ms : List (String × Need × Shape)) → DecidableEq (Values ms)
  | [] => inferInstanceAs (DecidableEq Unit)
  | (_, .optional, s) :: ms =>
      letI := s.decEq
      letI := decEqs ms
      inferInstanceAs (DecidableEq (Option s.Value × Values ms))
  | (_, .required, s) :: ms =>
      letI := s.decEq
      letI := decEqs ms
      inferInstanceAs (DecidableEq (s.Value × Values ms))

end

mutual

def blank : (s : Shape) → s.Value
  | .text => ""
  | .flag => false
  | .int32 => (0 : Int32)
  | .int64 => (0 : Int64)
  | .quantity => Quantity.mk ""
  | .port => PortTarget.number 0
  | .list _ => []
  | .named _ => Named.mk []
  | .record _ ms => blanks ms

def blanks : (ms : List (String × Need × Shape)) → Values ms
  | [] => ()
  | (_, .optional, _) :: ms => (none, blanks ms)
  | (_, .required, s) :: ms => (s.blank, blanks ms)

end

mutual

def write : (s : Shape) → s.Value → Json
  | .text, x => (encode : String → Json) x
  | .flag, x => (encode : Bool → Json) x
  | .int32, x => (encode : Int32 → Json) x
  | .int64, x => (encode : Int64 → Json) x
  | .quantity, x => (encode : Quantity → Json) x
  | .port, x => (encode : PortTarget → Json) x
  | .list s, xs => .arr (List.map s.write xs)
  | .named s, m => .obj (m.entries.map (fun e => (e.1, s.write e.2)))
  | .record _ ms, x => .obj (writeAll ms x)

def writeAll : (ms : List (String × Need × Shape)) → Values ms → Fields
  | [], _ => []
  | (k, .optional, s) :: ms, (some x, xs) => (k, s.write x) :: writeAll ms xs
  | (_, .optional, _) :: ms, (none, xs) => writeAll ms xs
  | (k, .required, s) :: ms, (x, xs) => (k, s.write x) :: writeAll ms xs

end

mutual

def read : (s : Shape) → Json → Except DecodeError s.Value
  | .text, j => (decode j : Decoded String)
  | .flag, j => (decode j : Decoded Bool)
  | .int32, j => (decode j : Decoded Int32)
  | .int64, j => (decode j : Decoded Int64)
  | .quantity, j => (decode j : Decoded Quantity)
  | .port, j => (decode j : Decoded PortTarget)
  | .list s, .arr items => decodeItems s.read items
  | .list _, j => .error (.wrongType j "a sequence")
  | .named s, .obj fields => (decodeEntries s.read fields).map Named.mk
  | .named _, j => .error (.wrongType j "a map")
  | .record _ ms, .obj fields => readAll ms fields
  | .record name _, j => .error (.wrongType j name)

def readAll : (ms : List (String × Need × Shape)) → Fields → Except DecodeError (Values ms)
  | [], _ => .ok ()
  | (k, .optional, s) :: ms, fields => do
      let x ← Fields.optionalBy s.read (Dict.at? fields k)
      let xs ← readAll ms fields
      return (x, xs)
  | (k, .required, s) :: ms, fields => do
      let x ← Fields.optionalBy s.read (Dict.at? fields k)
      let xs ← readAll ms fields
      return (x.getD s.blank, xs)

end

mutual

def distinct : Shape → Bool
  | .list s | .named s => s.distinct
  | .record _ ms => allDistinct ms
  | _ => true

def allDistinct : List (String × Need × Shape) → Bool
  | [] => true
  | (k, _, s) :: ms => !(Dict.keys ms).contains k && s.distinct && allDistinct ms

end

end Shape

structure Schema where
  shape : Shape
  distinct : shape.distinct = true := by decide

/-- A value of which only the schema matters. -/
structure Shaped (s : Schema) where
  value : s.shape.Value

instance (s : Schema) : DecidableEq (Shaped s) := fun x y =>
  letI := s.shape.decEq
  decidable_of_iff (x.value = y.value) (by cases x; cases y; simp)

instance (s : Schema) : JsonForm (Shaped s) where
  encode x := s.shape.write x.value
  decode j := (s.shape.read j).map Shaped.mk

end EnvironmentOperator
