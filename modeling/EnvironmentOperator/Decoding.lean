import EnvironmentOperator.Binary64.Shortest
import EnvironmentOperator.Json
import EnvironmentOperator.Text.Base64
import EnvironmentOperator.Text.Quoted
import EnvironmentOperator.Time.Rfc3339

namespace EnvironmentOperator

inductive DecodeError where
  | wrongType (found : Json) (wanted : String)
  | wrongNumber (found : Int) (wanted : String)
  | wrongText (found : String) (wanted : String)
  | wrongLength (found : Nat) (wanted : String)
  | missing (field : String)
  | notMembers (found : Json)
  | notBase64 (cause : Text.Base64.Error)
  | notInstant (cause : Rfc3339.Error)
deriving DecidableEq

namespace DecodeError

def backquoted (s : String) : String := "\x60" ++ s ++ "\x60"

def found : Json → String
  | .null => "null"
  | .bool b => "boolean " ++ backquoted (if b then "true" else "false")
  | .int n => "integer " ++ backquoted (Text.decimalInt n)
  | .real x => "floating point " ++ backquoted x.render
  | .str s => "string " ++ Text.quoted s
  | .arr _ => "sequence"
  | .obj _ => "map"

def described : Json → String
  | .null => "nothing"
  | .bool _ => "a boolean"
  | .int _ => "an integer"
  | .real _ => "a float"
  | .str _ => "a string"
  | .arr _ => "a sequence"
  | .obj _ => "a map"

def message : DecodeError → String
  | .wrongType j wanted => "invalid type: " ++ found j ++ ", expected " ++ wanted
  | .wrongNumber n wanted => "invalid value: integer " ++ backquoted (Text.decimalInt n) ++ ", expected " ++ wanted
  | .wrongText s wanted => "invalid value: string " ++ Text.quoted s ++ ", expected " ++ wanted
  | .wrongLength n wanted => "invalid length " ++ Text.decimal n ++ ", expected " ++ wanted
  | .missing field => "missing field " ++ backquoted field
  | .notMembers j => "can only flatten structs and maps (got " ++ described j ++ ")"
  | .notBase64 e => e.message
  | .notInstant e => e.message

end DecodeError

abbrev Decoded (α : Type) := Except DecodeError α

class JsonForm (α : Type) where
  encode : α → Json
  decode : Json → Except DecodeError α

export JsonForm (encode decode)

class LawfulJsonForm (α : Type) [JsonForm α] : Prop where
  decode_encode : ∀ x : α, decode (encode x) = .ok x

instance : JsonForm Json where
  encode j := j
  decode j := .ok j

instance : JsonForm String where
  encode := .str
  decode
    | .str s => .ok s
    | j => .error (.wrongType j "a string")

instance : JsonForm Bool where
  encode := .bool
  decode
    | .bool b => .ok b
    | j => .error (.wrongType j "a boolean")

def decodeInteger (wanted : String) (low high : Int) : Json → Except DecodeError Int
  | .int n => if low ≤ n ∧ n ≤ high then .ok n else .error (.wrongNumber n wanted)
  | j => .error (.wrongType j wanted)

instance : JsonForm Int32 where
  encode n := .int n.toInt
  decode j := (decodeInteger "i32" (-2147483648) 2147483647 j).map Int32.ofInt

instance : JsonForm Int64 where
  encode n := .int n.toInt
  decode j := (decodeInteger "i64" (-9223372036854775808) 9223372036854775807 j).map Int64.ofInt

instance : JsonForm UInt16 where
  encode n := .int n.toNat
  decode j := (decodeInteger "u16" 0 65535 j).map (fun n => UInt16.ofNat n.toNat)

def decodeItems {α : Type} (item : Json → Except DecodeError α) : List Json → Except DecodeError (List α)
  | [] => .ok []
  | j :: rest => do
      let x ← item j
      let xs ← decodeItems item rest
      return x :: xs

instance {α : Type} [JsonForm α] : JsonForm (List α) where
  encode xs := .arr (xs.map encode)
  decode
    | .arr items => decodeItems decode items
    | j => .error (.wrongType j "a sequence")

def decodeEntries {α : Type} (entry : Json → Except DecodeError α) :
    Fields → Except DecodeError (Dict String α)
  | [] => .ok []
  | (k, j) :: rest => do
      let x ← entry j
      let xs ← decodeEntries entry rest
      return (k, x) :: xs

structure Named (α : Type) where
  entries : Dict String α
deriving DecidableEq

namespace Named

def at? {α : Type} (m : Named α) (k : String) : Option α := Dict.at? m.entries k

def put {α : Type} (m : Named α) (k : String) (v : α) : Named α := ⟨Dict.put m.entries k v⟩

def ofList {α : Type} (entries : List (String × α)) : Named α := ⟨Dict.ofList entries⟩

end Named

instance {α : Type} [JsonForm α] : JsonForm (Named α) where
  encode m := .obj (m.entries.map (fun e => (e.1, encode e.2)))
  decode
    | .obj fields => (decodeEntries decode fields).map Named.mk
    | j => .error (.wrongType j "a map")

namespace Fields

/-- A member that may be left out; null counts as left out. -/
def optionalBy {α : Type} (read : Json → Except DecodeError α) : Option Json → Except DecodeError (Option α)
  | none => .ok none
  | some .null => .ok none
  | some j => (read j).map some

def readOptional {α : Type} [JsonForm α] (member : Option Json) : Except DecodeError (Option α) :=
  optionalBy decode member

def optional {α : Type} [JsonForm α] (fields : Fields) (key : String) : Except DecodeError (Option α) :=
  readOptional (Dict.at? fields key)

def orElse {α : Type} [JsonForm α] (fields : Fields) (key : String) (default : α) :
    Except DecodeError α :=
  (optional fields key).map (·.getD default)

end Fields

def membersOf (wanted : String) : Json → Except DecodeError Fields
  | .obj fields => .ok fields
  | j => .error (.wrongType j wanted)

theorem decodeItems_map {α : Type} {item : Json → Except DecodeError α} {write : α → Json}
    (h : ∀ x, item (write x) = .ok x) (xs : List α) : decodeItems item (xs.map write) = .ok xs := by
  induction xs with
  | nil => rfl
  | cons x xs ih => simp [decodeItems, h, ih, bind, Except.bind, pure, Except.pure]

theorem decodeEntries_map {α : Type} {entry : Json → Except DecodeError α} {write : α → Json}
    (h : ∀ x, entry (write x) = .ok x) (d : Dict String α) :
    decodeEntries entry (d.map (fun e => (e.1, write e.2))) = .ok d := by
  induction d with
  | nil => rfl
  | cons e d ih => simp [decodeEntries, h, ih, bind, Except.bind, pure, Except.pure]

instance : LawfulJsonForm String := ⟨fun _ => rfl⟩

instance : LawfulJsonForm Bool := ⟨fun _ => rfl⟩

instance {α : Type} [JsonForm α] [LawfulJsonForm α] : LawfulJsonForm (List α) :=
  ⟨fun xs => decodeItems_map LawfulJsonForm.decode_encode xs⟩

instance {α : Type} [JsonForm α] [LawfulJsonForm α] : LawfulJsonForm (Named α) :=
  ⟨fun m => by
    show (decodeEntries decode (m.entries.map (fun e => (e.1, encode e.2)))).map Named.mk = .ok m
    rw [decodeEntries_map LawfulJsonForm.decode_encode]
    rfl⟩

end EnvironmentOperator
