import EnvironmentOperator.Decoding

namespace EnvironmentOperator

instance : JsonForm Instant where
  encode t := .str (Rfc3339.write t)
  decode
    | .str s => (Rfc3339.read .lenient s).mapError .notInstant
    | j => .error (.wrongType j "an RFC 3339 formatted date and time string")

structure Quantity where
  text : String
deriving DecidableEq

instance : JsonForm Quantity where
  encode q := .str q.text
  decode
    | .str s => .ok ⟨s⟩
    | .int n => .ok ⟨Text.decimalInt n⟩
    | j => .error (.wrongType j "Quantity")

/-- Bytes, written in base64. Null reads as no bytes at all. -/
structure Bytes where
  octets : List UInt8
deriving DecidableEq

def Bytes.ofText (s : String) : Bytes := ⟨s.toUTF8.data.toList⟩

instance : JsonForm Bytes where
  encode b := .str (Text.Base64.encodeText b.octets)
  decode
    | .str s => ((Text.Base64.decodeText s).mapError .notBase64).map Bytes.mk
    | .null => .ok ⟨[]⟩
    | j => .error (.wrongType j "a base64-encoded string")

inductive PortTarget where
  | number (n : Int32)
  | name (s : String)
deriving DecidableEq

instance : JsonForm PortTarget where
  encode
    | .number n => .int n.toInt
    | .name s => .str s
  decode
    | .int n =>
        (decodeInteger "a 32-bit integer" (-2147483648) 2147483647 (.int n)).map (fun n => .number (Int32.ofInt n))
    | .str s => .ok (.name s)
    | j => .error (.wrongType j "IntOrString")

instance : LawfulJsonForm Quantity := ⟨fun _ => rfl⟩

end EnvironmentOperator
