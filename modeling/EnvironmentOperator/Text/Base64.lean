/-!
Padded base64 in its standard alphabet. A reader accepts canonical text only: full padding, and no bits
left over in the last symbol. An error names the first byte at fault and its offset.
-/
namespace EnvironmentOperator.Text.Base64

inductive Error where
  | symbol (byte : UInt8) (offset : Nat)
  | lastSymbol (byte : UInt8) (offset : Nat)
  | length (symbols : Nat)
  | padding
deriving DecidableEq

def Error.message : Error → String
  | .symbol b n => s!"Invalid symbol {b.toNat}, offset {n}."
  | .lastSymbol b n => s!"Invalid last symbol {b.toNat}, offset {n}."
  | .length n => s!"Invalid input length: {n}"
  | .padding => "Invalid padding"

def pad : UInt8 := 61

def symbol (n : Nat) : UInt8 :=
  if n < 26 then (65 + n).toUInt8
  else if n < 52 then (71 + n).toUInt8
  else if n < 62 then (n - 4).toUInt8
  else if n = 62 then 43
  else 47

def value? (b : UInt8) : Option Nat :=
  let n := b.toNat
  if 65 ≤ n ∧ n ≤ 90 then some (n - 65)
  else if 97 ≤ n ∧ n ≤ 122 then some (n - 71)
  else if 48 ≤ n ∧ n ≤ 57 then some (n + 4)
  else if n = 43 then some 62
  else if n = 47 then some 63
  else none

def encode : List UInt8 → List UInt8
  | [] => []
  | [a] => [symbol (a.toNat / 4), symbol (a.toNat % 4 * 16), pad, pad]
  | [a, b] =>
      [symbol (a.toNat / 4), symbol (a.toNat % 4 * 16 + b.toNat / 16), symbol (b.toNat % 16 * 4), pad]
  | a :: b :: c :: rest =>
      symbol (a.toNat / 4) :: symbol (a.toNat % 4 * 16 + b.toNat / 16) ::
        symbol (b.toNat % 16 * 4 + c.toNat / 64) :: symbol (c.toNat % 64) :: encode rest

def sextet (b : UInt8) (offset : Nat) : Except Error Nat :=
  match value? b with
  | some n => .ok n
  | none => .error (.symbol b offset)

def quad (a b c d : Nat) : List UInt8 :=
  [(a * 4 + b / 16).toUInt8, (b % 16 * 16 + c / 4).toUInt8, (c % 4 * 64 + d).toUInt8]

/-- Reads the symbols before the padding of the last quad. A symbol after padding puts the blame on the
first padding byte, and padding among the first two bytes is a symbol out of place. -/
def lastSymbols (offset position : Nat) (padAt : Option Nat) :
    List UInt8 → Except Error (List (UInt8 × Nat) × Nat)
  | [] => .ok ([], 0)
  | b :: rest =>
      if b = pad then
        if position < 2 then .error (.symbol b (offset + position))
        else do
          let (symbols, pads) ← lastSymbols offset (position + 1) (padAt <|> some position) rest
          return (symbols, pads + 1)
      else
        match padAt with
        | some p => .error (.symbol pad (offset + p))
        | none => do
            let n ← sextet b (offset + position)
            let (symbols, pads) ← lastSymbols offset (position + 1) none rest
            return ((b, n) :: symbols, pads)

def decodeLast (offset : Nat) (bytes : List UInt8) : Except Error (List UInt8) := do
  if bytes = [] then return []
  let (symbols, pads) ← lastSymbols offset 0 none bytes
  if symbols.length < 2 then throw (.length (offset + symbols.length))
  if (symbols.length + pads) % 4 ≠ 0 then throw .padding
  match symbols with
  | [(_, a), (last, b)] =>
      if b % 16 ≠ 0 then throw (.lastSymbol last (offset + 1))
      return (quad a b 0 0).take 1
  | [(_, a), (_, b), (last, c)] =>
      if c % 4 ≠ 0 then throw (.lastSymbol last (offset + 2))
      return (quad a b c 0).take 2
  | [(_, a), (_, b), (_, c), (_, d)] => return quad a b c d
  | _ => throw .padding

def decodeQuads (offset : Nat) : List UInt8 → Except Error (List UInt8)
  | a :: b :: c :: d :: e :: rest => do
      let w ← sextet a offset
      let x ← sextet b (offset + 1)
      let y ← sextet c (offset + 2)
      let z ← sextet d (offset + 3)
      let tail ← decodeQuads (offset + 4) (e :: rest)
      return quad w x y z ++ tail
  | bytes => decodeLast offset bytes

/-- A single byte after the last full quad is looked at first: if it is no symbol at all, it is the fault. -/
def decode (bytes : List UInt8) : Except Error (List UInt8) :=
  match bytes.length % 4, bytes.getLast? with
  | 1, some last =>
      if last ≠ pad ∧ value? last = none then .error (.symbol last (bytes.length - 1))
      else decodeQuads 0 bytes
  | _, _ => decodeQuads 0 bytes

def encodeText (bytes : List UInt8) : String :=
  String.ofList ((encode bytes).map (fun b => Char.ofNat b.toNat))

def decodeText (text : String) : Except Error (List UInt8) := decode text.toUTF8.data.toList

theorem value?_symbol : ∀ n < 64, value? (symbol n) = some n := by decide

theorem symbol_ne_pad : ∀ n < 64, symbol n ≠ pad := by decide

end EnvironmentOperator.Text.Base64
