import EnvironmentOperator.Json.Numeral
/-!
JSON text as it is written: members in their order, repeated ones included, numbers by their digits, and any depth
of nesting. A string that holds half a surrogate pair has a place in the text but denotes no text.
-/
namespace EnvironmentOperator.Json

inductive Source where
  | null
  | bool (b : Bool)
  | number (n : Numeral)
  | str (text : Option String)
  | arr (items : List Source)
  | obj (members : List (Option String × Source))

namespace Source

def skipBlank (cs : List Char) : List Char :=
  cs.dropWhile (fun c => c = ' ' || c = '\n' || c = '\t' || c = '\r')

def hex4? (a b c d : Char) : Option Nat := do
  let a ← Text.hexValue? a
  let b ← Text.hexValue? b
  let c ← Text.hexValue? c
  let d ← Text.hexValue? d
  return ((a * 16 + b) * 16 + c) * 16 + d

def simpleEscape? : Char → Option Char
  | '"' => some '"'
  | '\\' => some '\\'
  | '/' => some '/'
  | 'b' => some '\x08'
  | 'f' => some '\x0c'
  | 'n' => some '\n'
  | 'r' => some '\r'
  | 't' => some '\t'
  | _ => none

/-- What a string is made of: characters, and code units of which two may make up one. -/
inductive Piece where
  | char (c : Char)
  | codeUnit (n : Nat)
deriving DecidableEq

def stringBody? (done : List Piece) : List Char → Option (List Piece × List Char)
  | '"' :: rest => some (done.reverse, rest)
  | '\\' :: 'u' :: a :: b :: c :: d :: rest => do
      let n ← hex4? a b c d
      stringBody? (.codeUnit n :: done) rest
  | '\\' :: c :: rest => do
      let c ← simpleEscape? c
      stringBody? (.char c :: done) rest
  | c :: rest => if c.toNat < 0x20 then none else stringBody? (.char c :: done) rest
  | [] => none

def isHigh (n : Nat) : Bool := 0xD800 ≤ n && n < 0xDC00

def isLow (n : Nat) : Bool := 0xDC00 ≤ n && n < 0xE000

/-- The characters that pieces denote. A high surrogate and a low one right after it are one character, and
neither stands alone. -/
def chars? (done : List Char) : List Piece → Option (List Char)
  | [] => some done.reverse
  | .char c :: rest => chars? (c :: done) rest
  | .codeUnit n :: .codeUnit m :: rest =>
      if isHigh n then
        if isLow m then chars? (Char.ofNat (0x10000 + (n - 0xD800) * 0x400 + (m - 0xDC00)) :: done) rest
        else none
      else if isLow n then none
      else chars? (Char.ofNat n :: done) (.codeUnit m :: rest)
  | .codeUnit n :: rest =>
      if isHigh n || isLow n then none else chars? (Char.ofNat n :: done) rest

def string? (cs : List Char) : Option (Option String × List Char) :=
  (stringBody? [] cs).map (fun r => ((chars? [] r.1).map String.ofList, r.2))

def digitsOf (cs : List Char) : List Char × List Char :=
  (cs.takeWhile Text.isDigit, cs.dropWhile Text.isDigit)

def isExponentMark (c : Char) : Bool := c = 'e' || c = 'E'

def exponent? (cs : List Char) : Option (Int × List Char) :=
  let (negative, cs) := match cs with
    | '-' :: rest => (true, rest)
    | '+' :: rest => (false, rest)
    | _ => (false, cs)
  let (digits, rest) := digitsOf cs
  if digits = [] then none
  else
    let n : Int := Text.digitsValue digits
    some (if negative then -n else n, rest)

def power? (cs : List Char) : Option (Option Int × List Char) :=
  match cs with
  | c :: rest => if isExponentMark c then (exponent? rest).map (fun r => (some r.1, r.2)) else some (none, cs)
  | [] => some (none, [])

def fraction? : List Char → Option (List Char × List Char)
  | '.' :: rest =>
      let (digits, rest) := digitsOf rest
      if digits = [] then none else some (digits, rest)
  | cs => some ([], cs)

def number? (cs : List Char) : Option (Numeral × List Char) :=
  let (negative, cs) := match cs with
    | '-' :: rest => (true, rest)
    | _ => (false, cs)
  let (whole, rest) := digitsOf cs
  if whole = [] ∨ (1 < whole.length ∧ whole.head? = some '0') then none
  else do
    let (fraction, rest) ← fraction? rest
    let (power, rest) ← power? rest
    return (⟨negative, whole, fraction, power⟩, rest)

mutual

def read? (fuel : Nat) (cs : List Char) : Option (Source × List Char) :=
  match fuel with
  | 0 => none
  | fuel + 1 =>
      match skipBlank cs with
      | 'n' :: 'u' :: 'l' :: 'l' :: rest => some (.null, rest)
      | 't' :: 'r' :: 'u' :: 'e' :: rest => some (.bool true, rest)
      | 'f' :: 'a' :: 'l' :: 's' :: 'e' :: rest => some (.bool false, rest)
      | '"' :: rest => (string? rest).map (fun r => (.str r.1, r.2))
      | '[' :: rest =>
          match skipBlank rest with
          | ']' :: rest => some (.arr [], rest)
          | rest => (readItems? fuel rest).map (fun r => (.arr r.1, r.2))
      | '\x7b' :: rest =>
          match skipBlank rest with
          | '\x7d' :: rest => some (.obj [], rest)
          | rest => (readMembers? fuel rest).map (fun r => (.obj r.1, r.2))
      | rest => (number? rest).map (fun r => (.number r.1, r.2))

def readItems? (fuel : Nat) (cs : List Char) : Option (List Source × List Char) :=
  match fuel with
  | 0 => none
  | fuel + 1 => do
      let (item, rest) ← read? fuel cs
      match skipBlank rest with
      | ',' :: rest =>
          let (items, rest) ← readItems? fuel rest
          return (item :: items, rest)
      | ']' :: rest => return ([item], rest)
      | _ => none

def readMembers? (fuel : Nat) (cs : List Char) : Option (List (Option String × Source) × List Char) :=
  match fuel with
  | 0 => none
  | fuel + 1 =>
      match skipBlank cs with
      | '"' :: rest => do
          let (key, rest) ← string? rest
          match skipBlank rest with
          | ':' :: rest =>
              let (value, rest) ← read? fuel rest
              match skipBlank rest with
              | ',' :: rest =>
                  let (members, rest) ← readMembers? fuel rest
                  return ((key, value) :: members, rest)
              | '\x7d' :: rest => return ([(key, value)], rest)
              | _ => none
          | _ => none
      | _ => none

end

def parse? (text : String) : Option Source :=
  let cs := text.toList
  match read? (cs.length + 1) cs with
  | some (s, rest) => if skipBlank rest = [] then some s else none
  | none => none

end Source

end EnvironmentOperator.Json
