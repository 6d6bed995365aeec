import EnvironmentOperator.Power
import EnvironmentOperator.Text.Blank
import EnvironmentOperator.Text.Numeral
import EnvironmentOperator.Text.Octet
import EnvironmentOperator.Time.Calendar
import EnvironmentOperator.Time.Instant
/-!
Instants as RFC 3339 text. Writing is in UTC and whole seconds. There are two readers: the strict one wants
every field at its full width, the lenient one takes shorter fields and blanks around the separators.
-/
namespace EnvironmentOperator.Rfc3339

open EnvironmentOperator.Text

inductive Error where
  | outOfRange
  | invalid
  | tooShort
  | tooLong
  | unrepresentable
deriving DecidableEq

def Error.message : Error → String
  | .outOfRange => "input is out of range"
  | .invalid => "input contains invalid characters"
  | .tooShort => "premature end of input"
  | .tooLong => "trailing input"
  | .unrepresentable => "no possible date and time matching input"

inductive Style where
  | strict
  | lenient
deriving DecidableEq

def Style.blanks : Style → List Char → List Char
  | .strict, cs => cs
  | .lenient, cs => dropBlank cs

def Style.width (s : Style) (full : Nat) : Nat :=
  match s with
  | .strict => full
  | .lenient => 1

def digits (least greatest : Nat) (cs : List Char) : Except Error (Nat × List Char) :=
  let ds := (cs.take greatest).takeWhile isDigit
  if octets cs < least then .error .tooShort
  else if ds.length < least then .error .invalid
  else .ok (digitsValue ds, cs.drop ds.length)

def bounded (low high : Nat) (read : Except Error (Nat × List Char)) :
    Except Error (Nat × List Char) := do
  let (n, rest) ← read
  if low ≤ n ∧ n ≤ high then return (n, rest) else throw .outOfRange

def symbol (c : Char) : List Char → Except Error (List Char)
  | [] => .error .tooShort
  | d :: rest => if d = c then .ok rest else .error .invalid

def signedYear (negative : Bool) (cs : List Char) : Except Error (Int × List Char) := do
  let (n, rest) ← digits 1 cs.length cs
  let y : Int := if negative then -n else n
  if -(twoTo 31 : Int) ≤ y ∧ y < twoTo 31 then return (y, rest) else throw .outOfRange

def year (style : Style) (cs : List Char) : Except Error (Int × List Char) :=
  match style, style.blanks cs with
  | .lenient, '-' :: rest => signedYear true rest
  | .lenient, '+' :: rest => signedYear false rest
  | _, cs => do
      let (n, rest) ← digits (style.width 4) 4 cs
      return ((n : Int), rest)

def field (style : Style) (low high : Nat) (cs : List Char) : Except Error (Nat × List Char) :=
  bounded low high (digits (style.width 2) 2 (style.blanks cs))

/-- At most nine digits count; the others are passed over. -/
def fraction (cs : List Char) : Except Error (Nat × List Char) :=
  match cs with
  | '.' :: rest =>
      match digits 1 9 rest with
      | .error e => .error e
      | .ok (n, after) =>
          .ok (n * tenTo (9 - (rest.length - after.length)), after.dropWhile isDigit)
  | _ => .ok (0, cs)

def offsetSign : List Char → Except Error (Bool × List Char)
  | '+' :: rest => .ok (false, rest)
  | '-' :: rest => .ok (true, rest)
  | '\u2212' :: rest => .ok (true, rest)
  | [] => .error .tooShort
  | _ => .error .invalid

def offsetSeparator (style : Style) (cs : List Char) : Except Error (List Char) :=
  match style with
  | .strict => symbol ':' cs
  | .lenient => .ok (cs.dropWhile (fun c => c = ':' || isBlank c))

def offsetMinutes (cs : List Char) : Except Error (Nat × List Char) :=
  if octets cs < 2 then .error .tooShort
  else
    match cs with
    | a :: b :: rest =>
        if isDigit a && isDigit b then
          if digitValue a ≤ 5 then .ok (digitsValue [a, b], rest) else .error .outOfRange
        else .error .invalid
    | _ => .error .invalid

def offset (style : Style) (cs : List Char) : Except Error (Int × List Char) :=
  match cs with
  | 'Z' :: rest => .ok (0, rest)
  | 'z' :: rest => .ok (0, rest)
  | _ => do
      let (negative, rest) ← offsetSign cs
      let (hours, rest) ← digits 2 2 rest
      let rest ← offsetSeparator style rest
      let (minutes, rest) ← offsetMinutes rest
      let seconds : Int := hours * 3600 + minutes * 60
      return (if negative then -seconds else seconds, rest)

def zone (style : Style) (cs : List Char) : Except Error (Int × List Char) :=
  let cs := style.blanks cs
  match style, cs with
  | .lenient, u :: t :: c :: rest =>
      if [u, t, c].map Char.toUpper = ['U', 'T', 'C'] then .ok (0, rest) else offset style cs
  | _, _ => offset style cs

def dateSeparator : List Char → Except Error (List Char)
  | 'T' :: rest => .ok rest
  | 't' :: rest => .ok rest
  | ' ' :: rest => .ok rest
  | [] => .error .tooShort
  | _ => .error .invalid

/-- The day must be one of the calendar where it is written and where it is counted from, in UTC. -/
def assemble (date : Calendar.Date) (hour minute second nanos : Nat) (east : Int) : Except Error Instant :=
  if date.Valid ∧ date.Counted ∧ -86400 < east ∧ east < 86400 then
    let whole : Int := date.toDays * 86400 + hour * 3600 + minute * 60 - east
    if !Calendar.isCountedDay (whole / 86400) then .error .unrepresentable
    else if second = 60 then .ok ⟨whole + 59, nanos + Span.nanosPerSecond⟩
    else .ok ⟨whole + second, nanos⟩
  else .error .outOfRange

def read (style : Style) (text : String) : Except Error Instant := do
  let (y, cs) ← year style text.toList
  let cs ← symbol '-' (style.blanks cs)
  let (month, cs) ← field style 1 12 cs
  let cs ← symbol '-' (style.blanks cs)
  let (day, cs) ← field style 1 31 cs
  let cs ← dateSeparator cs
  let (hour, cs) ← field style 0 23 cs
  let cs ← symbol ':' (style.blanks cs)
  let (minute, cs) ← field style 0 59 cs
  let cs ← symbol ':' (style.blanks cs)
  let (second, cs) ← field style 0 60 cs
  let (nanos, cs) ← fraction cs
  let (east, cs) ← zone style cs
  if style.blanks cs ≠ [] then throw .tooLong
  assemble ⟨y, month, day⟩ hour minute second nanos east

def parse? (text : String) : Option Instant := (read .strict text).toOption

def yearText (y : Int) : String :=
  if 0 ≤ y ∧ y ≤ 9999 then padded 4 y.toNat
  else (if y < 0 then "-" else "+") ++ padded 4 y.natAbs

def write (t : Instant) : String :=
  let date := Calendar.Date.ofDays (t.seconds / Instant.secondsPerDay)
  let s := t.timeOfDay.toNat
  let second := s % 60 + if t.inLeapSecond then 1 else 0
  yearText date.year ++ "-" ++ padded 2 date.month ++ "-" ++ padded 2 date.day ++ "T" ++
    padded 2 (s / 3600) ++ ":" ++ padded 2 (s / 60 % 60) ++ ":" ++ padded 2 second ++ "Z"

end EnvironmentOperator.Rfc3339
