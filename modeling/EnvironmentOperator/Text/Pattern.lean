import EnvironmentOperator.Text.Alphanumeric
import EnvironmentOperator.Text.Blank
import EnvironmentOperator.Text.Numeral
/-!
Search patterns, and which texts are well formed as one. A pattern is read from left to right with the modes that
its flags set, each until the end of the group they stand in. It must match text only, so in the mode without
Unicode nothing may stand that takes in octets beyond ASCII, and with Unicode no boundary of a word can be found.
No closing brace is expected in a pattern, so what a brace opens is never closed.
-/
namespace EnvironmentOperator.Text.Pattern

structure Mode where
  spaced : Bool := false
  unicode : Bool := true
deriving DecidableEq

/-- Passes over blanks and over comments, which reach from a number sign to the end of the line. -/
def passOver (inComment : Bool) : List Char → List Char
  | [] => []
  | c :: rest =>
      if inComment then passOver (decide (c ≠ '\n')) rest
      else if isBlank c then passOver false rest
      else if c = '#' then passOver true rest
      else c :: rest

def Mode.skip (m : Mode) (cs : List Char) : List Char := if m.spaced then passOver false cs else cs

/-! ## Single items -/

inductive Item where
  | char (n : Nat)
  | set
  | mark
deriving DecidableEq

def hex? (m : Mode) : Nat → Nat → List Char → Option (Nat × List Char)
  | 0, n, cs => some (n, cs)
  | count + 1, n, cs =>
      match m.skip cs with
      | c :: rest => do hex? m count (n * 16 + (← hexValue? c)) rest
      | [] => none

def isScalar (n : Nat) : Bool := n < 0xD800 || (0xE000 ≤ n && n < 0x110000)

def isMeta (c : Char) : Bool := "\\.+*?()|[]\x7b\x7d^$#&-~".toList.contains c

/-- Of ASCII everything but letters, digits and angle brackets stands for itself after a backslash. -/
def isEscapable (c : Char) : Bool := isMeta c || (c.toNat < 128 && !c.isAlphanum && c ≠ '<' && c ≠ '>')

def controls : List (Char × Nat) := [('a', 7), ('t', 9), ('n', 10), ('v', 11), ('f', 12), ('r', 13)]

def classNames : List Char := ['c', 'l', 'm', 'n', 'p', 's', 'z']

def numbered? (m : Mode) (count : Nat) (cs : List Char) : Option (Item × List Char) := do
  let (n, rest) ← hex? m count 0 cs
  if isScalar n && (m.unicode || count ≠ 2 || n < 128) then return (.char n, m.skip rest) else none

def escape? (m : Mode) : List Char → Option (Item × List Char)
  | [] => none
  | c :: rest =>
      if c = 'x' then numbered? m 2 rest
      else if c = 'u' then numbered? m 4 rest
      else if c = 'U' then numbered? m 8 rest
      else if c = 'p' ∨ c = 'P' then
        match m.skip rest with
        | d :: rest => if m.unicode && classNames.contains d.toLower then some (.set, m.skip rest) else none
        | [] => none
      else if c = 'd' ∨ c = 's' ∨ c = 'w' then some (.set, rest)
      else if c = 'D' ∨ c = 'S' ∨ c = 'W' then if m.unicode then some (.set, rest) else none
      else if isEscapable c then some (.char c.toNat, rest)
      else if c = 'A' ∨ c = 'z' then some (.mark, rest)
      else if c = 'b' ∨ c = 'B' ∨ c = '<' ∨ c = '>' then if m.unicode then none else some (.mark, rest)
      else (controls.lookup c).map (fun n => (.char n, rest))

/-! ## Sets of characters in brackets -/

def memberOf? (m : Mode) : List Char → Option (Item × List Char)
  | '\\' :: rest => escape? m rest
  | c :: rest => some (.char c.toNat, rest)
  | [] => none

def mayBelong (m : Mode) : Item → Bool
  | .char n => m.unicode || n < 128
  | .set => true
  | .mark => false

def range? (m : Mode) (cs : List Char) : Option (List Char) := do
  let (first, rest) ← memberOf? m cs
  if !mayBelong m first then none
  else
    match m.skip rest with
    | [] => none
    | '-' :: after =>
        match m.skip after with
        | [] => none
        | ']' :: _ => return '-' :: after
        | '-' :: _ => return '-' :: after
        | cs => do
            let (last, rest) ← memberOf? m cs
            match first, last with
            | .char a, .char b => if a ≤ b && mayBelong m last then some rest else none
            | _, _ => none
    | rest => return rest

def namedSets : List String :=
  ["alnum", "alpha", "ascii", "blank", "cntrl", "digit", "graph", "lower", "print", "punct", "space", "upper",
    "word", "xdigit"]

/-- A set by name, as `:alpha:]` stands for the letters and `:^alpha:]` for all else. -/
def namedSet? (cs : List Char) : Option (Bool × List Char) :=
  match cs with
  | ':' :: rest =>
      let (negated, rest) := match rest with
        | '^' :: rest => (true, rest)
        | _ => (false, rest)
      let name := rest.takeWhile (· ≠ ':')
      match rest.drop name.length with
      | ':' :: ']' :: after => if namedSets.contains (String.ofList name) then some (negated, after) else none
      | _ => none
  | _ => none

def dashes (m : Mode) : Nat → List Char → List Char
  | 0, cs => cs
  | fuel + 1, cs =>
      match cs with
      | '-' :: rest => dashes m fuel (m.skip rest)
      | _ => cs

/-- What follows an opening bracket. A closing one stands for itself when it comes first. -/
def openSet? (m : Mode) (cs : List Char) : Option (List Char) :=
  let cs := m.skip cs
  let (negated, start) := match cs with
    | '^' :: rest => (true, m.skip rest)
    | _ => (false, cs)
  let members := dashes m start.length start
  let rest := match members with
    | ']' :: rest => if members.length = start.length then m.skip rest else members
    | _ => members
  if rest = [] ∨ (negated = true ∧ m.unicode = false) then none else some rest

def closeSet? (m : Mode) : Nat → Nat → List Char → Option (List Char)
  | 0, _, _ => none
  | fuel + 1, depth, cs =>
      match m.skip cs with
      | [] => none
      | '[' :: rest =>
          match namedSet? rest with
          | some (negated, rest) => if negated && !m.unicode then none else closeSet? m fuel depth rest
          | none => openSet? m rest >>= closeSet? m fuel (depth + 1)
      | ']' :: rest => if depth ≤ 1 then some rest else closeSet? m fuel (depth - 1) rest
      | '&' :: '&' :: rest => closeSet? m fuel depth rest
      | '-' :: '-' :: rest => closeSet? m fuel depth rest
      | '~' :: '~' :: rest => closeSet? m fuel depth rest
      | cs => range? m cs >>= closeSet? m fuel depth

def set? (m : Mode) (cs : List Char) : Option (List Char) :=
  openSet? m cs >>= fun rest => closeSet? m (rest.length + 1) 1 rest

/-! ## Groups -/

def flagNames : List Char := ['i', 'm', 's', 'U', 'u', 'R', 'x']

/-- Flags up to a colon or the end of the group, each at most once and none of them missing after the dash. -/
def flags? (m : Mode) (seen : List Char) : List Char → Option (Mode × List Char × List Char)
  | [] => none
  | c :: rest =>
      if c = ':' ∨ c = ')' then if seen.head? = some '-' then none else some (m, seen, c :: rest)
      else if seen.contains c || !(c = '-' || flagNames.contains c) then none
      else
        let on := !seen.contains '-'
        let m := if c = 'x' then { m with spaced := on } else if c = 'u' then { m with unicode := on } else m
        flags? m (c :: seen) rest

def isNameChar (c : Char) : Bool := isAlphanumeric c || c = '_' || c = '.' || c = '[' || c = ']'

def isName : List Char → Bool
  | [] => false
  | c :: rest => (c = '_' || (isAlphanumeric c && !isDigit c)) && rest.all isNameChar

/-- How far the reading has come: the modes to return to after the groups that are open, whether there is something
to repeat, and the names given to groups. -/
structure Reading where
  mode : Mode := {}
  outer : List Mode := []
  repeatable : Bool := false
  names : List (List Char) := []
deriving DecidableEq

namespace Reading

def enter (r : Reading) (m : Mode) : Reading := { r with mode := m, outer := r.mode :: r.outer, repeatable := false }

def enterNamed? (r : Reading) (cs : List Char) : Option (Reading × List Char) :=
  let name := cs.takeWhile (· ≠ '>')
  match cs.drop name.length with
  | _ :: rest =>
      if isName name && !r.names.contains name then
        some ({ r.enter r.mode with names := name :: r.names }, rest)
      else none
  | [] => none

def openGroup? (r : Reading) (cs : List Char) : Option (Reading × List Char) :=
  match r.mode.skip cs with
  | '?' :: 'P' :: '<' :: rest => r.enterNamed? rest
  | '?' :: '<' :: '=' :: _ => none
  | '?' :: '<' :: '!' :: _ => none
  | '?' :: '<' :: rest => r.enterNamed? rest
  | '?' :: rest =>
      match flags? r.mode [] rest with
      | some (m, _, ':' :: rest) => some (r.enter m, rest)
      | some (m, _ :: _, _ :: rest) => some ({ r with mode := m, repeatable := false }, rest)
      | _ => none
  | rest => some (r.enter r.mode, rest)

def closeGroup? (r : Reading) : Option Reading :=
  match r.outer with
  | m :: outer => some { r with mode := m, outer, repeatable := true }
  | [] => none

def repeated (r : Reading) : Reading := { r with repeatable := true }

def step? (r : Reading) : List Char → Option (Reading × List Char)
  | '(' :: rest => r.openGroup? rest
  | ')' :: rest => r.closeGroup?.map (fun r => (r, rest))
  | '|' :: rest => some ({ r with repeatable := false }, rest)
  | '[' :: rest => (set? r.mode rest).map (fun rest => (r.repeated, rest))
  | '\x7b' :: _ => none
  | '\\' :: rest => (escape? r.mode rest).map (fun e => (r.repeated, e.2))
  | '.' :: rest => if r.mode.unicode then some (r.repeated, rest) else none
  | c :: rest =>
      if c = '?' ∨ c = '*' ∨ c = '+' then if r.repeatable then some (r, rest) else none
      else some (r.repeated, rest)
  | [] => none

def run (r : Reading) : Nat → List Char → Bool
  | 0, _ => false
  | fuel + 1, cs =>
      match r.mode.skip cs with
      | [] => r.outer.isEmpty
      | cs =>
          match r.step? cs with
          | some (r, rest) => run r fuel rest
          | none => false

end Reading

end Pattern

def isPattern (cs : List Char) : Bool := Pattern.Reading.run {} (cs.length + 1) cs

end EnvironmentOperator.Text
