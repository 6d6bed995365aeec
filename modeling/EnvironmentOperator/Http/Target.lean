import EnvironmentOperator.Text.Octet
/-!
The target of a request: a path and perhaps a query, which a scheme and a host may stand in front of. What may
stand in each without being escaped is checked, and a fragment is not part of it. A target that is only a host, or
a star for the whole server, has no path of a page.
-/
namespace EnvironmentOperator.Http

structure Target where
  path : List Char
  query : Option (List Char)
deriving DecidableEq

namespace Target

inductive Error where
  | empty
  | tooLong
  | schemeTooLong
  | malformedHost
  | malformed
  | character
deriving DecidableEq

def Error.message : Error → String
  | .empty => "empty string"
  | .tooLong => "uri too long"
  | .schemeTooLong => "scheme too long"
  | .malformedHost => "invalid authority"
  | .malformed => "invalid format"
  | .character => "invalid uri character"

def greatestOctets : Nat := 65534

/-! ## Paths and queries -/

def isPathChar (c : Char) : Bool :=
  let n := c.toNat
  n = 0x21 || n = 0x22 || (0x24 ≤ n && n ≤ 0x3B) || n = 0x3D || (0x40 ≤ n && n ≤ 0x5F) ||
    (0x61 ≤ n && n ≤ 0x7E) || 0x80 ≤ n

def isQueryChar (c : Char) : Bool :=
  let n := c.toNat
  n = 0x21 || (0x24 ≤ n && n ≤ 0x3B) || n = 0x3D || (0x3F ≤ n && n ≤ 0x7E) || 0x80 ≤ n

def ofPathText (cs : List Char) : Except Error Target :=
  let path := cs.takeWhile (fun c => c ≠ '?' && c ≠ '#')
  let query := match cs.drop path.length with
    | '?' :: rest => some (rest.takeWhile (· ≠ '#'))
    | _ => none
  if path.all isPathChar && (query.getD []).all isQueryChar then
    .ok ⟨if path = [] then ['/'] else path, query⟩
  else .error .character

/-! ## Hosts -/

def isHostChar (c : Char) : Bool :=
  c.isAlphanum ||
    ['-', '.', '_', '~', '!', '$', '&', '\'', '(', ')', '*', '+', ',', ';', '=', ':', '@', '[', ']'].contains c

def endsHost (c : Char) : Bool := c = '/' || c = '?' || c = '#'

/-- What has been seen of a host. Colons and percent signs of a user or of an address in brackets do not count
afterwards. -/
structure HostScan where
  colons : Nat := 0
  opened : Bool := false
  closed : Bool := false
  percent : Bool := false
  last : Option Char := none
deriving DecidableEq

namespace HostScan

def mostColons : Nat := 8

def see (s : HostScan) (c : Char) : Except Error HostScan :=
  let s := { s with last := some c }
  if c = ':' then
    if mostColons ≤ s.colons then .error .malformedHost else .ok { s with colons := s.colons + 1 }
  else if c = '[' then
    if s.percent || s.opened then .error .malformedHost else .ok { s with opened := true }
  else if c = ']' then
    if !s.opened || s.closed then .error .malformedHost
    else .ok { s with closed := true, colons := 0, percent := false }
  else if c = '@' then .ok { s with colons := 0, percent := false }
  else if c = '%' then .ok { s with percent := true }
  else if isHostChar c then .ok s
  else .error .character

def isWhole (s : HostScan) : Bool :=
  s.opened == s.closed && s.colons ≤ 1 && s.last != some '@' && !s.percent

end HostScan

def afterHost (cs : List Char) : Except Error (List Char) := do
  let host := cs.takeWhile (fun c => !endsHost c)
  let scan ← host.foldlM HostScan.see {}
  if scan.isWhole then return cs.drop host.length else throw .malformedHost

def ofHostText (cs : List Char) (error : Error) : Except Error Target := do
  if (← afterHost cs) = [] then return ⟨[], none⟩ else throw error

/-! ## Schemes -/

def isSchemeChar (c : Char) : Bool := c.isAlphanum || c = '+' || c = '-' || c = '.' || c = '~'

def longestScheme : Nat := 64

def afterScheme? (cs : List Char) : Except Error (Option (List Char)) :=
  let name := cs.takeWhile isSchemeChar
  match cs.drop name.length with
  | ':' :: '/' :: '/' :: rest =>
      if cs.length ≤ 3 then .ok none
      else if longestScheme < name.length then .error .schemeTooLong
      else .ok (some rest)
  | _ => .ok none

def ofFullText (cs : List Char) : Except Error Target := do
  match ← afterScheme? cs with
  | none => ofHostText cs .malformed
  | some rest =>
      let path ← afterHost rest
      if path.length = rest.length then throw .malformed else ofPathText path

def ofText (s : String) : Except Error Target :=
  if greatestOctets < Text.octets s.toList then .error .tooLong
  else
    match s.toList with
    | [] => .error .empty
    | ['*'] => .ok ⟨['*'], none⟩
    | '/' :: rest => ofPathText ('/' :: rest)
    | [c] => ofHostText [c] .character
    | cs => ofFullText cs

def toText (t : Target) : String :=
  String.ofList (t.path ++ match t.query with
    | some q => '?' :: q
    | none => [])

end Target

end EnvironmentOperator.Http
