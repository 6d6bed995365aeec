import EnvironmentOperator.Binary64.Shortest
import EnvironmentOperator.Json
import EnvironmentOperator.Text.Numeral
/-!
JSON values written as YAML, one member or item a line. Lists stand at the indentation of the member that holds
them, and a text of several lines is a literal block.
-/
namespace EnvironmentOperator.Yaml

def indent (line : String) : String := if line = "" then "" else "  " ++ line

def hang : List String → List String
  | [] => []
  | line :: rest => ("- " ++ line) :: rest.map indent

def indicators : List Char :=
  ['-', '?', ':', ',', '[', ']', '\x7b', '\x7d', '#', '&', '*', '!', '|', '>', '\'', '"', '%', '@', '\x60', ' ']

def hasMark : List Char → Bool
  | [] => false
  | [c] => c = ':' || c = ' '
  | ':' :: ' ' :: _ => true
  | ' ' :: '#' :: _ => true
  | _ :: rest => hasMark rest

def words : List String := ["null", "true", "false"]

/-- A text that would be read as something else if it stood there bare. -/
def isQuoted (s : String) : Bool :=
  match s.toList with
  | [] => true
  | c :: rest => indicators.contains c || c.isDigit || hasMark (c :: rest) || words.contains s

def doubled (c : Char) : List Char := if c = '\'' then [c, c] else [c]

def quoted (s : String) : String := "'" ++ String.ofList (s.toList.flatMap doubled) ++ "'"

def scalar (s : String) : String := if isQuoted s then quoted s else s

def textLines (s : String) : List String :=
  match s.splitOn "\n" with
  | [line] => [scalar line]
  | lines => "|-" :: lines.map indent

def place (name : String) (value : Json) (lines : List String) : List String :=
  match value, lines with
  | .arr (_ :: _), lines => (name ++ ":") :: lines
  | .obj (_ :: _), lines => (name ++ ":") :: lines.map indent
  | _, [] => [name ++ ":"]
  | _, line :: rest => (name ++ ": " ++ line) :: rest

mutual

def lines : Json → List String
  | .null => ["null"]
  | .bool b => [if b then "true" else "false"]
  | .int n => [Text.decimalInt n]
  | .real x => [x.render]
  | .str s => textLines s
  | .arr [] => ["[]"]
  | .arr (item :: rest) => hang (lines item) ++ itemLines rest
  | .obj [] => ["\x7b\x7d"]
  | .obj ((name, value) :: rest) => place name value (lines value) ++ memberLines rest

def itemLines : List Json → List String
  | [] => []
  | item :: rest => hang (lines item) ++ itemLines rest

def memberLines : List (String × Json) → List String
  | [] => []
  | (name, value) :: rest => place name value (lines value) ++ memberLines rest

end

def render (j : Json) : String := "\n".intercalate (lines j) ++ "\n"

end EnvironmentOperator.Yaml
