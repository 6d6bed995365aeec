import EnvironmentOperator.Text.Numeral
import EnvironmentOperator.Text.Octet
import EnvironmentOperator.Text.Order
import EnvironmentOperator.Text.Pattern
/-!
Filters for log events, written as directives between commas. A directive is a level, a source, or a source and
the level it is let through up to, and may be limited to what names a certain field. Of the directives about an
event the most exact one decides, and with no directive at all only errors pass.
-/
namespace EnvironmentOperator.Log

inductive Level where
  | off
  | error
  | warn
  | info
  | debug
  | trace
deriving DecidableEq

namespace Level

def all : List Level := [.off, .error, .warn, .info, .debug, .trace]

def name : Level → String
  | .off => "off"
  | .error => "error"
  | .warn => "warn"
  | .info => "info"
  | .debug => "debug"
  | .trace => "trace"

def rank (l : Level) : Nat := all.idxOf l

/-- A level is named in letters of either case or numbered; no text at all names the errors. -/
def ofText? (cs : List Char) : Option Level :=
  match Text.unsigned? 5 cs with
  | some n => all[n]?
  | none =>
      if cs = [] then some .error
      else all.find? (fun l => l.name.toList = cs.map Char.toLower)

end Level

structure Event where
  source : String
  level : Level
  fields : List String
deriving DecidableEq

/-- A directive about spans, or about what a field holds, concerns no event. -/
structure Directive where
  source : Option String
  level : Level
  field : Option String := none
  aside : Bool := false
deriving DecidableEq

namespace Directive

open EnvironmentOperator.Text

def opens (c : Char) : Bool := isAlphanumeric c || c = '-' || c = ':' || c = '_'

/-- A directive's text, and the same without the blanks around it. The parts are found in the second, and cut out
of the first at the same octets. -/
structure Source where
  whole : List Char
  trimmed : List Char
deriving DecidableEq

namespace Source

def ofText (cs : List Char) : Source := ⟨cs, trimBlank cs⟩

def place (s : Source) (rest : List Char) : Nat := octets s.trimmed - octets rest

def onward (s : Source) (rest : List Char) : List Char := dropOctets (s.place rest) s.whole

def between (s : Source) (start stop : List Char) : List Char :=
  takeOctets (s.place stop - s.place start) (s.onward start)

end Source

def leveled? (d : Directive) (cs : List Char) : Option Directive :=
  if cs = [] then some d else (Level.ofText? cs).map (fun l => { d with level := l })

/-- Up to an equals sign, the name of a field; up to the next, what it is to hold: a number or a pattern. -/
def withField? (d : Directive) (cs : List Char) : Option Directive :=
  let name := cs.takeWhile (· ≠ '=')
  match cs.drop name.length with
  | [] => some { d with field := some (String.ofList name) }
  | _ :: rest =>
      let value := rest.takeWhile (· ≠ '=')
      if isNumeral value || isPattern value then some { d with field := some (String.ofList name), aside := true }
      else none

def ended? (s : Source) (d : Directive) : List Char → Option Directive
  | [] => some d
  | '=' :: rest => d.leveled? (s.onward rest)
  | _ => none

def span? (s : Source) (d : Directive) (cs : List Char) : Option Directive :=
  let name := cs.takeWhile (fun c => c ≠ ']' && c ≠ '\x7b')
  match cs.drop name.length with
  | ']' :: rest => ended? s { d with aside := true } rest
  | _ :: rest =>
      let field := rest.takeWhile (· ≠ '\x7d')
      match rest.drop field.length with
      | _ :: ']' :: after =>
          if field = [] then none
          else do
            let d ← withField? { d with aside := !name.isEmpty } (s.between rest (rest.drop field.length))
            ended? s d after
      | _ => none
  | [] => none

def ofText? (cs : List Char) : Option Directive :=
  let s := Source.ofText cs
  match s.trimmed with
  | [] => none
  | '[' :: rest => span? s ⟨none, .trace, none, false⟩ rest
  | c :: _ =>
      if !opens c then none
      else
        let name := s.trimmed.takeWhile (fun c => c ≠ '=' && c ≠ '[')
        let rest := s.trimmed.drop name.length
        let d : Directive := ⟨some (String.ofList (s.between s.trimmed rest)), .trace, none, false⟩
        match rest with
        | [] =>
            match Level.ofText? s.whole with
            | some l => some ⟨none, l, none, false⟩
            | none => some ⟨some (String.ofList s.whole), .trace, none, false⟩
        | '=' :: rest => d.leveled? (s.onward rest)
        | _ :: rest => span? s d rest

def concerns (d : Directive) (e : Event) : Bool :=
  !d.aside && d.source.all (fun s => s.toList.isPrefixOf e.source.toList) && d.field.all e.fields.contains

def reach (d : Directive) : Nat := (d.source.map String.length).getD 0

def fieldBefore : Option String → Option String → Bool
  | none, some _ => true
  | some a, some b => before a b
  | _, none => false

/-- The longer source is the more exact; of sources of one length, a field is, and then the later name. -/
def lessExact (a b : Directive) : Bool :=
  if a.reach = b.reach then fieldBefore a.field b.field else decide (a.reach < b.reach)

def moreExact (best : Option Directive) (d : Directive) : Option Directive :=
  match best with
  | some b => if d.lessExact b then some b else some d
  | none => some d

end Directive

abbrev Filter := List Directive

namespace Filter

def ofLevel (l : Level) : Filter := [⟨none, l, none, false⟩]

def ofText? (s : String) : Option Filter := do
  let directives ← ((s.splitOn ",").filter (· ≠ "")).mapM (fun d => Directive.ofText? d.toList)
  return if directives = [] then ofLevel .error else directives

def decisive (f : Filter) (e : Event) : Option Directive :=
  (f.filter (fun d => d.concerns e)).foldl Directive.moreExact none

def lets (f : Filter) (e : Event) : Bool :=
  match f.decisive e with
  | some d => decide (e.level.rank ≤ d.level.rank)
  | none => false

end Filter

end EnvironmentOperator.Log
