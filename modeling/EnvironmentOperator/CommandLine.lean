import EnvironmentOperator.CommandLine.UsageError
import EnvironmentOperator.Definition
import EnvironmentOperator.Log
import EnvironmentOperator.Text.Similarity
/-!
Reading the command line from left to right, and what the program does in answer to it. A flag's value is checked
when the next flag or the end is reached, so what is wrong further left is told first, except that a command is
read to its end before the flag in front of it is looked at.
-/
namespace EnvironmentOperator.CommandLine

structure Overrides where
  metricsPort : Option Nat := none
  watchedNamespace : Option String := none
deriving DecidableEq

inductive Invocation where
  | help (place : Place)
  | version
  | definition
  | run (overrides : Overrides)
deriving DecidableEq

inductive Halt where
  | shown (invocation : Invocation)
  | refused (cause : UsageError)
deriving DecidableEq

structure Progress where
  given : List Flag := []
  pending : Option (Flag × Option String) := none
  overrides : Overrides := {}
  onlyWords : Bool := false
deriving DecidableEq

namespace Progress

def awaitsValue (s : Progress) : Bool :=
  match s.pending with
  | some (_, none) => true
  | _ => false

def record (s : Progress) (f : Flag) (value : String) : Except UsageError Overrides :=
  match f with
  | .metricsPort =>
      match readPort value with
      | .ok n => .ok { s.overrides with metricsPort := some n }
      | .error e => .error (.valueInvalid f value e)
  | _ => .ok { s.overrides with watchedNamespace := some value }

def take (p : Place) (s : Progress) (f : Flag) (value : String) : Except UsageError Progress :=
  if f ∈ s.given then .error (.repeated p f)
  else do
    let overrides ← s.record f value
    return { s with given := s.given ++ [f], pending := none, overrides }

def resolve (p : Place) (s : Progress) : Except UsageError Progress :=
  match s.pending with
  | none => .ok s
  | some (f, none) => .error (.valueMissing f)
  | some (f, some value) => s.take p f value

/-- The flags on the line so far. The one that waits counts once it has a value, right or wrong, but when it was
there before, neither of the two does. -/
def used (s : Progress) : List Flag :=
  match s.pending with
  | some (f, some _) => if f ∈ s.given then s.given.erase f else s.given ++ [f]
  | _ => s.given

end Progress

def orRefused {α : Type} (r : Except UsageError α) : Except Halt α := r.mapError .refused

def strayWord (p : Place) (s : Progress) (word : String) : UsageError :=
  if s.onlyWords && (Place.command? p word).isSome then .needlessDashes p word
  else if (Place.commands p).isEmpty then .unknownArgument p word none []
  else .unknownCommand p word (Text.similarTo word ((Place.commands p).map Command.name))

def unknownFlag (p : Place) (s : Progress) (name : String) : UsageError :=
  let similar := (Text.similarTo name ((Place.flags p).map Flag.name)).getLast?.bind (Place.flag? p)
  let used := s.used
  .unknownArgument p ("--" ++ name) similar (used ++ similar.toList.filter (fun f => !used.contains f))

def longFlag? (word : String) : Option (String × Option String) :=
  match word.toList with
  | '-' :: '-' :: c :: rest =>
      let name := (c :: rest).takeWhile (· ≠ '=')
      match (c :: rest).drop name.length with
      | _ :: value => some (String.ofList name, some (String.ofList value))
      | [] => some (String.ofList name, none)
  | _ => none

def shortFlag? (word : String) : Option Char :=
  match word.toList with
  | ['-'] => none
  | '-' :: c :: _ => if c = '-' then none else some c
  | _ => none

def invocationOf (p : Place) : Flag → Invocation
  | .version => .version
  | _ => .help p

def answerFlag (p : Place) (s : Progress) (f : Flag) : Halt :=
  match s.resolve p with
  | .error e => .refused e
  | .ok _ => .shown (invocationOf p f)

def readLong (p : Place) (s : Progress) (name : String) (value : Option String) : Except Halt Progress :=
  match Place.flag? p name, value with
  | none, _ => .error (.refused (unknownFlag p s name))
  | some f, none =>
      if f.takesValue then do
        let s ← orRefused (s.resolve p)
        return { s with pending := some (f, none) }
      else .error (answerFlag p s f)
  | some f, some value =>
      if f.takesValue then orRefused (s.resolve p >>= fun s => s.take p f value)
      else .error (.refused (.valueUnwanted p f value (s.given ++ [f])))

def readShort (p : Place) (s : Progress) (c : Char) : Halt :=
  match Place.shortFlag? p c with
  | some f => answerFlag p s f
  | none => .refused (.unknownArgument p ("-" ++ String.ofList [c]) none [])

def readWord (p : Place) (s : Progress) (word : String) : Except Halt Progress :=
  if s.onlyWords then .error (.refused (strayWord p s word))
  else if word = "--" then .ok { s with onlyWords := true }
  else
    match longFlag? word, shortFlag? word, s.pending with
    | some (name, value), _, _ => readLong p s name value
    | _, some c, _ => .error (readShort p s c)
    | _, _, some (f, none) => .ok { s with pending := some (f, some word) }
    | _, _, _ => .error (.refused (strayWord p s word))

def helpFor (p : Place) : List String → Except Halt Place
  | [] => .ok p
  | word :: rest =>
      match Place.command? p word with
      | some c => helpFor (some c) rest
      | none => .error (.refused (.unknownCommand p word []))

def readFlags (p : Place) (s : Progress) : List String → Except Halt Overrides
  | [] => (orRefused (s.resolve p)).map Progress.overrides
  | word :: rest => do
      let s ← readWord p s word
      readFlags p s rest

def Overrides.over (inner outer : Overrides) : Overrides where
  metricsPort := inner.metricsPort <|> outer.metricsPort
  watchedNamespace := inner.watchedNamespace <|> outer.watchedNamespace

def readCommand (s : Progress) (c : Command) (rest : List String) : Except Halt Invocation := do
  match c with
  | .help => return .help (← helpFor none rest)
  | .run =>
      let inner ← readFlags (some .run) {} rest
      let s ← orRefused (s.resolve none)
      return .run (inner.over s.overrides)
  | .definition =>
      let _ ← readFlags (some .definition) {} rest
      let _ ← orRefused (s.resolve none)
      return .definition

def readLine (s : Progress) : List String → Except Halt Invocation
  | [] => (orRefused (s.resolve none)).map (fun s => .run s.overrides)
  | word :: rest =>
      match if s.onlyWords || s.awaitsValue then none else Place.command? none word with
      | some c => readCommand s c rest
      | none => do
          let s ← readWord none s word
          readLine s rest

def parse (words : List String) : Except UsageError Invocation :=
  match readLine {} words with
  | .ok i => .ok i
  | .error (.shown i) => .ok i
  | .error (.refused e) => .error e

def Overrides.apply (o : Overrides) (settings : Settings) : Settings :=
  { settings with
    metricsPort := o.metricsPort.getD settings.metricsPort
    watchedNamespace := o.watchedNamespace <|> settings.watchedNamespace }

inductive Outcome where
  | printed (text : String)
  | refused (cause : UsageError)
  | clusterless (log : Log.Form)
deriving DecidableEq

namespace Outcome

def code : Outcome → Nat
  | .printed _ => 0
  | .refused _ => 2
  | .clusterless _ => 1

def clusterlessMessage : String := "Error: Failed to create Kubernetes client"

end Outcome

def perform (lookup : String → Option String) : Invocation → Outcome
  | .help p => .printed (helpPage p)
  | .version => .printed versionPage
  | .definition => .printed Definition.yaml
  | .run overrides =>
      .clusterless (Log.form (lookup "RUST_LOG") (overrides.apply (Settings.ofLookup lookup)))

def outcome (lookup : String → Option String) (words : List String) : Outcome :=
  match parse words with
  | .ok i => perform lookup i
  | .error e => .refused e

end EnvironmentOperator.CommandLine
