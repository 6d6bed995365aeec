import EnvironmentOperator.CommandLine.Page
import EnvironmentOperator.Power
import EnvironmentOperator.Text.Numeral

namespace EnvironmentOperator.CommandLine

inductive PortError where
  | empty
  | notDecimal
  | tooLarge
  | tooSmall
  | outOfRange (n : Int)
deriving DecidableEq

namespace PortError

def greatest : Nat := 65535

def message : PortError → String
  | .empty => "cannot parse integer from empty string"
  | .notDecimal => "invalid digit found in string"
  | .tooLarge => "number too large to fit in target type"
  | .tooSmall => "number too small to fit in target type"
  | .outOfRange n => Text.decimalInt n ++ " is not in 0..=" ++ Text.decimal greatest

end PortError

def readPort (s : String) : Except PortError Nat :=
  let (negative, word) := match s.toList with
    | '-' :: rest => (true, rest)
    | '+' :: rest => (false, rest)
    | cs => (false, cs)
  let digits := word.takeWhile Text.isDigit
  let n := Text.digitsValue digits
  if s.isEmpty then .error .empty
  else if negative && decide (twoTo 63 < n) then .error .tooSmall
  else if !negative && decide (twoTo 63 ≤ n) then .error .tooLarge
  else if word.isEmpty || digits.length < word.length then .error .notDecimal
  else if negative && decide (0 < n) then .error (.outOfRange (-n))
  else if PortError.greatest < n then .error (.outOfRange n)
  else .ok n

theorem readPort_le {s : String} {n : Nat} (h : readPort s = .ok n) : n ≤ PortError.greatest := by
  unfold readPort at h
  grind

inductive UsageError where
  | unknownCommand (place : Place) (word : String) (similar : List String)
  | unknownArgument (place : Place) (argument : String) (similar : Option Flag) (used : List Flag)
  | needlessDashes (place : Place) (word : String)
  | valueMissing (flag : Flag)
  | valueInvalid (flag : Flag) (value : String) (cause : PortError)
  | valueUnwanted (place : Place) (flag : Flag) (value : String) (used : List Flag)
  | repeated (place : Place) (flag : Flag)
deriving DecidableEq

namespace UsageError

def enclosed (s : String) : String := "'" ++ s ++ "'"

def headline : UsageError → String
  | .unknownCommand _ word _ => "unrecognized subcommand " ++ enclosed word
  | .unknownArgument _ argument _ _ => "unexpected argument " ++ enclosed argument ++ " found"
  | .needlessDashes _ word => "unexpected argument " ++ enclosed word ++ " found"
  | .valueMissing f => "a value is required for " ++ enclosed f.shown ++ " but none was supplied"
  | .valueInvalid f value cause =>
      "invalid value " ++ enclosed value ++ " for " ++ enclosed f.shown ++ ": " ++ cause.message
  | .valueUnwanted _ f value _ =>
      "unexpected value " ++ enclosed value ++ " for " ++ enclosed f.shown ++ " found; no more were expected"
  | .repeated _ f => "the argument " ++ enclosed f.shown ++ " cannot be used multiple times"

def tip : UsageError → Option String
  | .unknownCommand _ _ [word] => some ("a similar subcommand exists: " ++ enclosed word)
  | .unknownCommand _ _ (word :: rest) =>
      some ("some similar subcommands exist: " ++ ", ".intercalate ((word :: rest).map enclosed))
  | .unknownArgument _ _ (some f) _ => some ("a similar argument exists: " ++ enclosed f.long)
  | .needlessDashes _ word =>
      some ("subcommand " ++ enclosed word ++ " exists; to use it, remove the '--' before it")
  | _ => none

def usage : UsageError → Option String
  | .unknownCommand p _ _ => some (Place.usage p [])
  | .unknownArgument p _ _ used => some (Place.usage p used)
  | .needlessDashes p _ => some (Place.usage p [])
  | .valueUnwanted p _ _ used => some (Place.usage p used)
  | .repeated p _ => some (Place.usage p [])
  | _ => none

def pointer : UsageError → Option String
  | .unknownCommand (some .help) _ _ => none
  | _ => some "For more information, try '--help'."

def message (e : UsageError) : String :=
  let parts := ["error: " ++ e.headline] ++ (e.tip.map ("  tip: " ++ ·)).toList ++ e.usage.toList ++ e.pointer.toList
  "\n\n".intercalate parts ++ "\n"

end UsageError

end EnvironmentOperator.CommandLine
