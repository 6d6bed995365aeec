import EnvironmentOperator.Text.Blank
import EnvironmentOperator.Text.Numeral
import EnvironmentOperator.Time.Span

namespace EnvironmentOperator

structure Settings where
  errorSeconds : Nat := 60
  successSeconds : Nat := 600
  domainSuffix : String := "developerenv.adityajoshi.online"
  watchedNamespace : Option String := none
  maxConcurrentPasses : Nat := 10
  metricsPort : Nat := 8080
  logLevel : String := "info"
  logFormat : String := "text"
  restartSeconds : Nat := 5
deriving DecidableEq

namespace Settings

def variableNames : List String := [
  "ERROR_REQUEUE_SECS",
  "SUCCESS_REQUEUE_SECS",
  "DOMAIN_SUFFIX",
  "WATCH_NAMESPACE",
  "MAX_CONCURRENT_RECONCILIATIONS",
  "METRICS_PORT",
  "LOG_LEVEL",
  "LOG_FORMAT",
  "WATCH_RESTART_DELAY_SECS"]

def greatestSeconds : Nat := 18446744073709551615

def greatestShort : Nat := 65535

def numeric (greatest default : Nat) (text : Option String) : Nat :=
  (text.bind (fun s => Text.unsigned? greatest (Text.trimBlank s.toList))).getD default

def isBlankText (s : String) : Bool := s.toList.all Text.isBlank

def nonBlank (text : Option String) : Option String := text.filter (fun s => !isBlankText s)

def ofLookup (lookup : String → Option String) : Settings where
  errorSeconds := numeric greatestSeconds 60 (lookup "ERROR_REQUEUE_SECS")
  successSeconds := numeric greatestSeconds 600 (lookup "SUCCESS_REQUEUE_SECS")
  domainSuffix := (nonBlank (lookup "DOMAIN_SUFFIX")).getD "developerenv.adityajoshi.online"
  watchedNamespace := nonBlank (lookup "WATCH_NAMESPACE")
  maxConcurrentPasses := numeric greatestShort 10 (lookup "MAX_CONCURRENT_RECONCILIATIONS")
  metricsPort := numeric greatestShort 8080 (lookup "METRICS_PORT")
  logLevel := (lookup "LOG_LEVEL").getD "info"
  logFormat := (lookup "LOG_FORMAT").getD "text"
  restartSeconds := numeric greatestSeconds 5 (lookup "WATCH_RESTART_DELAY_SECS")

def errorInterval (s : Settings) : Span := Span.ofSeconds s.errorSeconds

def successInterval (s : Settings) : Span := Span.ofSeconds s.successSeconds

def restartInterval (s : Settings) : Span := Span.ofSeconds s.restartSeconds

theorem ofLookup_none : ofLookup (fun _ => none) = {} := rfl

theorem numeric_le {greatest default : Nat} {text : Option String} (h : default ≤ greatest) :
    numeric greatest default text ≤ greatest := by
  unfold numeric
  cases text with
  | none => exact h
  | some s =>
      cases hu : Text.unsigned? greatest (Text.trimBlank s.toList) with
      | none => simpa [hu] using h
      | some n => simpa [hu] using Text.unsigned?_le hu

end Settings

end EnvironmentOperator
