import EnvironmentOperator.Proofs.Text.Blank
import EnvironmentOperator.Proofs.Text.Unsigned
import EnvironmentOperator.Settings

namespace EnvironmentOperator

open Text (Trimmed Unsigned)

inductive Setting.Form where
  | number
  | text
  | optionalText

abbrev Setting.Form.Value : Setting.Form → Type
  | .number => Nat
  | .text => String
  | .optionalText => Option String

inductive Setting : Setting.Form → Type where
  | errorSeconds : Setting .number
  | successSeconds : Setting .number
  | restartSeconds : Setting .number
  | maxConcurrentPasses : Setting .number
  | metricsPort : Setting .number
  | domainSuffix : Setting .text
  | logLevel : Setting .text
  | logFormat : Setting .text
  | watchedNamespace : Setting .optionalText

namespace Setting

variable {form : Form}

def variableName : Setting form → String
  | .errorSeconds => "ERROR_REQUEUE_SECS"
  | .successSeconds => "SUCCESS_REQUEUE_SECS"
  | .restartSeconds => "WATCH_RESTART_DELAY_SECS"
  | .maxConcurrentPasses => "MAX_CONCURRENT_RECONCILIATIONS"
  | .metricsPort => "METRICS_PORT"
  | .domainSuffix => "DOMAIN_SUFFIX"
  | .logLevel => "LOG_LEVEL"
  | .logFormat => "LOG_FORMAT"
  | .watchedNamespace => "WATCH_NAMESPACE"

def value : Setting form → Settings → form.Value
  | .errorSeconds => Settings.errorSeconds
  | .successSeconds => Settings.successSeconds
  | .restartSeconds => Settings.restartSeconds
  | .maxConcurrentPasses => Settings.maxConcurrentPasses
  | .metricsPort => Settings.metricsPort
  | .domainSuffix => Settings.domainSuffix
  | .logLevel => Settings.logLevel
  | .logFormat => Settings.logFormat
  | .watchedNamespace => Settings.watchedNamespace

def bits : Setting .number → Nat
  | .errorSeconds | .successSeconds | .restartSeconds => 64
  | .maxConcurrentPasses | .metricsPort => 16

end Setting

namespace Settings

inductive Taken (bits default : Nat) : Option String → Nat → Prop where
  | unset : Taken bits default none default
  | given {text : String} {core : List Char} {n : Nat} :
      Trimmed text.toList core → Unsigned core n → n < 2 ^ bits → Taken bits default (some text) n
  | refused {text : String} {core : List Char} :
      Trimmed text.toList core → (∀ n, Unsigned core n → 2 ^ bits ≤ n) → Taken bits default (some text) default

variable {bits greatest default n : Nat} {text : Option String}

theorem taken_numeric (h : greatest + 1 = 2 ^ bits) (default : Nat) (text : Option String) :
    Taken bits default text (numeric greatest default text) := by
  cases text with
  | none => exact .unset
  | some text =>
      have htrimmed := Text.trimmed_trimBlank text.toList
      rw [numeric, Option.bind_some]
      cases hread : Text.unsigned? greatest (Text.trimBlank text.toList) with
      | none =>
          refine .refused htrimmed fun n hn => ?_
          by_contra hlt
          rw [Text.unsigned?_eq_some.2 ⟨hn, by omega⟩] at hread
          cases hread
      | some n =>
          obtain ⟨hn, hle⟩ := Text.unsigned?_eq_some.1 hread
          have hlt : n < 2 ^ bits := by omega
          exact .given htrimmed hn hlt

theorem numeric_of_taken (h : greatest + 1 = 2 ^ bits) (htaken : Taken bits default text n) :
    numeric greatest default text = n := by
  cases htaken with
  | unset => rfl
  | given htrimmed hn hlt =>
      have hle : n ≤ greatest := by omega
      rw [numeric, Option.bind_some, htrimmed.trimBlank_eq, Text.unsigned?_eq_some.2 ⟨hn, hle⟩]
      rfl
  | @refused text core htrimmed hout =>
      rw [numeric, Option.bind_some, htrimmed.trimBlank_eq]
      cases hread : Text.unsigned? greatest core with
      | none => rfl
      | some n =>
          obtain ⟨hn, hle⟩ := Text.unsigned?_eq_some.1 hread
          have hout := hout n hn
          omega

theorem numeric_eq_iff (h : greatest + 1 = 2 ^ bits) : numeric greatest default text = n ↔ Taken bits default text n :=
  ⟨fun heq => heq ▸ taken_numeric h default text, numeric_of_taken h⟩

theorem greatestSeconds_succ : greatestSeconds + 1 = 2 ^ 64 := rfl

theorem greatestShort_succ : greatestShort + 1 = 2 ^ 16 := rfl

/-- A number is what its variable gives for it by the grammar of whole numbers, or the default. No two settings have the
same variable, and no setting depends on any variable but its own. -/
theorem ofLookup_takes (lookup : String → Option String) :
    (∀ (x : Setting .number) (n : Nat),
        x.value (ofLookup lookup) = n ↔ Taken x.bits (x.value {}) (lookup x.variableName) n) ∧
      (Function.Injective fun x : (form : Setting.Form) × Setting form => x.2.variableName) ∧
        ∀ {form : Setting.Form} (x : Setting form) (other : String → Option String),
          other x.variableName = lookup x.variableName → x.value (ofLookup other) = x.value (ofLookup lookup) := by
  refine ⟨?_, ?_, ?_⟩
  · intro x n
    cases x with
    | errorSeconds | successSeconds | restartSeconds => exact numeric_eq_iff greatestSeconds_succ
    | maxConcurrentPasses | metricsPort => exact numeric_eq_iff greatestShort_succ
  · rintro ⟨_, x⟩ ⟨_, y⟩ h
    cases x <;> cases y <;> simp_all [Setting.variableName]
  · intro form x other h
    cases x <;> simp only [Setting.variableName] at h <;> simp only [Setting.value, ofLookup, h]

def crowded : String → Option String
  | "ERROR_REQUEUE_SECS" => some "\t+0018446744073709551615\u2003"
  | "SUCCESS_REQUEUE_SECS" => some "18446744073709551616"
  | "MAX_CONCURRENT_RECONCILIATIONS" => some "0065535"
  | "METRICS_PORT" => some "+ 9090"
  | _ => none

def quiet : String → Option String
  | "ERROR_REQUEUE_SECS" => some "\t+0018446744073709551615\u2003"
  | _ => none

theorem ofLookup_takes_crowded :
    Taken 64 60 (crowded "ERROR_REQUEUE_SECS") 18446744073709551615 ∧
      Taken 64 600 (crowded "SUCCESS_REQUEUE_SECS") 600 ∧
        Taken 16 10 (crowded "MAX_CONCURRENT_RECONCILIATIONS") 65535 ∧
          Taken 16 8080 (crowded "METRICS_PORT") 8080 ∧
            quiet "ERROR_REQUEUE_SECS" = crowded "ERROR_REQUEUE_SECS" ∧
              (ofLookup quiet).errorSeconds = (ofLookup crowded).errorSeconds := by
  obtain ⟨htakes, -, hown⟩ := ofLookup_takes crowded
  refine ⟨(htakes .errorSeconds _).1 ?_, (htakes .successSeconds _).1 ?_, (htakes .maxConcurrentPasses _).1 ?_,
    (htakes .metricsPort _).1 ?_, rfl, hown .errorSeconds quiet rfl⟩ <;> with_unfolding_all rfl

end Settings

end EnvironmentOperator
