import EnvironmentOperator.Dict

namespace EnvironmentOperator

inductive EnsureOutcome where
  | created
  | updated
  | unchanged
deriving DecidableEq

def EnsureOutcome.name : EnsureOutcome → String
  | .created => "created"
  | .updated => "updated"
  | .unchanged => "unchanged"

inductive RequeueReason where
  | statusEcho
  | success
  | error
deriving DecidableEq

def RequeueReason.name : RequeueReason → String
  | .statusEcho => "status-echo"
  | .success => "success"
  | .error => "error"

inductive Measurement where
  | passStarted
  | passTimed
  | passFailed
  | applied (kind : String) (outcome : EnsureOutcome)
  | deleted (kind : String)
  | tornDown
  | requeued (reason : RequeueReason)
deriving DecidableEq

namespace Measurement

def counter : Measurement → String
  | .passStarted => "devenv_reconciliations_total"
  | .passTimed => "devenv_reconciliation_duration_seconds_count"
  | .passFailed => "devenv_reconciliation_errors_total"
  | .applied kind outcome =>
      "devenv_objects_applied_total\x7bkind=\"" ++ kind ++ "\",outcome=\"" ++ outcome.name ++ "\"\x7d"
  | .deleted kind => "devenv_objects_deleted_total\x7bkind=\"" ++ kind ++ "\"\x7d"
  | .tornDown => "devenv_teardowns_total"
  | .requeued reason => "devenv_requeues_total\x7breason=\"" ++ reason.name ++ "\"\x7d"

end Measurement

abbrev Counters := Dict String Nat

def Counters.count (c : Counters) (m : Measurement) : Counters :=
  Dict.put c m.counter ((Dict.at? c m.counter).getD 0 + 1)

end EnvironmentOperator
