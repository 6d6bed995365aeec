import EnvironmentOperator.Reconcile.Failure
import EnvironmentOperator.Store.Address

namespace EnvironmentOperator

inductive WatchFault where
  | passFailed (environment : Address) (cause : PassError)
  | environmentGone (environment : Address)
  | queueStopped
deriving DecidableEq

inductive Concern where
  | pass
  | environment
  | watch
deriving DecidableEq

def WatchFault.concern : WatchFault → Concern
  | .passFailed _ _ => .pass
  | .environmentGone _ => .environment
  | .queueStopped => .watch

end EnvironmentOperator
