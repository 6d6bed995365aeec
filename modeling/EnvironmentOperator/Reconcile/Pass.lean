import EnvironmentOperator.Reconcile.Finalizer
import EnvironmentOperator.Reconcile.Stage
import EnvironmentOperator.Reconcile.Status
import EnvironmentOperator.Reconcile.Teardown
import EnvironmentOperator.Settings

namespace EnvironmentOperator

inductive PassOutcome where
  | gone
  | finalized
  | converged
deriving DecidableEq

def PassOutcome.name : PassOutcome → String
  | .gone => "Gone"
  | .finalized => "Finalized"
  | .converged => "Converged"

namespace Pass

def release (env : Environment) (s : Scope) : Program PassError PassOutcome := do
  (Teardown.teardown s).mapError .teardown
  env.removeFinalizer.mapError (.finalizer s.name)
  Program.count .tornDown
  return .finalized

def converge (env : Environment) (s : Scope) (now : Instant) : Program PassError PassOutcome := do
  Stage.provisionAll s env.spec Stage.all
  (Status.markReady env s now).mapError (.status s.name)
  return .converged

/-- The finalizer is in place before the first object is created. -/
def work (env : Environment) (s : Scope) (now : Instant) : Program PassError PassOutcome :=
  match env.lifecycle with
  | .terminating true => release env s
  | .terminating false => .done .gone
  | .live false => do
      let env ← env.addFinalizer.mapError (.finalizer s.name)
      converge env s now
  | .live true => converge env s now

def run (settings : Settings) (now : Instant) (ns name : String) : Program PassError PassOutcome := do
  let fetched ← Program.result (Environment.fetch (some ns) name)
  match fetched with
  | .error e => if e.isNotFound then return .gone else .fail (.fetch name e)
  | .ok env =>
      match Scope.ofEnvironment env settings.domainSuffix with
      | .error member => .fail (.incomplete member)
      | .ok s => work env s now

end Pass

end EnvironmentOperator
