import EnvironmentOperator.Reconcile.Echo
import EnvironmentOperator.Reconcile.Pass

namespace EnvironmentOperator

inductive Action where
  | requeueAfter (delay : Span)
  | awaitChange
deriving DecidableEq

def PassOutcome.action (settings : Settings) : PassOutcome → Action
  | .converged => .requeueAfter settings.successInterval
  | .gone => .awaitChange
  | .finalized => .awaitChange

namespace Reconcile

def noteSuccess : PassOutcome → Program PassError Unit
  | .converged => Program.count (.requeued .success)
  | _ => .done ()

def pass (settings : Settings) (now : Instant) (ns name : String) : Program PassError Action := do
  Program.count .passStarted
  let result ← Program.result (Pass.run settings now ns name)
  Program.count .passTimed
  let outcome ← Program.ofExcept result
  noteSuccess outcome
  return outcome.action settings

def reconcile (settings : Settings) (now : Instant) (env : Environment) : Program PassError Action :=
  match env.statusEchoDelay settings.successInterval now with
  | some left => do
      Program.count (.requeued .statusEcho)
      return .requeueAfter left
  | none => pass settings now (env.metadata.namespace.getD "") env.metadata.anyName

def errorAction (settings : Settings) : Action := .requeueAfter settings.errorInterval

def noteFailure : Program PassError Unit := do
  Program.count .passFailed
  Program.count (.requeued .error)

def respond (settings : Settings) (now : Instant) (env : Environment) :
    Program PassError (Except PassError Action × Action) := do
  let result ← Program.result (reconcile settings now env)
  match result with
  | .ok action => return (.ok action, action)
  | .error e => do
      noteFailure
      return (.error e, errorAction settings)

end Reconcile

end EnvironmentOperator
