import EnvironmentOperator.Reconcile.Finalizer

namespace EnvironmentOperator.Environment

def statusIsCurrent (env : Environment) (status : EnvironmentStatus) : Bool :=
  status.observedGeneration.isSome && decide (status.observedGeneration = env.metadata.generation)

def remaining (interval age : Span) : Option Span :=
  if age.totalNanos < interval.totalNanos then some (Span.ofNanos (interval.totalNanos - age.totalNanos))
  else none

/-- The rest of the quiet time after a status write, when nothing but that write has happened. -/
def statusEchoDelay (env : Environment) (interval : Span) (now : Instant) : Option Span :=
  if env.metadata.deletionTimestamp.isSome || !env.hasFinalizer then none
  else do
    let status ← env.status
    if env.statusIsCurrent status then do
      let updated ← status.lastUpdatedAt?
      remaining interval (now.since updated)
    else none

theorem remaining_le {interval age left : Span} (h : remaining interval age = some left) :
    left.totalNanos ≤ interval.totalNanos ∧ 0 < left.totalNanos := by
  unfold remaining at h
  split at h
  · simp only [Option.some.injEq] at h
    subst h
    simp only [Span.totalNanos_ofNanos]
    omega
  · simp at h

end EnvironmentOperator.Environment
