import EnvironmentOperator.Environment
import EnvironmentOperator.Program
import EnvironmentOperator.Scope

namespace EnvironmentOperator.Status

def nextTimestamp (previous : Option Instant) (now : Instant) : Instant :=
  match previous with
  | some t => t.latest now
  | none => now

def previousUpdate (env : Environment) : Option Instant :=
  env.status.bind EnvironmentStatus.lastUpdatedAt?

def readyPatch (env : Environment) (s : Scope) (now : Instant) : Json := .obj [
  ("accessURL", .str s.accessUrl),
  ("lastUpdated", .str (Rfc3339.write (nextTimestamp (previousUpdate env) now))),
  ("observedGeneration", (env.metadata.generation.map encode).getD .null),
  ("phase", .str "Ready")]

def markReady (env : Environment) (s : Scope) (now : Instant) : Program StoreError Unit :=
  Program.request (.patchStatus (.ofKind .environment (some s.namespace) s.name) (readyPatch env s now))

theorem le_nextTimestamp {previous now : Instant} :
    previous.le (nextTimestamp (some previous) now) = true := Instant.le_latest_left previous now

end EnvironmentOperator.Status
