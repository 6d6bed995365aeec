import EnvironmentOperator.Environment
import EnvironmentOperator.Program

namespace EnvironmentOperator

inductive Lifecycle where
  | live (marked : Bool)
  | terminating (marked : Bool)
deriving DecidableEq

namespace Environment

def finalizer : String := "finalizer.devenv.adityajoshi.online"

def hasFinalizer (env : Environment) : Bool := env.metadata.finalizerList.contains finalizer

def lifecycle (env : Environment) : Lifecycle :=
  if env.metadata.deletionTimestamp.isSome then .terminating env.hasFinalizer else .live env.hasFinalizer

def withFinalizer (env : Environment) : Environment :=
  { env with metadata := { env.metadata with finalizers := some (env.metadata.finalizerList ++ [finalizer]) } }

def withoutFinalizer (env : Environment) : Environment :=
  { env with metadata := { env.metadata with
      finalizers := some (env.metadata.finalizerList.filter (fun f => decide (f ≠ finalizer))) } }

def address (ns : Option String) (name : String) : Address := .ofKind .environment ns name

def fetch (ns : Option String) (name : String) : Program StoreError Environment := do
  let o : Object ← Program.request (.get (address ns name))
  Program.ofExcept (o.typed Environment)

def write (env : Environment) : Program StoreError Environment := do
  let o : Object ← Program.request (.replace Kind.environment.resource (Manifest.toObject env))
  Program.ofExcept (o.typed Environment)

/-- After a conflict the environment is read again: it may have the finalizer by then. -/
def addFinalizerAnew (env : Environment) : Program StoreError Environment := do
  let latest ← fetch env.metadata.namespace env.metadata.anyName
  if latest.hasFinalizer then return latest else latest.withFinalizer.write

def addFinalizer (env : Environment) : Program StoreError Environment := do
  let written ← Program.result env.withFinalizer.write
  match written with
  | .ok written => return written
  | .error e => if e.isConflict then env.addFinalizerAnew else .fail e

def removeFinalizer (env : Environment) : Program StoreError Unit := do
  let _ ← Program.request (.replace Kind.environment.resource (Manifest.toObject env.withoutFinalizer))
  return ()

theorem hasFinalizer_withFinalizer (env : Environment) : env.withFinalizer.hasFinalizer = true := by
  simp [hasFinalizer, withFinalizer, Metadata.finalizerList]

theorem hasFinalizer_withoutFinalizer (env : Environment) : env.withoutFinalizer.hasFinalizer = false := by
  simp [hasFinalizer, withoutFinalizer, Metadata.finalizerList]

end Environment

end EnvironmentOperator
