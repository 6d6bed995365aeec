import EnvironmentOperator.Scope
import EnvironmentOperator.Store.Error

namespace EnvironmentOperator

/-- A store error with what was being done when it came, outermost first. -/
structure Failure where
  contexts : List String
  cause : StoreError
deriving DecidableEq

namespace Failure

def during (activity : String) (e : StoreError) : Failure := ⟨[activity], e⟩

def inside (f : Failure) (activity : String) : Failure := { f with contexts := activity :: f.contexts }

def chain (f : Failure) : List String := f.contexts ++ f.cause.chain

def headline (f : Failure) : String := f.chain.headD ""

def text (f : Failure) : String := ": ".intercalate f.chain

end Failure

inductive Stage where
  | «namespace»
  | certificate
  | tooling
  | ide
  | database
deriving DecidableEq

namespace Stage

def all : List Stage := [.namespace, .certificate, .tooling, .ide, .database]

def name : Stage → String
  | .namespace => "namespace"
  | .certificate => "certificate"
  | .tooling => "tooling"
  | .ide => "ide"
  | .database => "database"

def ofName? (s : String) : Option Stage := all.find? (fun stage => stage.name = s)

end Stage

inductive PassError where
  | fetch (name : String) (cause : StoreError)
  | finalizer (name : String) (cause : StoreError)
  | provisioning (stage : Stage) (failure : Failure)
  | teardown (failure : Failure)
  | status (name : String) (cause : StoreError)
  | incomplete (member : IdentityMember)
deriving DecidableEq

namespace PassError

def message : PassError → String
  | .fetch name cause => "failed to fetch DeveloperEnvironment " ++ name ++ ": " ++ cause.message
  | .finalizer name cause => "failed to update finalizer on " ++ name ++ ": " ++ cause.message
  | .provisioning stage failure => "provisioning stage '" ++ stage.name ++ "' failed: " ++ failure.text
  | .teardown failure => "teardown failed: " ++ failure.text
  | .status name cause => "failed to update status of " ++ name ++ ": " ++ cause.message
  | .incomplete member => "DeveloperEnvironment is missing " ++ member.path

end PassError

end EnvironmentOperator
