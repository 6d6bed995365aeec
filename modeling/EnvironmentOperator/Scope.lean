import EnvironmentOperator.Environment
import EnvironmentOperator.Names

namespace EnvironmentOperator

structure Scope where
  name : String
  «namespace» : String
  uid : String
  domainSuffix : String
deriving DecidableEq

inductive IdentityMember where
  | name
  | «namespace»
deriving DecidableEq

def IdentityMember.path : IdentityMember → String
  | .name => "metadata.name"
  | .namespace => "metadata.namespace"

namespace Scope

def ofEnvironment (env : Environment) (domainSuffix : String) : Except IdentityMember Scope :=
  match env.metadata.name, env.metadata.namespace with
  | none, _ => .error .name
  | some _, none => .error .namespace
  | some name, some ns => .ok ⟨name, ns, env.metadata.uid.getD "", domainSuffix⟩

/-- The host of the ingress, which also names the certificate and its secret. -/
def host (s : Scope) : String := Names.host s.name s.domainSuffix

def accessUrl (s : Scope) : String := "https://" ++ s.host

end Scope

end EnvironmentOperator
