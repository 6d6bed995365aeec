import EnvironmentOperator.Manifest.Issuing
import EnvironmentOperator.Scope

namespace EnvironmentOperator.Desired

def issuer (s : Scope) : Issuer where
  metadata := { name := some Names.issuer, «namespace» := some s.namespace }
  spec := { selfSigned := some {} }

def certificate (s : Scope) : Certificate where
  metadata := { name := some s.host, «namespace» := some s.namespace }
  spec := {
    isAuthority := true
    commonName := some s.host
    secretName := s.host
    privateKey := some ⟨"ECDSA", 256⟩
    issuer := { name := Names.issuer, kind := some "Issuer", group := some "cert-manager.io" } }

end EnvironmentOperator.Desired
