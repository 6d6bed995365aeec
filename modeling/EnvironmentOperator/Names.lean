namespace EnvironmentOperator.Names

def dedicatedNamespace (env : String) : String := "devenv-" ++ env

def toolsConfigMap (env : String) : String := env ++ "-dev-tools-scripts"

def ideServer (env : String) : String := env ++ "-vscode-server"

def ideWorkspace (env : String) : String := env ++ "-vscode-workspace"

def idePassword (env : String) : String := env ++ "-vscode-password"

def ideIngress (env : String) : String := env ++ "-vscode-ingress"

def database (env : String) : String := env ++ "-database"

def databaseClaim (env : String) : String := env ++ "-db-pvc"

def host (env domainSuffix : String) : String := env ++ "." ++ domainSuffix

/-- One issuer serves every environment of a namespace. -/
def issuer : String := "selfsigned-cluster-issuer"

theorem dedicatedNamespace_inj {a b : String} (h : dedicatedNamespace a = dedicatedNamespace b) : a = b := by
  have h := congrArg String.toList h
  simp only [dedicatedNamespace, String.toList_append, List.append_cancel_left_eq] at h
  exact String.toList_inj.1 h

end EnvironmentOperator.Names
