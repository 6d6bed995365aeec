import EnvironmentOperator.Json.Yaml
import EnvironmentOperator.Manifest.Kind

namespace EnvironmentOperator.Definition

def schema (type : String) (rest : List (String × Json)) : Json := Json.object (("type", .str type) :: rest)

def text (rest : List (String × Json)) : Json := schema "string" rest

def record (properties rest : List (String × Json)) : Json :=
  schema "object" (("properties", Json.object properties) :: rest)

def list (items : Json) (rest : List (String × Json)) : Json := schema "array" (("items", items) :: rest)

def description (lines : List String) : String × Json := ("description", .str ("\n".intercalate lines))

def default (value : Json) : String × Json := ("default", value)

def required (names : List String) : String × Json := ("required", .arr (names.map .str))

def nullable : String × Json := ("nullable", .bool true)

def database : Json := record
  [("type", text [default (.str ""), description ["Backend kind: postgres or redis"]]),
    ("version", text [default (.str "latest"), description ["Image tag"]])]
  [default (Json.object [("type", .str ""), ("version", .str "latest")]),
    description [
      "Database backing the environment (postgres or redis; other types get",
      "a bare deployment)"]]

def dependency : Json := record
  [("name", text []), ("version", text [default (.str "")])]
  [description ["Additional tool dependency"], required ["name"]]

def dependencies : Json :=
  list dependency [default (.arr []), description ["Extra packages appended to the install script"]]

def ide : Json := record
  [("extensions", list (text [])
      [default (.arr []), description ["Extensions installed by the post-start hook, in order"]]),
    ("passwordSecret", text [default (.str ""),
      description ["Login password copied verbatim into the \x60<name>-vscode-password\x60 Secret"]]),
    ("settings", schema "object" [("additionalProperties", text []), default (.obj []),
      description ["Editor settings (accepted, not applied)"]]),
    ("type", text [default (.str ""),
      description ["IDE flavour (informational; only code-server is provisioned)"]])]
  [default (Json.object [
      ("extensions", .arr []), ("passwordSecret", .str ""), ("settings", .obj []), ("type", .str "")]),
    description ["VS Code server configuration"]]

def spec : Json := record
  [("database", database),
    ("dependencies", dependencies),
    ("ide", ide),
    ("language", text [description [
      "Language toolchain to install: one of nodejs, go, python, java, rust",
      "Any other value installs only the base tools"]]),
    ("version", text [default (.str ""), description ["Toolchain version; empty selects the language default"]])]
  [required ["language"],
    description [
      "DeveloperEnvironment Custom Resource Definition",
      "",
      "One self-service sandbox on the shared cluster: tooling install script,",
      "a VS Code server behind TLS ingress and a database. The database is always",
      "provisioned; leaving \x60database\x60 out yields a \x60:latest\x60 deployment with no",
      "ports, env or volumes.",
      "",
      "# Example",
      "",
      "\x60\x60\x60yaml",
      "apiVersion: api.adityajoshi.online/v1",
      "kind: DeveloperEnvironment",
      "metadata:",
      "  name: alice",
      "  namespace: sandboxes",
      "spec:",
      "  language: python",
      "  version: \"3.12\"",
      "  ide:",
      "    type: vscode",
      "    extensions:",
      "      - ms-python.python",
      "    passwordSecret: changeme",
      "  database:",
      "    type: postgres",
      "    version: \"16\"",
      "  dependencies:",
      "    - name: jq",
      "      version: \"\"",
      "\x60\x60\x60"]]

def condition : Json := record
  [("message", text [nullable]),
    ("reason", text [nullable]),
    ("status", text [description ["Status of condition (True, False, Unknown)"]]),
    ("type", text [description ["Type of condition"]])]
  [description ["Condition contains details for the current condition of the environment"],
    required ["status", "type"]]

def status : Json := record
  [("accessURL", text [description ["HTTPS URL of the VS Code server"], nullable]),
    ("conditions", list condition [description ["Conditions represent the latest available observations"]]),
    ("lastUpdated", text [description ["Time of the last successful pass (RFC3339)"], nullable]),
    ("observedGeneration", schema "integer" [("format", .str "int64"),
      description ["Generation the last successful pass converged"], nullable]),
    ("phase", text [default (.str ""),
      description ["Free-form phase; the controller writes \"Ready\" after a full provisioning chain"]])]
  [description ["Status of the DeveloperEnvironment resource"], nullable]

def environment : Json := record
  [("spec", spec), ("status", status)]
  [description ["Auto-generated derived type for DeveloperEnvironmentSpec via \x60CustomResource\x60"],
    required ["spec"],
    ("title", .str Kind.environment.name)]

def column (name path : String) : Json :=
  Json.object [("jsonPath", .str path), ("name", .str name), ("type", .str "string")]

def version : Json := Json.object [
  ("name", .str Kind.environment.version),
  ("served", .bool true),
  ("storage", .bool true),
  ("schema", Json.object [("openAPIV3Schema", environment)]),
  ("subresources", Json.object [("status", .obj [])]),
  ("additionalPrinterColumns", .arr [
    column "Phase" ".status.phase",
    column "URL" ".status.accessURL",
    column "Language" ".spec.language"])]

def document : Json := Json.object [
  ("apiVersion", .str "apiextensions.k8s.io/v1"),
  ("kind", .str "CustomResourceDefinition"),
  ("metadata", Json.object [("name", .str (Kind.environment.plural ++ "." ++ Kind.environment.group))]),
  ("spec", Json.object [
    ("group", .str Kind.environment.group),
    ("scope", .str "Namespaced"),
    ("names", Json.object [
      ("kind", .str Kind.environment.name),
      ("plural", .str Kind.environment.plural),
      ("singular", .str "developerenvironment"),
      ("shortNames", .arr [.str "devenv"]),
      ("categories", .arr [])]),
    ("versions", .arr [version])])]

def yaml : String := Yaml.render document

end EnvironmentOperator.Definition
