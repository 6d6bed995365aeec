namespace EnvironmentOperator.CommandLine

def program : String := "devenv-operator"

def version : String := "0.1.0"

inductive Flag where
  | metricsPort
  | «namespace»
  | help
  | version
deriving DecidableEq

namespace Flag

def all : List Flag := [.metricsPort, .namespace, .help, .version]

def name : Flag → String
  | .metricsPort => "metrics-port"
  | .namespace => "namespace"
  | .help => "help"
  | .version => "version"

def placeholder? : Flag → Option String
  | .metricsPort => some "METRICS_PORT"
  | .namespace => some "NAMESPACE"
  | _ => none

def takesValue (f : Flag) : Bool := f.placeholder?.isSome

def short? : Flag → Option Char
  | .help => some 'h'
  | .version => some 'V'
  | _ => none

def long (f : Flag) : String := "--" ++ f.name

def shown (f : Flag) : String :=
  match f.placeholder? with
  | some p => f.long ++ " <" ++ p ++ ">"
  | none => f.long

def about : Flag → String
  | .metricsPort => "HTTP port for /metrics, /healthz and /readyz (overrides METRICS_PORT)"
  | .namespace => "Only watch this namespace (overrides WATCH_NAMESPACE)"
  | .help => "Print help"
  | .version => "Print version"

def listed (f : Flag) : String :=
  match f.short? with
  | some c => "-" ++ String.ofList [c] ++ ", " ++ f.shown
  | none => "    " ++ f.shown

end Flag

inductive Command where
  | run
  | definition
  | help
deriving DecidableEq

namespace Command

def all : List Command := [.run, .definition, .help]

def name : Command → String
  | .run => "run"
  | .definition => "crd"
  | .help => "help"

def about : Command → String
  | .run => "Run the controller (default)"
  | .definition => "Print the DeveloperEnvironment CRD as YAML"
  | .help => "Print this message or the help of the given subcommand(s)"

def ofName? (s : String) : Option Command := all.find? (fun c => c.name = s)

end Command

/-- Where on the command line one is: before any command, or after one. -/
abbrev Place := Option Command

namespace Place

def flags : Place → List Flag
  | none => Flag.all
  | some .help => []
  | some _ => [.metricsPort, .namespace, .help]

def commands : Place → List Command
  | none => Command.all
  | some _ => []

def about : Place → String
  | none =>
      "Kubernetes operator that provisions self-service developer environments (namespace, TLS, " ++
        "VS Code server, database) from a DeveloperEnvironment resource"
  | some c => c.about

def title : Place → String
  | none => program
  | some c => program ++ " " ++ c.name

def arguments : Place → String
  | none => "[OPTIONS] [COMMAND]"
  | some .help => "[COMMAND]..."
  | some _ => "[OPTIONS]"

def flag? (p : Place) (name : String) : Option Flag := (Place.flags p).find? (fun f => f.name = name)

def shortFlag? (p : Place) (c : Char) : Option Flag := (Place.flags p).find? (fun f => f.short? = some c)

def command? (p : Place) (name : String) : Option Command := (Place.commands p).find? (fun c => c.name = name)

def usage (p : Place) (used : List Flag) : String :=
  let parts := if used.isEmpty then [Place.arguments p] else used.map Flag.shown
  "Usage: " ++ " ".intercalate (Place.title p :: parts)

end Place

def padded (width : Nat) (s : String) : String := s ++ String.ofList (List.replicate (width - s.length) ' ')

def table (heading : String) (rows : List (String × String)) : List String :=
  let width := (rows.map (fun r => r.1.length)).foldl max 0
  if rows.isEmpty then []
  else ["", heading ++ ":"] ++ rows.map (fun r => "  " ++ padded width r.1 ++ "  " ++ r.2)

def argumentRows : Place → List (String × String)
  | some .help => [("[COMMAND]...", "Print help for the subcommand(s)")]
  | _ => []

def helpPage (p : Place) : String :=
  let lines := [Place.about p, "", Place.usage p []] ++
    table "Commands" ((Place.commands p).map (fun c => (c.name, c.about))) ++
    table "Arguments" (argumentRows p) ++
    table "Options" ((Place.flags p).map (fun f => (f.listed, f.about)))
  "\n".intercalate lines ++ "\n"

def versionPage : String := program ++ " " ++ version ++ "\n"

end EnvironmentOperator.CommandLine
