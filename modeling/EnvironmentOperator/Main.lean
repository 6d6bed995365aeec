import EnvironmentOperator.CommandLine

open EnvironmentOperator

namespace EnvironmentOperator.CommandLine

def variableNames : List String := "RUST_LOG" :: Settings.variableNames

def environmentPairs : List String → IO (List (String × String))
  | [] => return []
  | name :: rest => do
      let value ← IO.getEnv name
      let pairs ← environmentPairs rest
      return (value.toList.map (fun v => (name, v))) ++ pairs

def report (o : Outcome) : IO Unit := do
  match o with
  | .printed text => IO.print text
  | .refused e => IO.eprint e.message
  | .clusterless log =>
      for line in Log.startLines log do IO.println line
      IO.eprintln Outcome.clusterlessMessage

end EnvironmentOperator.CommandLine

def main (args : List String) : IO UInt32 := do
  let pairs ← CommandLine.environmentPairs CommandLine.variableNames
  let o := CommandLine.outcome (fun name => pairs.lookup name) args
  CommandLine.report o
  return UInt32.ofNat o.code
