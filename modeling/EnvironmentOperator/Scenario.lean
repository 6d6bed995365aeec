import EnvironmentOperator.Cluster

namespace EnvironmentOperator

/-- Something done to the cluster just before the next call of this verb, kind and name. -/
structure Intrusion (ρ : Type) where
  verb : Verb
  kind : String
  name : String
  act : Cluster → ρ × Cluster

inductive Event (ρ : Type) where
  | called (verb : Verb) (address : Address) (error : Option StoreError)
  | intruded (report : ρ)

structure Scenario (ρ : Type) where
  cluster : Cluster := {}
  now : Instant
  counters : Counters := []
  intrusions : List (Intrusion ρ) := []
  events : List (Event ρ) := []

namespace Scenario

variable {ρ ε α : Type}

def awaits (call : Call) (i : Intrusion ρ) : Bool :=
  decide (i.verb = call.verb) && decide (i.kind = call.address.resource.kind) && decide (i.name = call.address.name)

def intrude (call : Call) (s : Scenario ρ) : Scenario ρ :=
  match s.intrusions.find? (awaits call) with
  | none => s
  | some i =>
      let (report, cluster) := i.act s.cluster
      { s with
        cluster
        intrusions := s.intrusions.eraseP (awaits call)
        events := s.events ++ [.intruded report] }

def errorOf {β : Type} : Except StoreError β → Option StoreError
  | .ok _ => none
  | .error e => some e

def answer (call : Call) (s : Scenario ρ) : Except StoreError call.Answer × Scenario ρ :=
  let s := s.intrude call
  let (r, cluster) := s.cluster.answer s.now call
  (r, { s with cluster, events := s.events ++ [.called call.verb call.address (errorOf r)] })

def answerer : Answerer (Scenario ρ) where
  answer := answer
  note m s := { s with counters := s.counters.count m }

def run (s : Scenario ρ) (p : Program ε α) : Except ε α × Scenario ρ := p.run answerer s

end Scenario

end EnvironmentOperator
