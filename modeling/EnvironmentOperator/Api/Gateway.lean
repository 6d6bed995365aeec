import EnvironmentOperator.Api.Route
import EnvironmentOperator.Cluster
/-!
A cluster behind its interface. Every call becomes a request, and what it does is decided by where the request's
path leads, which for unusual names need not be where the call was meant to go. An object that is sent is kept
under the name it bears itself.
-/
namespace EnvironmentOperator.Api.Gateway

def notFound : ErrorResponse := ⟨"Failure", "", "NotFound", 404⟩

def refusal : StoreError → ErrorResponse
  | .notFound kind name => { notFound with message := (StoreError.notFound kind name).message }
  | .alreadyExists kind name => ⟨"Failure", (StoreError.alreadyExists kind name).message, "AlreadyExists", 409⟩
  | .conflict _ _ message => ⟨"Failure", message, "Conflict", 409⟩
  | e => ⟨"Failure", e.message, "InternalError", 500⟩

def relay {α : Type} (c : Call) (r : Except StoreError α × Cluster) : Except StoreError α × Cluster :=
  match r with
  | (.ok a, cluster) => (.ok a, cluster)
  | (.error e, cluster) => (failed c (.response (refusal e)), cluster)

def lost {α : Type} (c : Call) (cluster : Cluster) : Except StoreError α × Cluster :=
  (failed c (.response notFound), cluster)

def perform (now : Instant) (cluster : Cluster) (route : Route) : (c : Call) → Except StoreError c.Answer × Cluster
  | .get a =>
      match route.part with
      | .item name => relay (.get a) (cluster.answer now (.get (route.address name)))
      | _ => lost (.get a) cluster
  | .create resource o =>
      match route.part with
      | .all => relay (.create resource o) (cluster.answer now (.create route.kind.resource o))
      | _ => lost (.create resource o) cluster
  | .replace resource o =>
      match route.part with
      | .item _ => relay (.replace resource o) (cluster.answer now (.replace route.kind.resource o))
      | _ => lost (.replace resource o) cluster
  | .delete a =>
      match route.part with
      | .item name => relay (.delete a) (cluster.answer now (.delete (route.address name)))
      | _ => lost (.delete a) cluster
  | .patchStatus a status =>
      match route.part with
      | .status name =>
          relay (.patchStatus a status) (cluster.answer now (.patchStatus (route.address name) status))
      | _ => lost (.patchStatus a status) cluster

def answer (now : Instant) (c : Call) (cluster : Cluster) : Except StoreError c.Answer × Cluster :=
  match request c with
  | .error e => (failed c e, cluster)
  | .ok req =>
      match Route.ofTarget? req.target with
      | some route => perform now cluster route c
      | none => lost c cluster

def answerer (now : Instant) : Answerer Cluster where
  answer := answer now
  note _ cluster := cluster

def canList (watched : Option String) : Bool :=
  let target := collection Kind.environment.resource watched ++ "?"
  decide (Route.ofTarget? target = some ⟨.environment, watched, .all⟩)

end EnvironmentOperator.Api.Gateway
