import EnvironmentOperator.Http.Target
import EnvironmentOperator.Metrics.Family

namespace EnvironmentOperator.Probe

inductive Page where
  | alive
  | ready
  | metrics
deriving DecidableEq

def Page.ofPath? (path : String) : Option Page :=
  match path with
  | "/healthz" => some .alive
  | "/readyz" => some .ready
  | "/metrics" => some .metrics
  | _ => none

structure Response where
  code : Nat
  contentType : Option String := none
  announcements : List String := []
deriving DecidableEq

def view (ready : Bool) : Page → Response
  | .alive => { code := 200 }
  | .ready => { code := if ready then 200 else 503 }
  | .metrics => {
      code := 200
      contentType := some "text/plain; version=0.0.4; charset=utf-8"
      announcements := (Registry.unlabelled Registry.full).flatMap Family.announcement }

def respond (ready : Bool) (method target : String) : Response :=
  let path := (Http.Target.ofText target).toOption.map (fun t => String.ofList t.path)
  match path.bind Page.ofPath? with
  | none => { code := 404 }
  | some page =>
      if method = "GET" then view ready page
      else if method = "HEAD" then { view ready page with announcements := [] }
      else { code := 405 }

end EnvironmentOperator.Probe
