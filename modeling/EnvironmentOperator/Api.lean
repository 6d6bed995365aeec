import EnvironmentOperator.Api.Body
import EnvironmentOperator.Http.Status
import EnvironmentOperator.Program

namespace EnvironmentOperator.Api

inductive Method where
  | get
  | post
  | put
  | delete
  | patch
deriving DecidableEq

def Method.name : Method → String
  | .get => "GET"
  | .post => "POST"
  | .put => "PUT"
  | .delete => "DELETE"
  | .patch => "PATCH"

structure Request where
  method : Method
  target : String
  contentType : Option String
  body : Option Json
deriving DecidableEq

structure Response where
  code : Nat
  body : String
deriving DecidableEq

def root (r : Resource) : String := if r.group = "" then "/api/" else "/apis/"

def collection (r : Resource) (ns : Option String) : String :=
  let place := match ns with
    | some ns => "namespaces/" ++ ns ++ "/"
    | none => ""
  root r ++ r.apiVersion ++ "/" ++ place ++ r.plural

def item (r : Resource) (ns : Option String) (name : String) : String := collection r ns ++ "/" ++ name

def spokenName (o : Object) : String := o.metadata.name.getD "unknown"

def statusPatch (status : Json) : Json := .obj [("status", status)]

def plain : String := "application/json"

def mergePatch : String := "application/merge-patch+json"

def build (method : Method) (target : String) (contentType : Option String) (body : Option Json) :
    Except ClientError Request :=
  match Http.Target.ofText target with
  | .ok t => .ok ⟨method, t.toText, contentType, body⟩
  | .error e => .error (.malformedTarget e)

def named (name : String) (request : Except ClientError Request) : Except ClientError Request :=
  if name = "" then .error .emptyName else request

def written (o : Object) : Except ClientError Json := o.toJson.mapError .unwritableBody

def request : Call → Except ClientError Request
  | .get a => named a.name (build .get (item a.resource a.namespace a.name) none none)
  | .create resource o => do
      let body ← written o
      build .post (collection resource o.metadata.namespace ++ "?") (some plain) (some body)
  | .replace resource o => do
      let body ← written o
      named (spokenName o)
        (build .put (item resource o.metadata.namespace (spokenName o) ++ "?") (some plain) (some body))
  | .delete a => named a.name (build .delete (item a.resource a.namespace a.name ++ "?") (some plain) (some (.obj [])))
  | .patchStatus a status =>
      named a.name (build .patch (item a.resource a.namespace a.name ++ "/status?") (some mergePatch)
        (some (statusPatch status)))

def failureOf (r : Response) : ErrorResponse :=
  match (read r.body : Option ErrorResponse) with
  | some e => e
  | none => ⟨Http.statusText r.code, Text.quoted r.body, "Failed to parse error data", UInt16.ofNat r.code⟩

def objectIn (body : String) : Except ClientError Object :=
  match (read body : Option Object) with
  | some o => .ok o
  | none => .error .unreadableBody

def success (r : Response) : (c : Call) → Except ClientError c.Answer
  | .get _ => objectIn r.body
  | .create _ _ => objectIn r.body
  | .replace _ _ => objectIn r.body
  | .delete _ => if isDeletionAnswer r.body then .ok () else .error .unreadableBody
  | .patchStatus _ _ => (objectIn r.body).map (fun _ => ())

def reportedName : Call → String
  | .create _ o => spokenName o
  | .replace _ o => spokenName o
  | c => c.address.name

def failed {α : Type} (c : Call) (e : ClientError) : Except StoreError α :=
  .error (.ofClient c.address.resource.kind (reportedName c) e)

def interpret (c : Call) (r : Response) : Except StoreError c.Answer :=
  if Http.isFailure r.code then failed c (.response (failureOf r))
  else
    match success r c with
    | .ok a => .ok a
    | .error e => failed c e

def call (respond : Request → Response) (c : Call) : Except StoreError c.Answer :=
  match request c with
  | .error e => failed c e
  | .ok req => interpret c (respond req)

theorem patchStatus_body {a : Address} {status : Json} {req : Request}
    (h : request (.patchStatus a status) = .ok req) : req.body = some (statusPatch status) := by
  simp only [request, named, build] at h
  split at h
  · cases h
  · split at h
    · cases h; rfl
    · cases h

end EnvironmentOperator.Api
