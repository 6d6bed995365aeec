import EnvironmentOperator.Decoding.Record
import EnvironmentOperator.Http.Target

namespace EnvironmentOperator

structure ErrorResponse where
  status : String
  message : String
  reason : String
  code : UInt16
deriving DecidableEq

namespace ErrorResponse

def wanted : String := "struct ErrorResponse with 4 elements"

def ofFields (m : Fields) : Except DecodeError ErrorResponse := do
  let code : Option UInt16 ← Fields.given m "code"
  let message : Option String ← Fields.given m "message"
  let reason : Option String ← Fields.given m "reason"
  let status : Option String ← Fields.given m "status"
  return {
    status := ← require "status" status
    message := message.getD ""
    reason := reason.getD ""
    code := ← require "code" code }

def ofItems (items : List Json) : Except DecodeError ErrorResponse := do
  let status ← Positions.element wanted items 0
  let message ← Positions.elementOr items 1 ""
  let reason ← Positions.elementOr items 2 ""
  let code ← Positions.element wanted items 3
  Positions.exhausted items 4
  return { status, message, reason, code }

instance : JsonForm ErrorResponse where
  encode r := Json.record [
    ("code", some (encode r.code)),
    ("message", some (encode r.message)),
    ("reason", some (encode r.reason)),
    ("status", some (encode r.status))]
  decode := decodeRecord "ErrorResponse" ofFields ofItems

def summary (r : ErrorResponse) : String := r.message ++ ": " ++ r.reason

def details (r : ErrorResponse) : String :=
  "ErrorResponse \x7b status: " ++ Text.quoted r.status ++ ", message: " ++ Text.quoted r.message ++
    ", reason: " ++ Text.quoted r.reason ++ ", code: " ++ Text.decimal r.code.toNat ++ " \x7d"

end ErrorResponse

inductive ClientError where
  | response (r : ErrorResponse)
  | emptyName
  | malformedTarget (cause : Http.Target.Error)
  | unwritableBody (cause : DecodeError)
  | unreadableBody
  | tlsRequired
deriving DecidableEq

namespace ClientError

def chain : ClientError → List String
  | .response r => ["ApiError: " ++ r.summary ++ " (" ++ r.details ++ ")", r.summary]
  | .emptyName => [
      "Failed to build request: failed to validate request: A non-empty name is required",
      "failed to validate request: A non-empty name is required",
      "A non-empty name is required"]
  | .malformedTarget cause => [
      "Failed to build request: failed to build request: " ++ cause.message,
      "failed to build request: " ++ cause.message,
      cause.message]
  | .unwritableBody cause => ["Error deserializing response: " ++ cause.message, cause.message]
  | .unreadableBody => [""]
  | .tlsRequired => ["TLS required but no TLS stack selected"]

def message (e : ClientError) : String := e.chain.headD ""

end ClientError

inductive StoreError where
  | notFound (kind name : String)
  | alreadyExists (kind name : String)
  | conflict (kind name message : String)
  | rejected (verb kind name message : String)
  | unreadable (kind : String) (cause : DecodeError)
  | client (cause : ClientError)
deriving DecidableEq

namespace StoreError

def message : StoreError → String
  | .notFound kind name => kind ++ " " ++ name ++ " not found"
  | .alreadyExists kind name => kind ++ " " ++ name ++ " already exists"
  | .conflict kind name message => "conflict writing " ++ kind ++ " " ++ name ++ ": " ++ message
  | .rejected verb kind name message =>
      "store rejected " ++ verb ++ " of " ++ kind ++ " " ++ name ++ ": " ++ message
  | .unreadable kind cause => "failed to convert " ++ kind ++ ": " ++ cause.message
  | .client cause => "Kubernetes API error: " ++ cause.message

def chain (e : StoreError) : List String :=
  e.message :: match e with
    | .unreadable _ cause => [cause.message]
    | .client cause => cause.chain
    | _ => []

def isNotFound : StoreError → Bool
  | .notFound _ _ => true
  | _ => false

def isAlreadyExists : StoreError → Bool
  | .alreadyExists _ _ => true
  | _ => false

def isConflict : StoreError → Bool
  | .conflict _ _ _ => true
  | _ => false

/-- A refusal is sorted by its code and, for a clash, by its reason. -/
def ofClient (kind name : String) : ClientError → StoreError
  | .response r =>
      if r.code = 404 then .notFound kind name
      else if r.code = 409 then
        if r.reason = "AlreadyExists" then .alreadyExists kind name else .conflict kind name r.message
      else .client (.response r)
  | e => .client e

end StoreError

end EnvironmentOperator
