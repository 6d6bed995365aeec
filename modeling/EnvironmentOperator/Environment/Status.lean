import EnvironmentOperator.Decoding.Record
import EnvironmentOperator.Manifest.Scalar

namespace EnvironmentOperator

structure Condition where
  type : String
  status : String
  reason : Option String
  message : Option String
deriving DecidableEq

namespace Condition

def ofFields (m : Fields) : Except DecodeError Condition := do
  let message : Option String ← Fields.optional m "message"
  let reason : Option String ← Fields.optional m "reason"
  let status : Option String ← Fields.given m "status"
  let type : Option String ← Fields.given m "type"
  let type ← require "type" type
  let status ← require "status" status
  return { type, status, reason, message }

def ofItems (items : List Json) : Except DecodeError Condition := do
  let type ← Positions.element "struct Condition with 4 elements" items 0
  let status ← Positions.element "struct Condition with 4 elements" items 1
  let reason ← Positions.elementIf items 2
  let message ← Positions.elementIf items 3
  Positions.exhausted items 4
  return { type, status, reason, message }

instance : JsonForm Condition where
  encode c := Json.record [
    ("message", some ((c.message.map encode).getD .null)),
    ("reason", some ((c.reason.map encode).getD .null)),
    ("status", some (encode c.status)),
    ("type", some (encode c.type))]
  decode := decodeRecord "Condition" ofFields ofItems

end Condition

structure EnvironmentStatus where
  phase : String := ""
  conditions : List Condition := []
  accessUrl : Option String := none
  lastUpdated : Option String := none
  observedGeneration : Option Int64 := none
deriving DecidableEq

namespace EnvironmentStatus

def ofFields (m : Fields) : Except DecodeError EnvironmentStatus := do
  let accessUrl : Option String ← Fields.optional m "accessURL"
  let conditions : Option (List Condition) ← Fields.given m "conditions"
  let lastUpdated : Option String ← Fields.optional m "lastUpdated"
  let observedGeneration : Option Int64 ← Fields.optional m "observedGeneration"
  let phase : Option String ← Fields.given m "phase"
  return {
    phase := phase.getD ""
    conditions := conditions.getD []
    accessUrl, lastUpdated, observedGeneration }

def ofItems (items : List Json) : Except DecodeError EnvironmentStatus := do
  let phase ← Positions.elementOr items 0 ""
  let conditions ← Positions.elementOr items 1 []
  let accessUrl ← Positions.elementIf items 2
  let lastUpdated ← Positions.elementIf items 3
  let observedGeneration ← Positions.elementIf items 4
  Positions.exhausted items 5
  return { phase, conditions, accessUrl, lastUpdated, observedGeneration }

instance : JsonForm EnvironmentStatus where
  encode s := Json.record [
    ("accessURL", s.accessUrl.map encode),
    ("conditions", if s.conditions = [] then none else some (encode s.conditions)),
    ("lastUpdated", s.lastUpdated.map encode),
    ("observedGeneration", s.observedGeneration.map encode),
    ("phase", some (encode s.phase))]
  decode := decodeRecord "DeveloperEnvironmentStatus" ofFields ofItems

def lastUpdatedAt? (s : EnvironmentStatus) : Option Instant := s.lastUpdated.bind Rfc3339.parse?

end EnvironmentStatus

end EnvironmentOperator
