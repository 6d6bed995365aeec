import EnvironmentOperator.Decoding.FromSource
import EnvironmentOperator.Manifest.Object
import EnvironmentOperator.Store.Error

namespace EnvironmentOperator

open Json (Source)

instance : FromSource Instant := .viaJson Instant

instance : FromSource OwnerReference where
  ofSource? levels s := do
    let m ← Members.ofSource? levels s
    return {
      apiVersion := (← m.last? "apiVersion").getD ""
      blockOwnerDeletion := ← m.last? "blockOwnerDeletion"
      controller := ← m.last? "controller"
      kind := (← m.last? "kind").getD ""
      name := (← m.last? "name").getD ""
      uid := (← m.last? "uid").getD "" }

instance : FromSource ManagedFields where
  ofSource? levels s := do
    let m ← Members.ofSource? levels s
    return {
      apiVersion := ← m.last? "apiVersion"
      fieldsType := ← m.last? "fieldsType"
      fieldsV1 := ← m.last? "fieldsV1"
      manager := ← m.last? "manager"
      operation := ← m.last? "operation"
      subresource := ← m.last? "subresource"
      time := ← m.last? "time" }

instance : FromSource Metadata where
  ofSource? levels s := do
    let m ← Members.ofSource? levels s
    return {
      annotations := ← m.last? "annotations"
      creationTimestamp := ← m.last? "creationTimestamp"
      deletionGracePeriodSeconds := ← m.last? "deletionGracePeriodSeconds"
      deletionTimestamp := ← m.last? "deletionTimestamp"
      finalizers := ← m.last? "finalizers"
      generateName := ← m.last? "generateName"
      generation := ← m.last? "generation"
      labels := ← m.last? "labels"
      managedFields := ← m.last? "managedFields"
      name := ← m.last? "name"
      «namespace» := ← m.last? "namespace"
      ownerReferences := ← m.last? "ownerReferences"
      resourceVersion := ← m.last? "resourceVersion"
      selfLink := ← m.last? "selfLink"
      uid := ← m.last? "uid" }

instance : FromSource Object where
  ofSource? levels s := do
    let m ← Members.ofSource? levels s
    let metadata : Metadata ← match m.mentions "metadata" with
      | [] => some {}
      | [s] => ofSource? m.levels s
      | _ => none
    let others ← m.others? "metadata"
    return {
      types := (Object.splitTypes others.1).1
      metadata
      data := Json.object (Object.splitTypes others.1).2
      unreserved := .of_keys fun e he =>
        Object.splitTypes_kept others.2 e (Dict.mem_of_mem_ofList he) }

instance : FromSource ErrorResponse where
  ofSource? levels s := do
    let p ← Parts.ofSource? ["status", "message", "reason", "code"] levels s
    let status : Option String ← p.part? 0
    let message : Option String ← p.part? 1
    let reason : Option String ← p.part? 2
    let code : Option UInt16 ← p.part? 3
    return { status := ← status, message := message.getD "", reason := reason.getD "", code := ← code }

namespace Api

inductive Verdict where
  | success
  | failure
deriving DecidableEq

structure DeletionCause where
  reason : String
  message : String
  field : String
deriving DecidableEq

structure DeletionDetails where
  name : String
  group : String
  kind : String
  uid : String
  causes : List DeletionCause
  retryAfterSeconds : UInt32
deriving DecidableEq

structure DeletionReport where
  verdict : Option Verdict
  code : UInt16
  message : String
  reason : String
  details : Option DeletionDetails
deriving DecidableEq

namespace Verdict

def ofName? : String → Option Verdict
  | "Success" => some .success
  | "Failure" => some .failure
  | _ => none

instance : FromSource Verdict where
  ofSource?
    | _, .str name => name >>= ofName?
    | _, .obj [(name, .null)] => name >>= ofName?
    | _, _ => none

end Verdict

instance : FromSource UInt32 where
  ofSource? levels s := do
    let n ← (decodeInteger "u32" 0 4294967295 (← s.value? levels)).toOption
    return UInt32.ofNat n.toNat

instance : FromSource DeletionCause where
  ofSource? levels s := do
    let p ← Parts.ofSource? ["reason", "message", "field"] levels s
    return {
      reason := (← p.part? 0).getD ""
      message := (← p.part? 1).getD ""
      field := (← p.part? 2).getD "" }

instance : FromSource DeletionDetails where
  ofSource? levels s := do
    let p ← Parts.ofSource? ["name", "group", "kind", "uid", "causes", "retryAfterSeconds"] levels s
    return {
      name := (← p.part? 0).getD ""
      group := (← p.part? 1).getD ""
      kind := (← p.part? 2).getD ""
      uid := (← p.part? 3).getD ""
      causes := (← p.part? 4).getD []
      retryAfterSeconds := (← p.part? 5).getD 0 }

instance : FromSource DeletionReport where
  ofSource? levels s := do
    let p ← Parts.ofSource? ["status", "code", "message", "reason", "details"] levels s
    let verdict : Option (Option Verdict) ← p.part? 0
    let details : Option (Option DeletionDetails) ← p.part? 4
    return {
      verdict := verdict.join
      code := (← p.part? 1).getD 0
      message := (← p.part? 2).getD ""
      reason := (← p.part? 3).getD ""
      details := details.join }

def read {α : Type} [FromSource α] (body : String) : Option α :=
  Source.parse? body >>= ofSource? Source.greatestDepth

/-- A deletion is answered by a report, which says of itself that it is one, or by the object as it was. -/
def isDeletionAnswer (body : String) : Bool :=
  match Json.parse? body with
  | none => false
  | some j =>
      if j.member? "kind" = some (.str "Status") then (read body : Option DeletionReport).isSome
      else (read body : Option Object).isSome

end Api

end EnvironmentOperator
