import EnvironmentOperator.Program

namespace EnvironmentOperator

/-- A desired object, and what to write over a live one: nothing, when it may stay as it is. -/
structure Declaration where
  kind : Kind
  desired : Object
  revision : Object → Except StoreError (Option Object)

namespace Declaration

variable {α : Type} [Manifest α]

def createOnly (x : α) : Declaration where
  kind := Manifest.kind α
  desired := Manifest.toObject x
  revision _ := .ok none

def overwrite (overlay : α → α → α) (x : α) : Declaration where
  kind := Manifest.kind α
  desired := Manifest.toObject x
  revision live := do
    let current ← live.typed α
    let next := Manifest.toObject (overlay current x)
    return if next = Manifest.toObject current then none else some next

def address (d : Declaration) : Address :=
  .ofKind d.kind d.desired.metadata.namespace d.desired.metadata.nameText

def revise (d : Declaration) (live : Object) : Program StoreError EnsureOutcome :=
  match d.revision live with
  | .error e => .fail e
  | .ok none => .done .unchanged
  | .ok (some next) => do
      let _ ← Program.request (.replace d.kind.resource next)
      return .updated

/-- An object that appears between the look and the creation is revised like any other. -/
def createOrRevise (d : Declaration) : Program StoreError EnsureOutcome := do
  let created : Except StoreError Object ← Program.attempt (.create d.kind.resource d.desired)
  match created with
  | .ok _ => return .created
  | .error e =>
      if e.isAlreadyExists then do
        let live : Object ← Program.request (.get d.address)
        d.revise live
      else .fail e

def converge (d : Declaration) : Program StoreError EnsureOutcome := do
  let found : Except StoreError Object ← Program.attempt (.get d.address)
  match found with
  | .ok live => d.revise live
  | .error e => if e.isNotFound then d.createOrRevise else .fail e

def ensure (d : Declaration) : Program StoreError EnsureOutcome := do
  let outcome ← d.converge
  Program.count (.applied d.kind.name outcome)
  return outcome

end Declaration

end EnvironmentOperator
