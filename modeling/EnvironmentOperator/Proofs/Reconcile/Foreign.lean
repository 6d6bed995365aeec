import EnvironmentOperator.Proofs.Program.Amid
import EnvironmentOperator.Proofs.Reconcile.Pass

namespace EnvironmentOperator

open Cluster

namespace Pass

variable {ε α : Type}

def Foreign (call : Call) : Prop := call.address.key.kind ≠ Kind.environment.name

theorem only_revise {d : Declaration} (hd : d.kind.name ≠ Kind.environment.name) (live : Object) :
    (d.revise live).Only Foreign := by
  unfold Declaration.revise
  cases d.revision live with
  | error e => trivial
  | ok revision =>
      cases revision with
      | none => trivial
      | some next => exact Program.only_bind (Program.only_request hd) fun _ => trivial

theorem only_ensure {d : Declaration} (hd : d.kind.name ≠ Kind.environment.name) : d.ensure.Only Foreign := by
  have hcreate : d.createOrRevise.Only Foreign := by
    refine ⟨hd, fun r => ?_⟩
    cases r with
    | ok o => trivial
    | error e =>
        show Program.Only Foreign (if e.isAlreadyExists = true then _ else .fail e)
        split
        · exact Program.only_bind (Program.only_request hd) fun live => only_revise hd live
        · trivial
  refine Program.only_bind ⟨hd, fun r => ?_⟩ fun _ => trivial
  cases r with
  | ok live => exact only_revise hd live
  | error e =>
      show Program.Only Foreign (if e.isNotFound = true then d.createOrRevise else .fail e)
      split
      · exact hcreate
      · trivial

theorem only_provisionAll (s : Scope) (spec : EnvironmentSpec) (stages : List Stage) :
    (Stage.provisionAll s spec stages).Only Foreign := by
  have hensureAll (ds : List Declaration) (hds : ∀ d ∈ ds, d ∈ Stage.declared s spec) :
      (Stage.ensureAll ds).Only Foreign := by
    induction ds with
    | nil => trivial
    | cons d ds ih =>
        have hd := Stage.kind_of_mem_declared (hds d (List.mem_cons_self ..))
        exact Program.only_bind (Program.only_mapError (only_ensure hd) _)
          fun _ => ih fun d hd => hds d (List.mem_cons_of_mem _ hd)
  induction stages with
  | nil => trivial
  | cons stage stages ih =>
      exact Program.only_bind (Program.only_mapError (hensureAll _ fun _ hd => Stage.mem_declared stage hd) _)
        fun _ => ih

theorem only_teardown (s : Scope) : (Teardown.teardown s).Only Foreign := by
  have hdeleteAll (as : List Address) (has : ∀ a ∈ as, a ∈ Teardown.managedObjects s) :
      (Teardown.deleteAll as).Only Foreign := by
    induction as with
    | nil => trivial
    | cons a as ih =>
        have hrest := ih fun a ha => has a (List.mem_cons_of_mem _ ha)
        refine ⟨Teardown.kind_of_mem_managedObjects (has a (List.mem_cons_self ..)), fun r => ?_⟩
        cases r with
        | ok _ => exact hrest
        | error e =>
            show Program.Only Foreign (if e.isNotFound = true then Teardown.deleteAll as else .fail _)
            split
            · exact hrest
            · trivial
  exact hdeleteAll _ fun _ ha => ha

theorem foreign_along {p : Program ε α} (hp : p.Only Foreign) (now : Instant) (s : Scope) (c : Cluster) :
    p.Along (answerer now) (fun _ _ => True) (fun _ c' => c'.find? (keyOf s) = c.find? (keyOf s)) c := by
  have hkept := (hp.along (w := answerer now) c).kept (I := fun c' => c'.find? (keyOf s) = c.find? (keyOf s))
    (fun call c' hsame hforeign => (find?_environment_of_kind_ne now c' hforeign).trans hsame)
    (fun _ _ hsame => hsame) rfl
  exact hkept.mono (fun _ _ _ => trivial) fun _ _ h => h.2

end Pass

end EnvironmentOperator
