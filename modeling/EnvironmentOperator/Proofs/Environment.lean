import EnvironmentOperator.Proofs.Manifest.Faithful
import EnvironmentOperator.Reconcile.Finalizer

namespace EnvironmentOperator.Environment

theorem ofObject_eq_ok {o : Object} {env : Environment} :
    Manifest.ofObject o = .ok env ↔ env.metadata = o.metadata.exchanged ∧
      Fields.readGiven (o.data.member? "spec") = .ok (some env.spec) ∧
      Fields.readOptional (o.data.member? "status") = .ok env.status := by
  rw [Manifest.ofObject_eq_ok]
  simp only [Manifest.ofMembers, bind_eq_ok, Fields.given_eq, Fields.optional_eq]
  constructor
  · rintro ⟨members, hmembers, spec, hspec, status, hstatus, spec', hrequire, h⟩
    rw [Object.at?_of_members hmembers] at hspec hstatus
    cases spec with
    | none => cases hrequire
    | some spec =>
        cases hrequire
        cases h
        exact ⟨rfl, hspec, hstatus⟩
  · rintro ⟨hmetadata, hspec, hstatus⟩
    obtain ⟨members, hmembers⟩ : ∃ members, o.members = .ok members := by
      cases hmember : o.data.member? "spec" with
      | none =>
          rw [hmember] at hspec
          cases hspec
      | some j => exact Object.members_of_member? hmember
    refine ⟨members, hmembers, ?_⟩
    rw [Object.at?_of_members hmembers, Object.at?_of_members hmembers]
    refine ⟨_, hspec, _, hstatus, _, rfl, ?_⟩
    rw [← hmetadata]
    rfl

end EnvironmentOperator.Environment
