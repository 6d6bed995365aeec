import EnvironmentOperator.Proofs.Reconcile.Pass

namespace EnvironmentOperator.Pass

open Cluster Environment Teardown

variable {settings : Settings} {now : Instant} {ns name : String} {c : Cluster}

theorem contains_iff_guarded (h : Reachable c)
    (hrun : ((run settings now ns name).run (answerer now) c).1 = .ok .finalized) :
    ∃ o env s, Stored c (Environment.address (some ns) name).key o env ∧
      Scope.ofEnvironment env settings.domainSuffix = .ok s ∧ ∀ a ∈ managedObjects s,
        (((run settings now ns name).run (answerer now) c).2.contains a = true ↔ Guarded c a.key) := by
  have houtcome := (run_along settings now ns name h.kept).run
  rw [hrun] at houtcome
  obtain ⟨-, o, env, s, hstored, hscope, c₁, htorn, hothers⟩ := houtcome
  refine ⟨o, env, s, hstored, hscope, ?_⟩
  intro a ha
  have hkind : a.key ≠ keyOf s := ne_keyOf (kind_of_mem_managedObjects ha) s
  rw [Cluster.contains, hothers a.key hkind]
  cases hfind : c₁.find? a.key with
  | none =>
      constructor
      · intro hnone
        cases hnone
      · intro hguarded
        exact absurd hguarded ((htorn.gone a ha).1 hfind)
  | some left =>
      constructor
      · intro _
        refine Classical.byContradiction ?_
        intro hnot
        cases hfind.symm.trans ((htorn.gone a ha).2 hnot)
      · intro _
        rfl

/-- A released environment leaves nothing behind exactly when none of its objects had finalizers. -/
theorem released_clean_iff_unguarded (h : Reachable c)
    (hrun : ((run settings now ns name).run (answerer now) c).1 = .ok .finalized) :
    ∃ o env s, Stored c (Environment.address (some ns) name).key o env ∧
      Scope.ofEnvironment env settings.domainSuffix = .ok s ∧
      ((∀ a ∈ managedObjects s, ((run settings now ns name).run (answerer now) c).2.contains a = false) ↔
        ∀ a ∈ managedObjects s, ∀ o, c.find? a.key = some o → o.metadata.hasFinalizers = false) := by
  obtain ⟨o, env, s, hstored, hscope, hcontains⟩ := contains_iff_guarded h hrun
  refine ⟨o, env, s, hstored, hscope, ?_, ?_⟩
  · intro hclean a ha left hleft
    cases hfinalizers : left.metadata.hasFinalizers with
    | false => rfl
    | true =>
        have hstill := (hcontains a ha).2 ⟨left, hleft, hfinalizers⟩
        rw [hclean a ha] at hstill
        cases hstill
  · intro hunguarded a ha
    cases hstill : ((run settings now ns name).run (answerer now) c).2.contains a with
    | false => rfl
    | true =>
        obtain ⟨left, hleft, hfinalizers⟩ := (hcontains a ha).1 hstill
        rw [hunguarded a ha left hleft] at hfinalizers
        cases hfinalizers

section BoundClaim

def boundClaim : Object :=
  bare { name := some "alice-db-pvc", «namespace» := some "team", finalizers := some ["kubernetes.io/pvc-protection"] }

def boundCluster : Cluster :=
  let bound := (answer midnight (submitted (some "alice") [finalizer]) (.create Kind.claim.resource boundClaim)).2
  (answer midnight bound (.delete (Environment.address (some "team") "alice"))).2

theorem reachable_boundCluster : Reachable boundCluster := .answer _ _ (.answer _ _ reachable_submitted)

theorem run_boundCluster :
    ((run {} midnight "team" "alice").run (answerer midnight) boundCluster).1 = .ok .finalized := by
  with_unfolding_all rfl

theorem released_clean_iff_unguarded_bound : ∃ o env s,
    Stored boundCluster (Environment.address (some "team") "alice").key o env ∧
      Scope.ofEnvironment env "developerenv.adityajoshi.online" = .ok s ∧
      ((∀ a ∈ managedObjects s,
          ((run {} midnight "team" "alice").run (answerer midnight) boundCluster).2.contains a = false) ↔
        ∀ a ∈ managedObjects s, ∀ o, boundCluster.find? a.key = some o → o.metadata.hasFinalizers = false) :=
  released_clean_iff_unguarded reachable_boundCluster run_boundCluster

theorem not_clean_when_released : ¬∀ (settings : Settings) (now : Instant) (ns name : String) (c : Cluster),
    Reachable c → ((run settings now ns name).run (answerer now) c).1 = .ok .finalized →
      ∀ o env s, Stored c (Environment.address (some ns) name).key o env →
        Scope.ofEnvironment env settings.domainSuffix = .ok s →
          ∀ a ∈ managedObjects s, ((run settings now ns name).run (answerer now) c).2.contains a = false := by
  intro h
  obtain ⟨o, env, s, hstored, hscope, -⟩ := contains_iff_guarded reachable_boundCluster run_boundCluster
  have hclean := h {} midnight "team" "alice" boundCluster reachable_boundCluster run_boundCluster o env s hstored
    hscope (.ofKind .claim (some s.namespace) (Names.databaseClaim s.name)) (by simp [managedObjects])
  obtain ⟨hns, hname⟩ := scope_of_stored reachable_boundCluster.kept hstored hscope
  rw [hns, hname] at hclean
  have hstill : ((run {} midnight "team" "alice").run (answerer midnight) boundCluster).2.contains
      (.ofKind .claim (some "team") (Names.databaseClaim "alice")) = true := by
    with_unfolding_all rfl
  rw [hclean] at hstill
  cases hstill

end BoundClaim

end EnvironmentOperator.Pass
