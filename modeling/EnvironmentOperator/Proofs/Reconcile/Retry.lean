import EnvironmentOperator.Proofs.Reconcile.Foreign
import EnvironmentOperator.Proofs.Reconcile.Frame
import EnvironmentOperator.Proofs.Reconcile.Freshness
import EnvironmentOperator.Reconcile

namespace EnvironmentOperator

open Cluster Environment

namespace Pass

section Failure

variable {c c' : Cluster} {now : Instant} {s : Scope} {o : Object} {env : Environment} {k : Key}

inductive Left (k : Key) (c c' : Cluster) : Prop where
  | untouched : c'.find? k = c.find? k → Left k c c'
  | marked {c₀ : Cluster} {o : Object} {env : Environment} : Stored c k o env → env.hasFinalizer = false →
      env.metadata.deletionTimestamp = none → c'.find? k = some (Environment.marked c₀ o env) → Left k c c'

def LeavesOnError (I : Cluster → Prop) (r : Except PassError PassOutcome) (c' : Cluster) : Prop :=
  ∀ e, r = .error e → I c'

theorem leavesOnError_ok {I : Cluster → Prop} {outcome : PassOutcome} : LeavesOnError I (.ok outcome) c := by
  intro e he
  cases he

theorem converge_leaves (now : Instant) (s : Scope) (env : Environment) (c : Cluster) :
    (converge env s now).Along (answerer now) (fun _ _ => True)
      (LeavesOnError fun c' => c'.find? (keyOf s) = c.find? (keyOf s)) c := by
  have hprovision := foreign_along (only_provisionAll s env.spec Stage.all) now s c
  refine Program.along_bind.2 (hprovision.mono (fun _ _ h => h) ?_)
  intro r c₁ hsame
  cases r with
  | error e => exact fun _ _ => hsame
  | ok _ =>
      refine Program.along_bind.2 (Program.along_mapError.2 ?_)
      refine Status.along_markReady.2 ⟨trivial, ?_⟩
      cases hanswer : ((answerer now).answer (.patchStatus (Environment.address (some s.namespace) s.name)
          (Status.readyPatch env s now)) c₁).1 with
      | ok _ => exact leavesOnError_ok
      | error e => exact fun _ _ => ((spent_of_error hanswer).find? (keyOf s)).trans hsame

theorem release_leaves (now : Instant) (s : Scope) (env : Environment) (c : Cluster) :
    (release env s).Along (answerer now) (fun _ _ => True)
      (LeavesOnError fun c' => c'.find? (keyOf s) = c.find? (keyOf s)) c := by
  have hteardown := foreign_along (only_teardown s) now s c
  refine Program.along_bind.2 (Program.along_mapError.2 (hteardown.mono (fun _ _ h => h) ?_))
  intro r c₁ hsame
  cases r with
  | error e => exact fun _ _ => hsame
  | ok _ =>
      refine Program.along_bind.2 (Program.along_mapError.2 (Program.along_request_bind.2 ⟨trivial, ?_⟩))
      cases hanswer : ((answerer now).answer (.replace Kind.environment.resource
          (Manifest.toObject env.withoutFinalizer)) c₁).1 with
      | ok _ =>
          intro e he
          cases he
      | error e => exact fun _ _ => ((spent_of_error hanswer).find? (keyOf s)).trans hsame

theorem work_leaves {suffix : String} (now : Instant) (hk : c.Kept) (hstored : Stored c (keyOf s) o env)
    (hscope : Scope.ofEnvironment env suffix = .ok s) :
    (work env s now).Along (answerer now) (fun _ _ => True) (LeavesOnError (Left (keyOf s) c)) c := by
  have huntouched (r : Except PassError PassOutcome) (c' : Cluster)
      (h : LeavesOnError (fun c' => c'.find? (keyOf s) = c.find? (keyOf s)) r c') :
      LeavesOnError (Left (keyOf s) c) r c' := fun e he => .untouched (h e he)
  unfold work lifecycle
  cases hmark : env.metadata.deletionTimestamp with
  | some t =>
      cases hfinalizer : env.hasFinalizer with
      | false => exact leavesOnError_ok
      | true => exact (release_leaves now s env c).mono (fun _ _ h => h) huntouched
  | none =>
      cases hfinalizer : env.hasFinalizer with
      | true => exact (converge_leaves now s env c).mono (fun _ _ h => h) huntouched
      | false =>
          refine Program.along_bind.2 (Program.along_mapError.2 ?_)
          refine (addFinalizer_along now hk hstored (scope_namespace hscope).1 hfinalizer).mono
            (fun _ _ _ => trivial) ?_
          intro r c₁ h
          cases r with
          | error e => exact fun _ _ => .untouched (h.1.find? (keyOf s))
          | ok env₁ =>
              obtain ⟨c₀, -, rfl, -⟩ := h
              refine (converge_leaves now s env₁ _).mono (fun _ _ h => h) ?_
              intro r c' hsame e he
              exact .marked hstored hfinalizer hmark
                ((hsame e he).trans ((find?_commit_put ..).trans (if_pos rfl)))

theorem run_leaves (settings : Settings) (now : Instant) (ns name : String) (hk : c.Kept) :
    (run settings now ns name).Along (answerer now) (fun _ _ => True)
      (LeavesOnError (Left (Environment.address (some ns) name).key c)) c := by
  refine run_of_work trivial ?_ (fun _ _ _ => leavesOnError_ok)
    (fun _ _ _ hspent _ _ => .untouched (hspent.find? _))
  intro o env s hstored hscope
  have hkey := keyOf_of_stored hk hstored hscope
  rw [hkey] at hstored
  exact hkey ▸ work_leaves now hk hstored hscope

end Failure

end Pass

namespace Reconcile

section Retry

variable {settings : Settings} {c c' : Cluster} {t : Instant} {env env' : Environment} {o o' : Object}
  {ns : Option String} {name : String} {e : PassError}

theorem calls_reconcile {σ : Type} (w : Answerer σ) (s : σ) : (reconcile settings t env).calls w s = [] ↔
    (env.statusEchoDelay settings.successInterval t).isSome = true := by
  unfold reconcile
  cases env.statusEchoDelay settings.successInterval t with
  | some left => simp [Program.calls, Program.count, Program.bind]
  | none =>
      simp only [Option.isSome_none, Bool.false_eq_true, iff_false]
      exact List.cons_ne_nil _ _

theorem pass_of_error (h : ((reconcile settings t env).run (answerer t) c).1 = .error e) :
    (env.statusEchoDelay settings.successInterval t).isSome = false ∧
      ((Pass.run settings t (env.metadata.namespace.getD "") env.metadata.anyName).run (answerer t) c).1 = .error e ∧
      ((reconcile settings t env).run (answerer t) c).2 =
        ((Pass.run settings t (env.metadata.namespace.getD "") env.metadata.anyName).run (answerer t) c).2 := by
  unfold reconcile at h ⊢
  cases hecho : env.statusEchoDelay settings.successInterval t with
  | some left =>
      rw [hecho] at h
      cases h
  | none =>
      rw [hecho] at h
      simp only [pass, Program.bind_eq, Program.run_bind, Program.run_result, Program.count, Program.run,
        answerer] at h ⊢
      generalize (Pass.run settings t (env.metadata.namespace.getD "") env.metadata.anyName).run _ c = left at h ⊢
      obtain ⟨result, c'⟩ := left
      cases result with
      | error e' =>
          cases h
          exact ⟨rfl, rfl, rfl⟩
      | ok outcome => cases outcome <;> cases h

theorem reconcile_leaves (ns : Option String) (name : String) (h : Reachable c)
    (hfailed : ((reconcile settings t env).run (answerer t) c).1 = .error e) :
    Pass.Left (Environment.address ns name).key c ((reconcile settings t env).run (answerer t) c).2 := by
  obtain ⟨-, herror, hsame⟩ := pass_of_error hfailed
  rw [hsame]
  by_cases hkey : (Environment.address ns name).key =
      (Environment.address (some (env.metadata.namespace.getD "")) env.metadata.anyName).key
  · rw [hkey]
    exact (Pass.run_leaves settings t _ _ h.kept).run e herror
  · refine .untouched ((Pass.run_frame settings t _ _ h).others _ hkey ?_)
    rintro ⟨a, ha, hmanaged⟩
    exact Teardown.kind_of_mem_managedObjects ha (congrArg Key.kind hmanaged)

/-- An environment that nobody has written since a pass for it failed has another pass at the next look. The one
exception is an environment that the failed pass itself has marked, when its status already speaks of its spec and is
younger than the interval. -/
theorem retried_iff (settings : Settings) (h : Reachable c) (ht : t.inLeapSecond = false)
    (hstored : Stored c (Environment.address ns name).key o env)
    (hfailed : ((reconcile settings t env).run (answerer t) c).1 = .error e)
    (hleft : c'.find? (Environment.address ns name).key =
      ((reconcile settings t env).run (answerer t) c).2.find? (Environment.address ns name).key)
    (hstored' : Stored c' (Environment.address ns name).key o' env') :
    (reconcile settings (t.plusSeconds settings.errorSeconds) env').calls
        (answerer (t.plusSeconds settings.errorSeconds)) c' ≠ [] ↔
      ¬(env.hasFinalizer = false ∧ env'.hasFinalizer = true ∧
        env'.Fresh settings.successInterval (t.plusSeconds settings.errorSeconds)) := by
  obtain ⟨hpassed, -, -⟩ := pass_of_error hfailed
  rw [Ne, calls_reconcile, statusEchoDelay_isSome, not_iff_not]
  cases reconcile_leaves ns name h hfailed with
  | untouched hsame =>
      have henv : env' = env := (hstored.unique ⟨(hleft.trans hsame) ▸ hstored'.1, hstored'.2⟩).2
      subst henv
      constructor
      · rintro ⟨hlive, hmarked, hfresh⟩
        have hecho := statusEchoDelay_isSome.2 ⟨hlive, hmarked, hfresh.before ht⟩
        rw [hpassed] at hecho
        cases hecho
      · rintro ⟨hunmarked, hmarked, -⟩
        rw [hunmarked] at hmarked
        cases hmarked
  | @marked c₀ o₀ env₀ hstored₀ hunmarked hlive hmarked =>
      obtain ⟨rfl, rfl⟩ := hstored₀.unique hstored
      have hfind : o' = Environment.marked c₀ o env :=
        Option.some.inj (hstored'.1.symm.trans (hleft.trans hmarked))
      have henv := ofObject_rewritten c₀ env.marking hstored.2
      rw [← Environment.marked, ← hfind, hstored'.2] at henv
      have hlive' : env'.metadata.deletionTimestamp.isSome = false := by
        rw [hstored'.metadata, hfind]
        rw [hstored.metadata] at hlive
        simpa [Environment.marked, rewritten, revised, carried, Metadata.exchanged] using hlive
      constructor
      · rintro ⟨-, hmarked', hfresh⟩
        exact ⟨hunmarked, hmarked', hfresh⟩
      · rintro ⟨-, hmarked', hfresh⟩
        exact ⟨hlive', hmarked', hfresh⟩

end Retry

section Hindered

def alice : Address := Environment.address (some "team") "alice"

def aliceIn (c : Cluster) : Environment :=
  (c.read? Environment alice).getD (Pass.submittedEnvironment (some "alice") [])

theorem stored_alice {c : Cluster} (h : (c.read? Environment alice).isSome = true) :
    ∃ o, Stored c alice.key o (aliceIn c) := by
  obtain ⟨env, henv⟩ := Option.isSome_iff_exists.1 h
  obtain ⟨o, env', hstored, rfl⟩ := Stored.of_read? (f := id) ((congrArg (Option.map id) henv).trans rfl)
  rw [aliceIn, henv]
  exact ⟨o, hstored⟩

def hindrance : Fault := ⟨.get, "Namespace", "devenv-alice", .refuse⟩

def hindered : Cluster := (Pass.submitted (some "alice") []).plant hindrance

def bared : Cluster :=
  let provisioned := ((Pass.run {} Pass.midnight "team" "alice").run (answerer Pass.midnight)
    (Pass.submitted (some "alice") [])).2
  let ready := (provisioned.find? alice.key).getD (Pass.submission (some "alice") [])
  let bare := { ready with metadata := { ready.metadata with finalizers := some [] } }
  (provisioned.answer Pass.midnight (.replace Kind.environment.resource bare)).2.plant hindrance

theorem reachable_bared : Reachable bared := .plant _ (.answer _ _ (Pass.reachable_submitted.run _ _))

def afterFailure (c : Cluster) : Cluster :=
  ((reconcile {} Pass.midnight (aliceIn c)).run (answerer Pass.midnight) c).2

def hindranceError : PassError := .provisioning .namespace (.during "failed to ensure Namespace devenv-alice"
  (.rejected "get" "Namespace" "devenv-alice" "injected fault"))

def nextLook : Instant := Pass.midnight.plusSeconds 60

theorem retried_iff_hindered : (reconcile {} nextLook (aliceIn (afterFailure hindered))).calls (answerer nextLook)
    (afterFailure hindered) ≠ [] := by
  obtain ⟨o, hstored⟩ := stored_alice (c := hindered) (by with_unfolding_all rfl)
  obtain ⟨o', hstored'⟩ := stored_alice (c := afterFailure hindered) (by with_unfolding_all rfl)
  have hfailed : ((reconcile {} Pass.midnight (aliceIn hindered)).run (answerer Pass.midnight) hindered).1 =
      .error hindranceError := by
    with_unfolding_all rfl
  have hstatus : (aliceIn (afterFailure hindered)).status = none := by
    with_unfolding_all rfl
  refine (retried_iff {} (.plant _ Pass.reachable_submitted) rfl hstored hfailed rfl hstored').2 ?_
  rintro ⟨-, -, status, updated, hready, -⟩
  rw [hstatus] at hready
  cases hready

theorem echo_after_failure : ¬∀ (settings : Settings) (c c' : Cluster) (t : Instant) (ns : Option String)
    (name : String) (o o' : Object) (env env' : Environment) (e : PassError), Reachable c →
      Stored c (Environment.address ns name).key o env →
      ((reconcile settings t env).run (answerer t) c).1 = .error e →
      c'.find? (Environment.address ns name).key =
        ((reconcile settings t env).run (answerer t) c).2.find? (Environment.address ns name).key →
      Stored c' (Environment.address ns name).key o' env' →
      (reconcile settings (t.plusSeconds settings.errorSeconds) env').calls
        (answerer (t.plusSeconds settings.errorSeconds)) c' ≠ [] := by
  intro h
  obtain ⟨o, hstored⟩ := stored_alice (c := bared) (by with_unfolding_all rfl)
  obtain ⟨o', hstored'⟩ := stored_alice (c := afterFailure bared) (by with_unfolding_all rfl)
  have hfailed : ((reconcile {} Pass.midnight (aliceIn bared)).run (answerer Pass.midnight) bared).1 =
      .error hindranceError := by
    with_unfolding_all rfl
  have hlive : (aliceIn (afterFailure bared)).metadata.deletionTimestamp.isSome = false := by
    with_unfolding_all rfl
  have hmarked : (aliceIn (afterFailure bared)).hasFinalizer = true := by
    with_unfolding_all rfl
  have hready : (aliceIn (afterFailure bared)).status = some (.mk "Ready" []
      (some "https://alice.developerenv.adityajoshi.online") (some "1970-01-01T00:00:00Z") (some 2)) := by
    with_unfolding_all rfl
  have hcurrent : (aliceIn (afterFailure bared)).metadata.generation = some 2 := by
    decide +kernel
  refine h {} bared (afterFailure bared) Pass.midnight (some "team") "alice" o o' _ _ hindranceError reachable_bared
    hstored hfailed rfl hstored' ?_
  refine calls_reconcile _ _ |>.2 (statusEchoDelay_isSome.2 ⟨hlive, hmarked, _, Pass.midnight, hready, ?_, ?_, ?_⟩)
  · rw [statusIsCurrent, hcurrent]
    rfl
  · with_unfolding_all rfl
  · decide

end Hindered

end Reconcile

end EnvironmentOperator
