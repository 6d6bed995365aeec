import EnvironmentOperator.Proofs.Reconcile.Foreign
import EnvironmentOperator.Proofs.Reconcile.Frame
import EnvironmentOperator.Proofs.Reconcile.Freshness
import EnvironmentOperator.Reconcile

namespace EnvironmentOperator

open Cluster Environment

namespace Pass

variable {c : Cluster} {s : Scope} {o : Object} {env : Environment} {k : Key} {now : Instant}

inductive Discharged (k : Key) (c : Cluster) : Prop where
  | missing : c.find? k = none → Discharged k c
  | released {o : Object} {env : Environment} : Stored c k o env → env.metadata.deletionTimestamp.isSome = true →
      env.hasFinalizer = false → Discharged k c

/-- A pass that has come to an end without having converged has nothing left to do. -/
def Discharges (k : Key) : Except PassError PassOutcome → Cluster → Prop
  | .error _, _ => True
  | .ok .converged, _ => True
  | .ok _, c => Discharged k c

theorem replace_withoutFinalizer (hk : c.Kept) (hstored : Stored c (keyOf s) o env) (hmarked : env.hasFinalizer = true) :
    c.replace Kind.environment.resource (Manifest.toObject env.withoutFinalizer) =
      (.ok (rewritten c o env env.unmarking),
        if isReleased (rewritten c o env env.unmarking) then c.commit (Dict.without c.objects (keyOf s))
        else c.commit (Dict.put c.objects (keyOf s) (rewritten c o env env.unmarking))) :=
  replace_withFinalizers hk hstored (unmarking_ne hstored hmarked)

theorem discharged_of_withoutFinalizer (hk : c.Kept) (hstored : Stored c (keyOf s) o env)
    (hterminating : env.metadata.deletionTimestamp.isSome = true) (hmarked : env.hasFinalizer = true) {o' : Object}
    (h : (c.answer now (.replace Kind.environment.resource (Manifest.toObject env.withoutFinalizer))).1 = .ok o') :
    Discharged (keyOf s)
      (c.answer now (.replace Kind.environment.resource (Manifest.toObject env.withoutFinalizer))).2 := by
  rw [answer_of_ok h, perform, replace_withoutFinalizer hk hstored hmarked]
  dsimp only
  split
  · exact .missing (find?_without_self ..)
  · refine .released ⟨find?_put_self .., ofObject_rewritten c env.unmarking hstored.2⟩ ?_
      (hasFinalizer_withoutFinalizer env)
    rw [hstored.metadata] at hterminating
    exact hterminating

theorem release_discharges (now : Instant) (hk : c.Kept) (hstored : Stored c (keyOf s) o env)
    (hterminating : env.metadata.deletionTimestamp.isSome = true) (hmarked : env.hasFinalizer = true) :
    (release env s).Along (answerer now) (fun _ _ => True) (Discharges (keyOf s)) c := by
  refine Program.along_bind.2 (Program.along_mapError.2 ?_)
  refine (Teardown.deleteAll_along now (Teardown.managedObjects s) hk).mono (fun _ _ _ => trivial) ?_
  intro r c₁ h
  cases r with
  | error e => trivial
  | ok _ =>
      have hothers := h.others (keyOf s) fun a ha => (ne_keyOf (Teardown.kind_of_mem_managedObjects ha) s).symm
      have hstored₁ : Stored c₁ (keyOf s) o env := ⟨hothers.trans hstored.1, hstored.2⟩
      refine Program.along_bind.2 (Program.along_mapError.2 (Program.along_request_bind.2 ⟨trivial, ?_⟩))
      cases hanswer : ((answerer now).answer (.replace Kind.environment.resource
          (Manifest.toObject env.withoutFinalizer)) c₁).1 with
      | ok o' => exact discharged_of_withoutFinalizer h.kept hstored₁ hterminating hmarked hanswer
      | error e => trivial

theorem converge_discharges (now : Instant) (s : Scope) (env : Environment) (c : Cluster) :
    (converge env s now).Along (answerer now) (fun _ _ => True) (Discharges k) c := by
  refine Program.along_bind.2 ((foreign_along (only_provisionAll s env.spec Stage.all) now s c).mono
    (fun _ _ h => h) ?_)
  intro r c₁ _
  cases r with
  | error e => trivial
  | ok _ =>
      refine Program.along_bind.2 (Program.along_mapError.2 (Status.along_markReady.2 ⟨trivial, ?_⟩))
      split <;> trivial

theorem work_discharges {suffix : String} (now : Instant) (hk : c.Kept) (hstored : Stored c (keyOf s) o env)
    (hscope : Scope.ofEnvironment env suffix = .ok s) :
    (work env s now).Along (answerer now) (fun _ _ => True) (Discharges (keyOf s)) c := by
  unfold work lifecycle
  cases hterminating : env.metadata.deletionTimestamp.isSome with
  | true =>
      cases hmarked : env.hasFinalizer with
      | true => exact release_discharges now hk hstored hterminating hmarked
      | false => exact .released hstored hterminating hmarked
  | false =>
      cases hmarked : env.hasFinalizer with
      | true => exact converge_discharges now s env c
      | false =>
          refine Program.along_bind.2 (Program.along_mapError.2 ?_)
          refine (addFinalizer_along now hk hstored (scope_namespace hscope).1 hmarked).mono
            (fun _ _ _ => trivial) ?_
          intro r c₁ _
          cases r with
          | error e => trivial
          | ok env₁ => exact converge_discharges now s env₁ c₁

theorem run_discharges (settings : Settings) (now : Instant) (ns name : String) (hk : c.Kept) :
    (run settings now ns name).Along (answerer now) (fun _ _ => True)
      (Discharges (Environment.address (some ns) name).key) c := by
  refine run_of_work trivial ?_ (fun _ hspent hmissing => .missing ((hspent.find? _).trans hmissing))
    (fun _ _ _ _ => trivial)
  intro o env s hstored hscope
  have hkey := keyOf_of_stored hk hstored hscope
  rw [hkey] at hstored
  exact hkey ▸ work_discharges now hk hstored hscope

end Pass

namespace Reconcile

open Pass

variable {settings : Settings} {now : Instant} {ns name : String} {env : Environment} {c c' : Cluster}

theorem run_respond_of_echo {left : Span} (h : env.statusEchoDelay settings.successInterval now = some left) :
    (respond settings now env).run (answerer now) c = (.ok (.ok (.requeueAfter left), .requeueAfter left), c) := by
  simp only [respond, reconcile, h]
  rfl

def reply (settings : Settings) : Except PassError PassOutcome → Except PassError Action × Action
  | .ok outcome => (.ok (outcome.action settings), outcome.action settings)
  | .error e => (.error e, errorAction settings)

theorem run_respond_of_pass (h : env.statusEchoDelay settings.successInterval now = none)
    (hns : env.metadata.namespace = some ns) (hname : env.metadata.name = some name) {r : Except PassError PassOutcome}
    (hrun : (Pass.run settings now ns name).run (answerer now) c = (r, c')) :
    (respond settings now env).run (answerer now) c = (.ok (reply settings r), c') := by
  have hanyName : env.metadata.anyName = name := by
    rw [Metadata.anyName, hname]
    rfl
  have hgiven : env.metadata.namespace.getD "" = ns := by
    rw [hns]
    rfl
  simp only [respond, reconcile, h, hanyName, hgiven, pass, Program.bind_eq, Program.run_bind, Program.run_result,
    Program.count, Program.run]
  have hnote (m : Measurement) (c : Cluster) : (answerer now).note m c = c := rfl
  rw [hnote, hrun]
  cases r with
  | error e => rfl
  | ok outcome => cases outcome <;> rfl

inductive Scheduled (settings : Settings) (now : Instant) (ns name : String) (env : Environment) (c : Cluster) :
    Except PassError Action → Action → Cluster → Prop where
  | skipped {left : Span} : env.statusEchoDelay settings.successInterval now = some left → 0 < left.totalNanos →
      left.totalNanos ≤ settings.successInterval.totalNanos →
      Scheduled settings now ns name env c (.ok (.requeueAfter left)) (.requeueAfter left) c
  | failed {e : PassError} {c' : Cluster} : env.statusEchoDelay settings.successInterval now = none →
      (Pass.run settings now ns name).run (answerer now) c = (.error e, c') →
      Scheduled settings now ns name env c (.error e) (.requeueAfter settings.errorInterval) c'
  | converged {c' : Cluster} : env.statusEchoDelay settings.successInterval now = none →
      (Pass.run settings now ns name).run (answerer now) c = (.ok .converged, c') →
      Scheduled settings now ns name env c (.ok (.requeueAfter settings.successInterval))
        (.requeueAfter settings.successInterval) c'
  | discharged {outcome : PassOutcome} {c' : Cluster} : env.statusEchoDelay settings.successInterval now = none →
      outcome ≠ .converged → (Pass.run settings now ns name).run (answerer now) c = (.ok outcome, c') →
      Discharged (Environment.address (some ns) name).key c' →
      Scheduled settings now ns name env c (.ok .awaitChange) .awaitChange c'

/-- Whatever comes of an event, the environment is looked at again after a time, unless there is nothing left to be
done for it. -/
theorem stays_scheduled (settings : Settings) (now : Instant) (h : Reachable c)
    (hns : env.metadata.namespace = some ns) (hname : env.metadata.name = some name) :
    ∃ result action c', (respond settings now env).run (answerer now) c = (.ok (result, action), c') ∧
      Scheduled settings now ns name env c result action c' := by
  cases hecho : env.statusEchoDelay settings.successInterval now with
  | some left =>
      obtain ⟨-, -, status, -, -, updated, -, hleft⟩ := statusEchoDelay_eq_some.1 hecho
      obtain ⟨hle, hpos⟩ := remaining_le hleft
      exact ⟨_, _, c, run_respond_of_echo hecho, .skipped hecho hpos hle⟩
  | none =>
      have hdischarges := (run_discharges settings now ns name h.kept).run
      cases hrun : (Pass.run settings now ns name).run (answerer now) c with
      | mk r c' =>
          rw [hrun] at hdischarges
          refine ⟨_, _, c', run_respond_of_pass hecho hns hname hrun, ?_⟩
          cases r with
          | error e => exact .failed hecho hrun
          | ok outcome =>
              cases outcome with
              | converged => exact .converged hecho hrun
              | gone => exact .discharged hecho (by decide) hrun hdischarges
              | finalized => exact .discharged hecho (by decide) hrun hdischarges

section Held

def held : Cluster :=
  (answer midnight (submitted (some "alice") [finalizer, "team/archive"])
    (.delete (Environment.address (some "team") "alice"))).2

theorem reachable_held : Reachable held := .answer _ _ reachable_submitted

theorem stays_scheduled_held : ∃ result c',
    (respond {} midnight (submittedEnvironment (some "alice") [])).run (answerer midnight) held =
        (.ok (result, .awaitChange), c') ∧
      Discharged (Environment.address (some "team") "alice").key c' ∧
      (c'.find? (Environment.address (some "team") "alice").key).isSome = true := by
  obtain ⟨result, action, c', hrun, hscheduled⟩ :=
    stays_scheduled {} midnight reachable_held (rfl : (submittedEnvironment (some "alice") []).metadata.namespace = _) rfl
  have hresult : ((respond {} midnight (submittedEnvironment (some "alice") [])).run (answerer midnight) held).1 =
      .ok (.ok .awaitChange, .awaitChange) := by
    with_unfolding_all rfl
  have hstays : ((((respond {} midnight (submittedEnvironment (some "alice") [])).run (answerer midnight) held).2).find?
      (Environment.address (some "team") "alice").key).isSome = true := by
    with_unfolding_all rfl
  rw [hrun] at hresult hstays
  cases hresult
  cases hscheduled with
  | discharged _ _ _ hdischarged => exact ⟨_, c', hrun, hdischarged, hstays⟩

end Held

end Reconcile

end EnvironmentOperator
