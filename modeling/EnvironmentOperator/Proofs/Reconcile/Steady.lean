import EnvironmentOperator.Proofs.Reconcile.Pass
import EnvironmentOperator.Proofs.Time.Rfc3339

namespace EnvironmentOperator

open Cluster Environment

namespace Status

/-- The time stays: the new one is not a second later or, where the old one cannot be read, has its text. -/
def Stays (status : EnvironmentStatus) (now : Instant) : Prop :=
  match status.lastUpdatedAt? with
  | some l => now.wholeSeconds.le l = true
  | none => status.lastUpdated = some (Rfc3339.write now)

def InYearRange (t : Instant) : Prop := 0 ≤ (Rfc3339.dateOf t).year ∧ (Rfc3339.dateOf t).year ≤ 9999

theorem lastUpdatedAt?_isSome_iff {status : EnvironmentStatus} {l : Instant}
    (h : status.lastUpdated = some (Rfc3339.write l)) : status.lastUpdatedAt?.isSome = true ↔ InYearRange l := by
  simp only [EnvironmentStatus.lastUpdatedAt?, h, Option.bind_some, Option.isSome_iff_exists,
    Rfc3339.parse?_write_eq_some]
  rw [exists_and_left, and_iff_left ⟨_, rfl⟩, InYearRange]

theorem timeText_eq_iff {env : Environment} {status : EnvironmentStatus} {l now : Instant}
    (hstatus : env.status = some status) (h : status.lastUpdated = some (Rfc3339.write l)) :
    timeText env now = Rfc3339.write l ↔ Stays status now := by
  have hprevious : previousUpdate env = Rfc3339.parse? (Rfc3339.write l) := by
    rw [previousUpdate, hstatus, Option.bind_some, EnvironmentStatus.lastUpdatedAt?, h, Option.bind_some]
  rw [timeText, hprevious, Stays, EnvironmentStatus.lastUpdatedAt?, h, Option.bind_some]
  by_cases hyear : InYearRange l
  · have hread : Rfc3339.parse? (Rfc3339.write (Rfc3339.written l)) = some (Rfc3339.written l) := by
      rw [Rfc3339.write_written, Rfc3339.parse?_write hyear]
    rw [Rfc3339.parse?_write hyear, ← Rfc3339.write_written l]
    exact Rfc3339.write_latest_iff (Rfc3339.wholeSeconds_written l) hread
  · rw [Rfc3339.parse?_write_eq_none hyear]
    show Rfc3339.write now = Rfc3339.write l ↔ some (Rfc3339.write l) = some (Rfc3339.write now)
    rw [Option.some_inj]
    exact eq_comm

end Status

namespace Pass

structure Steady (suffix : String) (s : Scope) (c : Cluster) (o : Object) (env : Environment) (l : Instant)
    (generation : Int64) : Prop where
  stored : Stored c (keyOf s) o env
  live : env.metadata.deletionTimestamp.isSome = false
  marked : env.hasFinalizer = true
  scope : Scope.ofEnvironment env suffix = .ok s
  fetching : c.Calm (.get (Environment.address (some s.namespace) s.name))
  settled : ∀ d ∈ Stage.declared s env.spec, Stage.Settled c d
  reporting : ∀ patch, c.Calm (.patchStatus (Environment.address (some s.namespace) s.name) patch)
  observed : env.metadata.generation = some generation
  reported : ∃ data, o.data = Status.reported data s.accessUrl (Rfc3339.write l) generation
  status : ∃ status, env.status = some status ∧ status.lastUpdated = some (Rfc3339.write l)

variable {suffix : String} {t : Instant} {c c' c₁ c₂ : Cluster} {o o₁ : Object} {env env₁ : Environment} {s : Scope}

theorem faults_afterReport (c : Cluster) (k : Key) (o : Object) (url text : String) (generation : Int64) :
    (Status.afterReport c k o url text generation).faults = c.faults := by
  unfold Status.afterReport
  split <;> rfl

theorem Converges.steady (h : Converges suffix t (keyOf s) c c' o env s c₁ o₁ env₁ c₂)
    (hcalm : c.Calm (.get (Environment.address (some s.namespace) s.name))) :
    ∃ o' env' l generation, Steady suffix s c' o' env' l generation := by
  obtain ⟨generation, version, conditions, hgeneration, hc', hstored'⟩ := h.reports
  have hmetadata := (h.marks.stored h.stored).metadata
  have hprovisioned := h.reached.provisioned
  have hfaults : c'.faults = c₂.faults := hc' ▸ faults_afterReport ..
  have hmarked : o₁.metadata.exchanged.finalizerList.contains finalizer = true := by
    have hmarked := h.marks.marked
    rw [hasFinalizer, hmetadata] at hmarked
    exact hmarked
  have hsettled : ∀ d ∈ Stage.declared s env₁.spec, Stage.Settled c' d := by
    intro d hd
    obtain ⟨hlook, od, hod, hsettled⟩ := hprovisioned.settled (fun _ hd => Stage.lawful_of_mem_declared hd) d hd
    have hne : d.address.key ≠ keyOf s := ne_keyOf (Stage.kind_of_mem_declared hd) s
    refine ⟨hlook.of_sublist (hfaults ▸ List.Sublist.refl _), od, ?_, hsettled⟩
    rw [hc', Status.find?_afterReport_of_ne hne]
    exact hod
  have hscope : Scope.ofEnvironment (reportedEnvironment o₁ env₁ s t version conditions generation) suffix = .ok s := by
    have hscope := (h.marks.scope suffix h.stored).trans h.scope
    simp only [Scope.ofEnvironment, hmetadata] at hscope
    exact hscope
  have hfetching : c'.Calm (.get (Environment.address (some s.namespace) s.name)) := by
    refine hcalm.of_sublist ?_
    rw [hfaults]
    exact hprovisioned.faults.trans h.marks.faults
  have hreporting : ∀ patch, c'.Calm (.patchStatus (Environment.address (some s.namespace) s.name) patch) := by
    intro patch
    exact h.reached.calm.of_sublist (hfaults ▸ List.Sublist.refl _)
  exact ⟨_, _, Status.nextTimestamp (Status.previousUpdate env₁) t, generation,
    { stored := hstored'
      live := h.marks.live h.stored h.live
      marked := hmarked
      scope := hscope
      fetching := hfetching
      settled := hsettled
      reporting := hreporting
      observed := hgeneration
      reported := ⟨_, rfl⟩
      status := ⟨_, rfl, rfl⟩ }⟩

section Again

variable {l : Instant} {generation : Int64}

def Reporting (call : Call) : Prop := call.verb = .get ∨ call.verb = .patchStatus

theorem Steady.converge_along (h : Steady suffix s c o env l generation) (now : Instant) :
    (converge env s now).Along (answerer now) (fun call _ => Reporting call) (fun r c' => r = .ok .converged ∧
      c' = Status.afterReport c (keyOf s) o s.accessUrl (Status.timeText env now) generation) c := by
  refine Program.along_bind.2 ((Stage.provisionAll_settled now h.settled).mono
    (fun call _ ⟨_, d, _, hcall⟩ => .inl (hcall ▸ rfl)) ?_)
  rintro r c' ⟨rfl, rfl⟩
  refine Program.along_bind.2 (Program.along_mapError.2 ?_)
  refine (Status.markReady_along now now h.stored.1 h.observed).mono (fun call _ ⟨_, hcall⟩ => .inr (hcall ▸ rfl)) ?_
  intro r c₂ hreport
  cases r with
  | ok _ => exact ⟨rfl, hreport.2⟩
  | error e => exact absurd (h.reporting _) hreport

theorem Steady.run_along {settings : Settings} (h : Steady settings.domainSuffix s c o env l generation)
    (now : Instant) :
    (run settings now s.namespace s.name).Along (answerer now) (fun call _ => Reporting call)
      (fun r c' => r = .ok .converged ∧
        c' = Status.afterReport c (keyOf s) o s.accessUrl (Status.timeText env now) generation) c := by
  refine Program.along_bind.2 (Program.along_result.2 ?_)
  refine (fetch_along now c (some s.namespace) s.name).mono (fun call _ ⟨_, hcall⟩ => .inl (hcall ▸ rfl)) ?_
  intro r c₀ hfetched
  cases r with
  | error e => exact absurd h.stored (hfetched.2.2 h.fetching o env)
  | ok env' =>
      obtain ⟨rfl, -, o', hstored'⟩ := hfetched
      obtain ⟨rfl, rfl⟩ := h.stored.unique hstored'
      simp only [h.scope, work, lifecycle, h.live, h.marked]
      exact h.converge_along now

/-- The clusters agree but for the time in the status of one object, and the version of that object. -/
structure Restamped (k : Key) (o : Object) (c c' : Cluster) : Prop where
  others : ∀ k', k' ≠ k → c'.find? k' = c.find? k'
  own : ∃ text version, c'.find? k = some { o with
    metadata := { o.metadata with resourceVersion := version }
    data := o.data.withMember "status" (.obj (Dict.put (Status.statusFields o.data) "lastUpdated" (.str text)))
    unreserved := o.unreserved.withStatus _ }

theorem Steady.restamped (h : Steady suffix s c o env l generation) (text : String) :
    Restamped (keyOf s) o c (Status.afterReport c (keyOf s) o s.accessUrl text generation) where
  others k' hne := Status.find?_afterReport_of_ne hne ..
  own := by
    obtain ⟨data, hdata⟩ := h.reported
    obtain ⟨version, hfind⟩ := Status.find?_afterReport h.stored.1 s.accessUrl text generation
    have hreported : Status.reported o.data s.accessUrl text generation =
        o.data.withMember "status" (.obj (Dict.put (Status.statusFields o.data) "lastUpdated" (.str text))) := by
      rw [hdata, Status.reported_reported]
    refine ⟨text, version, hfind.trans (congrArg some ?_)⟩
    simp only [Status.reportedAs, hreported]

theorem Steady.unchanged_iff (h : Steady suffix s c o env l generation) {status : EnvironmentStatus}
    (hstatus : env.status = some status) (hl : status.lastUpdated = some (Rfc3339.write l)) (now : Instant) :
    Status.afterReport c (keyOf s) o s.accessUrl (Status.timeText env now) generation = c ↔
      Status.Stays status now := by
  obtain ⟨data, hdata⟩ := h.reported
  rw [Status.afterReport_eq_self_iff, hdata, Status.reported_eq_self_iff]
  exact Status.timeText_eq_iff hstatus hl

theorem steady_of_converged {settings : Settings} {now : Instant} {ns name : String} (h : Reachable c)
    (hrun : (run settings now ns name).run (answerer now) c = (.ok .converged, c₁)) :
    ∃ s o env l generation, s.namespace = ns ∧ s.name = name ∧
      Steady settings.domainSuffix s c₁ o env l generation := by
  have houtcome := (run_along settings now ns name h.kept).run
  rw [hrun] at houtcome
  obtain ⟨hcalm, o, env, s, c₀, o₀, env₀, c₂, hconverges⟩ := houtcome
  obtain ⟨rfl, rfl⟩ := scope_of_stored h.kept hconverges.stored hconverges.scope
  obtain ⟨o', env', l, generation, hsteady⟩ := hconverges.steady hcalm
  exact ⟨s, o', env', l, generation, rfl, rfl, hsteady⟩

theorem stays_of_unchanged {settings : Settings} {now later : Instant} {ns name : String} (h : Reachable c)
    (hrun : (run settings now ns name).run (answerer now) c = (.ok .converged, c₁))
    (hsame : ((run settings later ns name).run (answerer later) c₁).2 = c₁) :
    ∃ env status, c₁.read? Environment (Environment.address (some ns) name) = some env ∧ env.status = some status ∧
      Status.Stays status later := by
  obtain ⟨s, o, env, l, generation, rfl, rfl, hsteady⟩ := steady_of_converged h hrun
  obtain ⟨status, hstatus, hl⟩ := hsteady.status
  have hafter := (hsteady.run_along later).run.2
  rw [hsame] at hafter
  exact ⟨env, status, read?_of_find? hsteady.stored.1 hsteady.stored.2, hstatus,
    (hsteady.unchanged_iff hstatus hl later).1 hafter.symm⟩

/-- A pass after one that has converged converges as well. It writes no object but the time in the status of the
environment, and it leaves the cluster as it is exactly when that time stays. -/
theorem run_again (settings : Settings) (now later : Instant) (ns name : String) (h : Reachable c)
    (hrun : (run settings now ns name).run (answerer now) c = (.ok .converged, c₁)) :
    ∃ o env status l c₂, Stored c₁ (Environment.address (some ns) name).key o env ∧ env.status = some status ∧
      status.lastUpdated = some (Rfc3339.write l) ∧
      (status.lastUpdatedAt?.isSome = true ↔ Status.InYearRange l) ∧
      (run settings later ns name).run (answerer later) c₁ = (.ok .converged, c₂) ∧
      (∀ call ∈ (run settings later ns name).calls (answerer later) c₁, Reporting call) ∧
      Restamped (Environment.address (some ns) name).key o c₁ c₂ ∧ (c₂ = c₁ ↔ Status.Stays status later) := by
  obtain ⟨s, o, env, l, generation, rfl, rfl, hsteady⟩ := steady_of_converged h hrun
  obtain ⟨status, hstatus, hl⟩ := hsteady.status
  -- Where nothing is in the way, each declaration is only looked at and the report is the one write.
  have halong := hsteady.run_along later
  refine ⟨o, env, status, l, _, hsteady.stored, hstatus, hl, Status.lastUpdatedAt?_isSome_iff hl,
    Prod.ext halong.run.1 halong.run.2, halong.calls, hsteady.restamped _, hsteady.unchanged_iff hstatus hl later⟩

theorem run_of_fst {ε α σ : Type} {w : Answerer σ} {p : Program ε α} {c : σ} {r : Except ε α}
    (h : (p.run w c).1 = r) : p.run w c = (r, (p.run w c).2) := Prod.ext h rfl

def afterPass (now : Instant) : Cluster :=
  ((run {} now "team" "alice").run (answerer now) (submitted (some "alice") [])).2

theorem run_again_submitted : ∃ o env status l c₂,
    Stored (afterPass midnight) (Environment.address (some "team") "alice").key o env ∧ env.status = some status ∧
      status.lastUpdated = some (Rfc3339.write l) ∧
      (status.lastUpdatedAt?.isSome = true ↔ Status.InYearRange l) ∧
      (run {} ⟨1, 0⟩ "team" "alice").run (answerer ⟨1, 0⟩) (afterPass midnight) = (.ok .converged, c₂) ∧
      (∀ call ∈ (run {} ⟨1, 0⟩ "team" "alice").calls (answerer ⟨1, 0⟩) (afterPass midnight), Reporting call) ∧
      Restamped (Environment.address (some "team") "alice").key o (afterPass midnight) c₂ ∧
      (c₂ = afterPass midnight ↔ Status.Stays status ⟨1, 0⟩) :=
  run_again {} midnight ⟨1, 0⟩ "team" "alice" reachable_submitted (run_of_fst (by with_unfolding_all rfl))

/-- The environment with a time in its status that is of the year 9999 there and of the year 10000 in UTC. -/
def postdated : Cluster :=
  (answer midnight (submitted (some "alice") []) (.patchStatus (Environment.address (some "team") "alice")
    (.obj [("lastUpdated", .str "9999-12-31T23:59:59-23:59")]))).2

def postdatedInstant : Instant := ⟨253402387139, 0⟩

def marchNoon : Instant := ⟨1772366400, 0⟩

theorem reachable_postdated : Reachable postdated := .answer _ _ reachable_submitted

/-- A time past the year 9999 is written with a sign, and is not read again: the time in the status goes back. -/
theorem moves_back_past_year_range : ¬∀ (settings : Settings) (now later : Instant) (ns name : String) (c c₁ : Cluster)
    (l : Instant), Reachable c → (run settings now ns name).run (answerer now) c = (.ok .converged, c₁) →
      ((c₁.read? Environment (Environment.address (some ns) name)).bind Environment.status).bind
        EnvironmentStatus.lastUpdated = some (Rfc3339.write l) →
        later.wholeSeconds.le l.wholeSeconds = true →
          ((run settings later ns name).run (answerer later) c₁).2 = c₁ := by
  intro h
  have hrun : (run {} marchNoon "team" "alice").run (answerer marchNoon) postdated =
      (.ok .converged, ((run {} marchNoon "team" "alice").run (answerer marchNoon) postdated).2) :=
    run_of_fst (by with_unfolding_all rfl)
  have htext : ((((run {} marchNoon "team" "alice").run (answerer marchNoon) postdated).2.read? Environment
      (Environment.address (some "team") "alice")).bind Environment.status).bind EnvironmentStatus.lastUpdated =
        some (Rfc3339.write postdatedInstant) := by
    with_unfolding_all rfl
  have hsame := h {} marchNoon marchNoon "team" "alice" _ _ postdatedInstant reachable_postdated hrun htext (by decide)
  obtain ⟨env, status, hread, hstatus, hstays⟩ := stays_of_unchanged reachable_postdated hrun hsame
  rw [hread, Option.bind_some, hstatus, Option.bind_some] at htext
  have hunread : Rfc3339.parse? (Rfc3339.write postdatedInstant) = none := Rfc3339.parse?_write_eq_none (by decide)
  rw [Status.Stays, EnvironmentStatus.lastUpdatedAt?, htext, Option.bind_some, hunread, Option.some_inj] at hstays
  revert hstays
  decide

end Again

end Pass

end EnvironmentOperator
