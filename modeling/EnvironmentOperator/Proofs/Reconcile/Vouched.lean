import EnvironmentOperator.Proofs.Reconcile.Foreign
import EnvironmentOperator.Proofs.Reconcile.Lineage
import EnvironmentOperator.Proofs.Reconcile.Preparation

namespace EnvironmentOperator

open Cluster Environment Exchange

theorem Status.observed_reported {data : Json} {url text : String} {generation : Int64} {status : EnvironmentStatus}
    (h : Fields.readOptional ((reported data url text generation).member? "status") = .ok (some status)) :
    status.observedGeneration = some generation := by
  rw [member?_reported, if_pos rfl, Fields.readOptional_some (by simp)] at h
  cases hread : (decode (Json.obj (stamped (statusFields data) url text generation)) :
      Except DecodeError EnvironmentStatus) with
  | error e =>
      rw [hread] at h
      cases h
  | ok read =>
      rw [hread] at h
      cases h
      simp only [decode, decodeRecord_obj, EnvironmentStatus.ofFields, bind_eq_ok, Fields.optional_eq] at hread
      obtain ⟨_, -, _, -, _, -, observed, hobserved, _, -, hstatus⟩ := hread
      have hstamped : Fields.readOptional (Dict.at? (stamped (statusFields data) url text generation)
          "observedGeneration") = .ok (some generation) := by
        rw [at?_stamped]
        exact Fields.readOptional_some_encode generation
      rw [hstamped] at hobserved
      cases hobserved
      rw [← Except.ok.inj hstatus]

namespace Pass

/-- A pass that has had this history has ensured every stage for this spec. -/
def Provides (settings : Settings) (ns name : String) (spec : EnvironmentSpec) (history : List Exchange) : Prop :=
  ∃ env s before during after, history = before ++ during ++ after ∧
    (prepare settings ns name).Ends before (.ok (.provision env s)) ∧ env.spec = spec ∧
    (Stage.provisionAll s spec Stage.all).Ends during (.ok ())

theorem Provides.later {settings : Settings} {ns name : String} {spec : EnvironmentSpec}
    {history history' : List Exchange} (h : Provides settings ns name spec history) (hlater : history <+: history') :
    Provides settings ns name spec history' := by
  obtain ⟨env, s, before, during, after, rfl, hprepared, hspec, hprovided⟩ := h
  obtain ⟨rest, rfl⟩ := hlater
  exact ⟨env, s, before, during, after ++ rest, by simp, hprepared, hspec, hprovided⟩

section Honest

variable {provided provided' : EnvironmentSpec → Prop} {k : Key} {c c' : Cluster} {o : Object} {env : Environment}

/-- Where the status names a generation, the environment has come from a version of that generation, whose spec has been
provided for. -/
def Honest (provided : EnvironmentSpec → Prop) (k : Key) (c : Cluster) : Prop :=
  ∀ o status g, c.find? k = some o → o.readStatus = .ok (some status) → status.observedGeneration = some g →
    ∃ (c₁ : Cluster) (o₁ : Object) (env₁ : Environment), Manifest.ofObject o₁ = .ok env₁ ∧ provided env₁.spec ∧
      o₁.metadata.generation = some g ∧ Descends c₁ o₁ c o

theorem Honest.mono (h : Honest provided k c) (hprovided : ∀ spec, provided spec → provided' spec) :
    Honest provided' k c := by
  intro o status g ho hstatus hg
  obtain ⟨c₁, o₁, env₁, hread, hspec, hgeneration, hdescends⟩ := h o status g ho hstatus hg
  exact ⟨c₁, o₁, env₁, hread, hprovided _ hspec, hgeneration, hdescends⟩

theorem Honest.shifts (h : Honest provided k c) (hshifts : Shifts k c c') : Honest provided k c' := by
  intro o' status g ho' hstatus hg
  rcases hshifts o' ho' with hnone | ⟨o, ho, hsame, hdescends⟩
  · rw [hnone] at hstatus
    cases hstatus
  · obtain ⟨c₁, o₁, env₁, hread, hspec, hgeneration, hbefore⟩ := h o status g ho (hsame.symm.trans hstatus) hg
    exact ⟨c₁, o₁, env₁, hread, hspec, hgeneration, hbefore.trans hdescends⟩

/-- The environment was stored at some time, and has endured since if it bore the finalizer. -/
def Held (k : Key) (o : Object) (env : Environment) (c : Cluster) : Prop :=
  ∃ c₁, c₁.Kept ∧ Stored c₁ k o env ∧ Later c₁ c ∧ Endures k c₁ c

theorem Held.drift (h : Held k o env c) (hdrift : Drift k c c') : Held k o env c' := by
  obtain ⟨c₁, hk, hstored, hlater, hendures⟩ := h
  exact ⟨c₁, hk, hstored, hlater.trans hdrift.later, hendures.trans hdrift.endures⟩

end Honest

section Sound

variable {settings : Settings} {ns name : String} {s s' : Scene} {call : Call} {o : Object} {env : Environment}
  {provided : EnvironmentSpec → Prop}

inductive Sound (settings : Settings) (ns name : String) (s : Scene) : Call → Prop where
  | look (a : Address) : Sound settings ns name s (.get a)
  | elsewhere {call : Call} : call.address.key ≠ (Environment.address (some ns) name).key →
      Sound settings ns name s call
  | rewrite {o : Object} {env : Environment} (finalizers : List String) :
      Held (Environment.address (some ns) name).key o env s.cluster →
      Sound settings ns name s (.replace Kind.environment.resource (Manifest.toObject (env.withFinalizers finalizers)))
  | report {o : Object} {env : Environment} {scope : Scope} (t : Instant) :
      Held (Environment.address (some ns) name).key o env s.cluster → env.hasFinalizer = true →
      Provides settings ns name env.spec s.history → keyOf scope = (Environment.address (some ns) name).key →
      Sound settings ns name s
        (.patchStatus (Environment.address (some scope.namespace) scope.name) (Status.readyPatch env scope t))

theorem shifts_rewrite (now : Instant) {c : Cluster} (hk : c.Kept) (finalizers : List String)
    (h : Held (Environment.address (some ns) name).key o env c) : Shifts (Environment.address (some ns) name).key c
      (c.answer now (.replace Kind.environment.resource (Manifest.toObject (env.withFinalizers finalizers)))).2 := by
  obtain ⟨c₁, hk₁, hstored, hlater, -⟩ := h
  have hkey := key_withFinalizers finalizers hk₁ hstored
  have hseen : Seen (Environment.address (some ns) name).key o c := ⟨c₁, hk₁, hstored.1, hlater⟩
  have hversion : env.metadata.resourceVersion = o.metadata.resourceVersion := by
    rw [hstored.metadata]
    rfl
  refine shifts_replace now hk hkey fun live hfind hfresh hnone => ?_
  rw [hseen.live hkey hversion hfind hfresh] at hnone
  obtain ⟨-, -, hstatus⟩ := ofObject_eq_ok.1 hstored.2
  rw [hnone] at hstatus
  have hwritten : (Manifest.toObject (env.withFinalizers finalizers)).data.member? "status" = none := by
    simp [Manifest.toObject, Manifest.data, withFinalizers, ← Except.ok.inj hstatus]
  rw [Object.readStatus, hwritten]
  rfl

theorem honest_report (now t : Instant) {c : Cluster} {scope : Scope}
    (h : Held (keyOf scope) o env c) (hmarked : env.hasFinalizer = true) (hprovided : provided env.spec)
    (hhonest : Honest provided (keyOf scope) c) : Honest provided (keyOf scope)
      (c.answer now (.patchStatus (Environment.address (some scope.namespace) scope.name)
        (Status.readyPatch env scope t))).2 := by
  rcases (answer_cases now c (.patchStatus (Environment.address (some scope.namespace) scope.name)
    (Status.readyPatch env scope t))).symm with ⟨-, e, c', ha, hspent, -⟩ | ⟨-, ha⟩
  · exact hhonest.shifts (shifts_of_find? (advanced_answer now c _).lastVersion (ha ▸ hspent.find? _))
  obtain ⟨c₁, hk₁, hstored, hlater, hendures⟩ := h
  obtain ⟨g, hg⟩ := Option.isSome_iff_exists.1 (hk₁ _ _ hstored.1).generation
  have hgeneration : env.metadata.generation = some g := hstored.metadata ▸ hg
  have hbears : o.Marked := by
    rw [hasFinalizer, hstored.metadata] at hmarked
    exact List.contains_iff_mem.1 hmarked
  obtain ⟨o', ho', -, hdescends⟩ := hendures o hstored.1 hbears
  have hpatch := Status.patchStatus_eq (a := Environment.address (some scope.namespace) scope.name) ho'
    (Status.withStatus_readyPatch hgeneration scope t o'.data)
  rw [perform, hpatch] at ha
  have hversion := (advanced_answer now c (.patchStatus (Environment.address (some scope.namespace) scope.name)
    (Status.readyPatch env scope t))).lastVersion
  rw [ha] at hversion ⊢
  intro o'' status g' ho'' hstatus hg'
  obtain ⟨version, hfind⟩ := Status.find?_afterReport ho' scope.accessUrl (Status.timeText env t) g
  cases hfind.symm.trans ho''
  have hobserved := Status.observed_reported hstatus
  rw [hobserved] at hg'
  cases hg'
  refine ⟨c₁, o, env, hstored.2, hprovided, hg, hdescends.trans ⟨0, hversion, ?_, fun _ => ?_⟩⟩
  · show o'.metadata.generation = _
    cases o'.metadata.generation <;> simp
  · exact congrArg (Option.map Json.unsignedZeros) ((Status.member?_reported ..).trans (if_neg (by decide)))

theorem Sound.honest (h : Sound settings ns name s call) (hk : s.cluster.Kept)
    (hprovided : ∀ spec, Provides settings ns name spec s.history → provided spec)
    (hhonest : Honest provided (Environment.address (some ns) name).key s.cluster) :
    Honest provided (Environment.address (some ns) name).key (s.cluster.answer s.now call).2 := by
  cases h with
  | look a => exact hhonest.shifts (drift_of_find? s.now s.cluster (find?_look s.now s.cluster a _)).shifts
  | elsewhere hne =>
      exact hhonest.shifts (drift_of_find? s.now s.cluster (find?_answer_of_ne s.now s.cluster call hne.symm)).shifts
  | rewrite finalizers hheld => exact hhonest.shifts (shifts_rewrite s.now hk finalizers hheld)
  | report t hheld hmarked hprovides hkey =>
      rw [← hkey] at hheld hhonest ⊢
      exact honest_report s.now t hheld hmarked (hprovided _ hprovides) hhonest

end Sound

section Run

variable {settings : Settings} {ns name : String} {s s' : Scene} {o : Object} {env : Environment} {scope : Scope}
  {k : Key}

def Drifts (k : Key) (s s' : Scene) : Prop := Drift k s.cluster s'.cluster ∧ s'.history = s.history

theorem rely_drifts (k : Key) : Rely (Drifts k) where
  refl s := ⟨.refl k s.cluster, rfl⟩
  trans h h' := ⟨h.1.trans h'.1, h'.2.trans h.2⟩

theorem Drifts.lapse (h : Drifts k s s') : s.Lapse s' := ⟨h.1.kept, h.1.later, h.2⟩

theorem Had.held {looked : List Object} (h : Had (Drifts k) k looked o env s) : Held k o env s.cluster := by
  obtain ⟨s₁, hk, hstored, -, hs⟩ := h
  exact ⟨s₁.cluster, hk, hstored, hs.1.later, hs.1.endures⟩

theorem Computed.sound {call : Call}
    (h : Computed (Drifts (Environment.address (some ns) name).key) (Environment.address (some ns) name).key s call) :
    Sound settings ns name s call := by
  cases h with
  | look a => exact .look a
  | rewrite finalizers hhad => exact .rewrite finalizers hhad.held

theorem foreign_amid {ε α : Type} {p : Program ε α} (hp : p.Only Foreign)
    (h : Held (Environment.address (some ns) name).key o env s.cluster) :
    p.Amid Scene.answerer (Drifts (Environment.address (some ns) name).key)
      (fun call s => Sound settings ns name s call)
      (fun _ s' => Held (Environment.address (some ns) name).key o env s'.cluster) s := by
  have hne {call : Call} (hforeign : Foreign call) : call.address.key ≠ (Environment.address (some ns) name).key :=
    fun he => hforeign (congrArg Key.kind he)
  have hkept := (hp.amid (w := Scene.answerer) (R := Drifts (Environment.address (some ns) name).key) s).kept
    (I := fun s => Held (Environment.address (some ns) name).key o env s.cluster)
    (fun _ _ hs hi => hi.drift hs.1)
    (fun call s hi hforeign => hi.drift (drift_of_find? s.now s.cluster
      (find?_answer_of_ne s.now s.cluster call (hne hforeign).symm)))
    (fun _ _ hi => hi) h
  exact hkept.mono (fun _ _ hcall => .elsewhere (hne hcall.1)) fun _ _ h => h.2

theorem release_amid (h : Held (Environment.address (some ns) name).key o env s.cluster) :
    (release env scope).Amid Scene.answerer (Drifts (Environment.address (some ns) name).key)
      (fun call s => Sound settings ns name s call) (fun _ _ => True) s := by
  have hrely := rely_drifts (Environment.address (some ns) name).key
  refine Program.amid_bind hrely (Program.amid_mapError.2
    ((foreign_amid (only_teardown scope) h).mono (fun _ _ h => h) ?_))
  intro r s₁ hheld
  cases r with
  | error e => trivial
  | ok _ =>
      refine Program.amid_bind hrely (Program.amid_mapError.2 (Program.amid_request_bind.2 fun s₂ hs₂ => ?_))
      refine ⟨.rewrite env.unmarking (hheld.drift hs₂.1), ?_⟩
      split
      · exact fun _ _ _ _ _ _ => trivial
      · exact fun _ _ => trivial

theorem converge_amid (now : Instant) (h : Held (Environment.address (some ns) name).key o env s.cluster)
    (hmarked : env.hasFinalizer = true) (hkey : keyOf scope = (Environment.address (some ns) name).key)
    (hends : (prepare settings ns name).Ends s.history (.ok (.provision env scope))) :
    (converge env scope now).Amid Scene.answerer (Drifts (Environment.address (some ns) name).key)
      (fun call s => Sound settings ns name s call) (fun _ _ => True) s := by
  have hrely := rely_drifts (Environment.address (some ns) name).key
  refine Program.amid_bind hrely ((Scene.amid_ends (fun hs => hs.2)
    (foreign_amid (only_provisionAll scope env.spec Stage.all) h)).mono (fun _ _ h => h) ?_)
  rintro r s₁ ⟨hheld, course, hcourse, hprovided⟩
  cases r with
  | error e => trivial
  | ok _ =>
      refine Program.amid_bind hrely (Program.amid_mapError.2 ((Program.amid_request
        (c := .patchStatus (Environment.address (some scope.namespace) scope.name) (Status.readyPatch env scope now))).2
          fun s₂ hs₂ => ?_))
      refine ⟨.report now (hheld.drift hs₂.1) hmarked
        ⟨env, scope, s.history, course, [], ?_, hends, rfl, hprovided⟩ hkey, fun s₃ _ => ?_⟩
      · rw [hs₂.2, hcourse, List.append_nil]
      · cases (Scene.answerer.answer (.patchStatus (Environment.address (some scope.namespace) scope.name)
          (Status.readyPatch env scope now)) s₂).1 with
        | error e => trivial
        | ok _ => exact fun _ _ => trivial

theorem run_amid (settings : Settings) (now : Instant) (ns name : String) (hk : s.cluster.Kept)
    (hhistory : s.history = []) :
    (run settings now ns name).Amid Scene.answerer (Drifts (Environment.address (some ns) name).key)
      (fun call s => Sound settings ns name s call) (fun _ _ => True) s := by
  have hrely := rely_drifts (Environment.address (some ns) name).key
  rw [run_prepares]
  refine Program.amid_bind hrely ((Scene.amid_ends (fun hs => hs.2)
    (prepare_amid hrely (fun _ _ hs => hs.lapse) settings ns name hk hhistory)).mono (fun _ _ h => h.sound) ?_)
  rintro r s₁ ⟨hprepared, course, hcourse, hends⟩
  cases r with
  | error e => trivial
  | ok decision =>
      cases decision with
      | stop outcome => exact fun _ _ => trivial
      | tearDown env scope =>
          obtain ⟨-, looked, o, hhad⟩ := hprepared
          exact release_amid hhad.held
      | provision env scope =>
          obtain ⟨hkey, hready⟩ := hprepared
          obtain ⟨o, hhad⟩ := hready.had
          refine converge_amid now hhad.held hready.marked hkey ?_
          rw [hcourse, hhistory]
          exact hends

end Run

end Pass

end EnvironmentOperator
