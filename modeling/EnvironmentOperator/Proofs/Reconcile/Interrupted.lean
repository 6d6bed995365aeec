import EnvironmentOperator.Proofs.Reconcile.Pass

namespace EnvironmentOperator

open Cluster Environment

namespace Pass

open Teardown

variable {settings : Settings} {now : Instant} {ns name : String} {c c' : Cluster} {s : Scope} {o : Object}
  {env : Environment}

inductive Ended (settings : Settings) (now : Instant) (env : Environment) (c : Cluster) :
    Except PassError PassOutcome → Cluster → Prop where
  | finalized {s : Scope} {c₁ : Cluster} : Scope.ofEnvironment env settings.domainSuffix = .ok s →
      (∀ a ∈ managedObjects s, c.Calm (.delete a)) → c₁ = sweep now (managedObjects s) c →
      Ended settings now env c (.ok .finalized)
        (c₁.replace Kind.environment.resource (Manifest.toObject env.withoutFinalizer)).2
  | stopped {s : Scope} {done rest : List Address} {a : Address} {e : StoreError} {failure : Failure} {c' : Cluster} :
      Scope.ofEnvironment env settings.domainSuffix = .ok s → managedObjects s = done ++ a :: rest →
      Stopped now c done a e failure c' → Ended settings now env c (.error (.teardown failure)) c'
  | unnamed {member : IdentityMember} : Scope.ofEnvironment env settings.domainSuffix = .error member →
      Ended settings now env c (.error (.incomplete member)) c

theorem answer_withoutFinalizer (now : Instant) (hk : c.Kept) (hfaults : ∀ f ∈ c.faults, f.verb = .delete)
    (hstored : Stored c (keyOf s) o env) (hmarked : env.hasFinalizer = true) :
    ∃ o', c.answer now (.replace Kind.environment.resource (Manifest.toObject env.withoutFinalizer)) =
      (.ok o', (c.replace Kind.environment.resource (Manifest.toObject env.withoutFinalizer)).2) := by
  have haccepted : (c.replace Kind.environment.resource (Manifest.toObject env.withoutFinalizer)).1 =
      .ok (rewritten c o env env.unmarking) :=
    congrArg Prod.fst (replace_withFinalizers hk hstored (unmarking_ne hstored hmarked))
  have hcalm : c.Calm (.replace Kind.environment.resource (Manifest.toObject env.withoutFinalizer)) :=
    calm_of_verb hfaults nofun
  exact ⟨_, (answer_of_calm now hcalm).trans (Prod.ext haccepted rfl)⟩

theorem release_ends (now : Instant) (hk : c.Kept) (hfaults : ∀ f ∈ c.faults, f.verb = .delete)
    (hstored : Stored c (keyOf s) o env) (hmarked : env.hasFinalizer = true)
    (hscope : Scope.ofEnvironment env settings.domainSuffix = .ok s) :
    (release env s).Along (answerer now) (fun _ _ => True) (Ended settings now env c) c := by
  refine Program.along_bind.2 (Program.along_mapError.2 ?_)
  refine (deleteAll_sweeps now (managedObjects s) c).mono (fun _ _ _ => trivial) ?_
  intro r c' h
  cases r with
  | error failure =>
      obtain ⟨done, a, rest, e, horder, hstopped⟩ := h
      exact .stopped hscope horder hstopped
  | ok _ =>
      obtain ⟨hcalm, hc'⟩ := h
      have hkept : c'.Kept := hc' ▸ kept_sweep hk
      have hdeletes : ∀ f ∈ c'.faults, f.verb = .delete := by
        rw [hc', faults_sweep]
        exact hfaults
      have hstored' : Stored c' (keyOf s) o env := by
        refine ⟨?_, hstored.2⟩
        rw [hc', find?_sweep_of_ne fun a ha => (ne_keyOf (kind_of_mem_managedObjects ha) s).symm]
        exact hstored.1
      obtain ⟨o', hanswer⟩ := answer_withoutFinalizer now hkept hdeletes hstored' hmarked
      refine Program.along_bind.2 (Program.along_mapError.2 (Program.along_request_bind.2 ⟨trivial, ?_⟩))
      simp only [answerer, hanswer]
      exact .finalized hscope hcalm hc'

theorem run_ends (settings : Settings) (now : Instant) (hk : c.Kept) (hfaults : ∀ f ∈ c.faults, f.verb = .delete)
    (hstored : Stored c (Environment.address (some ns) name).key o env)
    (hterminating : env.metadata.deletionTimestamp.isSome = true) (hmarked : env.hasFinalizer = true) :
    Ended settings now env c ((run settings now ns name).run (answerer now) c).1
      ((run settings now ns name).run (answerer now) c).2 := by
  refine Program.Along.run (C := fun _ _ => True) (Program.along_bind.2 (Program.along_result.2 ?_))
  refine (fetch_along now c (some ns) name).mono (fun _ _ _ => trivial) ?_
  intro r c' hfetched
  cases r with
  | error e => exact absurd hstored (hfetched.2.2 (calm_of_verb hfaults nofun) o env)
  | ok env' =>
      obtain ⟨rfl, -, o', hstored'⟩ := hfetched
      obtain ⟨rfl, rfl⟩ := hstored.unique hstored'
      dsimp only
      cases hscope : Scope.ofEnvironment env' settings.domainSuffix with
      | error member => exact .unnamed hscope
      | ok s =>
          have hkey := keyOf_of_stored hk hstored hscope
          dsimp only
          unfold work lifecycle
          rw [hterminating, hmarked]
          exact release_ends now hk hfaults (hkey ▸ hstored) hmarked hscope

theorem run_undisturbed (settings : Settings) (now : Instant) (hk : c.Kept) (hnil : c.faults = [])
    (hstored : Stored c (Environment.address (some ns) name).key o env)
    (hterminating : env.metadata.deletionTimestamp.isSome = true) (hmarked : env.hasFinalizer = true)
    (hscope : Scope.ofEnvironment env settings.domainSuffix = .ok s) {c₁ : Cluster}
    (hc₁ : c₁ = sweep now (managedObjects s) c) :
    (run settings now ns name).run (answerer now) c =
      (.ok .finalized, (c₁.replace Kind.environment.resource (Manifest.toObject env.withoutFinalizer)).2) := by
  have hended := run_ends settings now hk (hnil ▸ nofun) hstored hterminating hmarked
  generalize (run settings now ns name).run (answerer now) c = ended at hended ⊢
  obtain ⟨r, c'⟩ := ended
  cases hended with
  | finalized hscope' hcalm hswept =>
      cases hscope.symm.trans hscope'
      rw [hswept, hc₁]
  | @stopped _ _ _ a e _ _ _ _ hstopped => exact absurd hstopped.refused (not_refused (calm_of_nil hnil _))
  | unnamed hscope' => cases hscope.symm.trans hscope'

structure Interrupted (settings : Settings) (now : Instant) (ns name : String) (s : Scope) (failure : Failure)
    (o : Object) (env : Environment) (c c' : Cluster) (done : List Address) (a : Address) (rest : List Address) :
    Prop where
  order : managedObjects s = done ++ a :: rest
  first : ∀ b ∈ done, ∀ e, ¬Refused now c b e
  named : ∃ e, Refused now c a e ∧ (PassError.teardown failure).message =
    "teardown failed: failed to delete " ++ a.display ++ ": " ++ ": ".intercalate e.chain
  earlier : ∀ b ∈ done, (c'.find? b.key = none ↔ ¬Guarded c b.key) ∧ Settled c' b.key
  later : ∀ b ∈ a :: rest, c'.find? b.key = c.find? b.key
  environment : Stored c' (Environment.address (some ns) name).key o env ∧ env.hasFinalizer = true
  finalized : ((run settings now ns name).run (answerer now) c'.clearFaults).1 = .ok .finalized
  resumed : (run settings now ns name).run (answerer now) c'.clearFaults =
    (run settings now ns name).run (answerer now) c.clearFaults

theorem text_during (activity : String) (e : StoreError) :
    (Failure.during activity e).text = activity ++ ": " ++ ": ".intercalate e.chain := by
  have hwhole : (Failure.during activity e).chain = activity :: e.chain := rfl
  have hchain : e.chain = e.message :: e.chain.tail := rfl
  rw [Failure.text, hwhole, hchain, String.intercalate_cons_cons]

theorem interrupted_of_stopped (h : Reachable c) (hstored : Stored c (Environment.address (some ns) name).key o env)
    (hterminating : env.metadata.deletionTimestamp.isSome = true) (hmarked : env.hasFinalizer = true)
    (hscope : Scope.ofEnvironment env settings.domainSuffix = .ok s) {done rest : List Address} {a : Address}
    {e : StoreError} {failure : Failure} (horder : managedObjects s = done ++ a :: rest)
    (hstopped : Stopped now c done a e failure c') :
    Interrupted settings now ns name s failure o env c c' done a rest := by
  have hmanaged : ∀ b ∈ done, b ∈ managedObjects s := fun b hb => horder ▸ List.mem_append_left _ hb
  have henvironment : (sweep now done c).find? (Environment.address (some ns) name).key =
      c.find? (Environment.address (some ns) name).key :=
    find?_sweep_of_ne fun b hb he => kind_of_mem_managedObjects (hmanaged b hb) (congrArg Key.kind he).symm
  have hstored' : Stored c' (Environment.address (some ns) name).key o env :=
    ⟨(hstopped.left.find? _).trans (henvironment.trans hstored.1), hstored.2⟩
  have hkept' : c'.Kept := (kept_sweep h.kept).spent hstopped.left
  -- Without their faults, the cluster that is left is the undisturbed one swept as far as the refused object.
  have hcleared : c'.clearFaults = sweep now done c.clearFaults := by
    obtain ⟨faults, -, hc'⟩ := hstopped.left
    rw [hc']
    exact (sweep_faults []).symm
  have hresumed : sweep now (managedObjects s) c'.clearFaults = sweep now (managedObjects s) c.clearFaults := by
    rw [hcleared, horder]
    exact sweep_resumed now done (a :: rest) c.clearFaults
  have hagain := run_undisturbed settings (c := c'.clearFaults) now hkept' rfl hstored' hterminating
    hmarked hscope hresumed.symm
  have hwhole := run_undisturbed settings (c := c.clearFaults) now h.kept rfl hstored hterminating
    hmarked hscope rfl
  have hdistinct := managedObjects_distinct s
  rw [horder, List.map_append] at hdistinct
  refine ⟨horder, fun b hb _ => not_refused (hstopped.accepted b hb), ⟨e, hstopped.refused, ?_⟩, ?_, ?_,
    ⟨hstored', hmarked⟩, ?_, ?_⟩
  · rw [hstopped.failure]
    show "teardown failed: " ++ (Failure.during ("failed to delete " ++ a.display) e).text = _
    have hjoined : "teardown failed: " ++ "failed to delete " = "teardown failed: failed to delete " := by decide
    rw [text_during, ← hjoined]
    simp only [String.append_assoc]
  · intro b hb
    refine ⟨(hstopped.left.find? _).symm ▸ find?_sweep hb, ?_⟩
    intro left hleft
    exact settled_sweep hb left ((hstopped.left.find? _).symm.trans hleft)
  · intro b hb
    refine (hstopped.left.find? _).trans (find?_sweep_of_ne ?_)
    intro b' hb' he
    exact (List.nodup_append.1 hdistinct).2.2 _ (List.mem_map_of_mem hb') _ (List.mem_map_of_mem hb) he.symm
  · rw [hagain]
  · rw [hagain, hwhole]

/-- A teardown fails exactly when a delete is refused. It stops there, and the next one completes it as if it had not
been interrupted, down to the versions. -/
theorem run_interrupted (settings : Settings) (now : Instant) (h : Reachable c)
    (hfaults : ∀ f ∈ c.faults, f.verb = .delete) (hstored : Stored c (Environment.address (some ns) name).key o env)
    (hterminating : env.metadata.deletionTimestamp.isSome = true) (hmarked : env.hasFinalizer = true) :
    (∀ s, Scope.ofEnvironment env settings.domainSuffix = .ok s →
      ((∃ failure, ((run settings now ns name).run (answerer now) c).1 = .error (.teardown failure)) ↔
        ∃ a ∈ managedObjects s, ∃ e, Refused now c a e)) ∧
      ∀ failure, ((run settings now ns name).run (answerer now) c).1 = .error (.teardown failure) →
        ∃ s done a rest, Scope.ofEnvironment env settings.domainSuffix = .ok s ∧
          Interrupted settings now ns name s failure o env c ((run settings now ns name).run (answerer now) c).2
            done a rest := by
  have hended := run_ends settings now h.kept hfaults hstored hterminating hmarked
  generalize (run settings now ns name).run (answerer now) c = ended at hended ⊢
  obtain ⟨r, c'⟩ := ended
  refine ⟨?_, ?_⟩
  · intro s hscope
    cases hended with
    | finalized hscope' hcalm _ =>
        cases hscope.symm.trans hscope'
        constructor
        · rintro ⟨failure, hfailure⟩
          cases hfailure
        · rintro ⟨a, ha, e, hrefused⟩
          exact absurd hrefused (not_refused (hcalm a ha))
    | @stopped _ done rest a e failure _ hscope' horder hstopped =>
        cases hscope.symm.trans hscope'
        have ha : a ∈ managedObjects s := by
          rw [horder]
          exact List.mem_append_right _ (List.mem_cons_self ..)
        constructor
        · intro _
          exact ⟨a, ha, e, hstopped.refused⟩
        · intro _
          exact ⟨failure, rfl⟩
    | unnamed hscope' => cases hscope.symm.trans hscope'
  · intro failure hfailure
    cases hended with
    | finalized => cases hfailure
    | stopped hscope horder hstopped =>
        cases hfailure
        exact ⟨_, _, _, _, hscope,
          interrupted_of_stopped h hstored hterminating hmarked hscope horder hstopped⟩
    | unnamed => cases hfailure

def refusing : Cluster :=
  let provisioned := ((run {} midnight "team" "alice").run (answerer midnight) (submitted (some "alice") [])).2
  (answer midnight (provisioned.plant ⟨.delete, "Ingress", "alice-vscode-ingress", .refuse⟩)
    (.delete (Environment.address (some "team") "alice"))).2

theorem reachable_refusing : Reachable refusing :=
  .answer _ _ (.plant _ (reachable_submitted.run _ _))

theorem run_interrupted_refusing : ∃ failure o env s done a rest,
    ((run {} midnight "team" "alice").run (answerer midnight) refusing).1 = .error (.teardown failure) ∧
      Interrupted {} midnight "team" "alice" s failure o env refusing
        ((run {} midnight "team" "alice").run (answerer midnight) refusing).2 done a rest := by
  have hfaults : refusing.faults = [⟨.delete, "Ingress", "alice-vscode-ingress", .refuse⟩] := by
    with_unfolding_all rfl
  have hdeletes : ∀ f ∈ refusing.faults, f.verb = .delete := by
    rw [hfaults]
    decide
  obtain ⟨o, env, hstored, hlifecycle⟩ := Stored.of_read? (c := refusing)
    (a := Environment.address (some "team") "alice")
    (f := fun env => (env.metadata.deletionTimestamp.isSome, env.hasFinalizer)) (b := (true, true))
    (by with_unfolding_all rfl)
  have hfailed : ((run {} midnight "team" "alice").run (answerer midnight) refusing).1 =
      .error (.teardown (.during "failed to delete Ingress team/alice-vscode-ingress"
        (.rejected "delete" "Ingress" "alice-vscode-ingress" "injected fault"))) := by
    with_unfolding_all rfl
  obtain ⟨s, done, a, rest, -, hinterrupted⟩ := (run_interrupted {} midnight reachable_refusing hdeletes hstored
    (congrArg Prod.fst hlifecycle) (congrArg Prod.snd hlifecycle)).2 _ hfailed
  exact ⟨_, o, env, s, done, a, rest, hfailed, hinterrupted⟩

end Pass

end EnvironmentOperator
