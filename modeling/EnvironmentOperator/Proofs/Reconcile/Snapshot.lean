import EnvironmentOperator.Proofs.Reconcile.Aside
import EnvironmentOperator.Proofs.Reconcile.Convergence
import EnvironmentOperator.Proofs.Reconcile.Preparation

namespace EnvironmentOperator

open Cluster Environment Scene Exchange

namespace Pass

section Converge

variable {scope : Scope} {spec : EnvironmentSpec} {env : Environment} {act : Call → Scene → Scene} {k : Key}
  {c c' : Cluster} {s : Scene} {generation : Int64}

def labelledUid (x : ConfigMap) : Option String := x.metadata.labels.bind (·.at? "developer-env-uid")

theorem labelledUid_toolsConfigMap (scope : Scope) (spec : EnvironmentSpec) :
    labelledUid (Desired.toolsConfigMap scope spec) = some scope.uid := by
  simp [labelledUid, Desired.toolsConfigMap, Named.at?, Named.ofList, Dict.ofList, Dict.at?_put]

def toolsAddress (ns name : String) : Address := .ofKind .configMap (some ns) (Names.toolsConfigMap name)

def Tooled (scope : Scope) (spec : EnvironmentSpec) (c : Cluster) : Prop :=
  ∃ x, c.read? ConfigMap (toolsAddress scope.namespace scope.name) = some x ∧
    x.data = some (.ofList [(Desired.scriptKey, Script.render spec)]) ∧ labelledUid x = some scope.uid

theorem tooled_of_built (h : Stage.Built k (Stage.declared scope spec) c c') : Tooled scope spec c' := by
  have htools : .overwrite Overlay.configMap (Desired.toolsConfigMap scope spec) ∈ Stage.declared scope spec :=
    Stage.mem_declared .tooling (by simp [Stage.declarations])
  obtain ⟨o, ho, hmade⟩ := h.made _ htools
  obtain ⟨live, m, -, hread, hlabels⟩ := Declaration.read_overwritten (Overlay.settles_configMap _) hmade
  refine ⟨_, read?_of_find? ho hread, ?_, ?_⟩
  · cases live <;> rfl
  · refine Eq.trans ?_ (labelledUid_toolsConfigMap scope spec)
    show m.labels.bind _ = _
    rw [hlabels]
    cases live <;> rfl

theorem Tooled.of_find? (h : Tooled scope spec c)
    (hsame : ∀ k, k ≠ keyOf scope → c'.find? k = c.find? k) : Tooled scope spec c' := by
  have hne : (toolsAddress scope.namespace scope.name).key ≠ keyOf scope :=
    ne_keyOf (kind_ofKind_ne (k := .configMap) (by decide) _ _) scope
  rw [Tooled, read?, hsame _ hne]
  exact h

def Observed (k : Key) (generation : Int64) (c : Cluster) : Prop :=
  ∃ live, c.find? k = some live ∧
    Dict.at? (Status.statusFields live.data) "observedGeneration" = some (encode generation)

def Reported (scope : Scope) (env : Environment) (generation : Int64) {ε α : Type} (r : Except ε α) (s : Scene) : Prop :=
  match r with
  | .ok _ => Tooled scope env.spec s.cluster ∧ Observed (keyOf scope) generation s.cluster
  | .error _ => True

theorem reported_of_patch {now t : Instant} (hgeneration : env.metadata.generation = some generation)
    (htooled : Tooled scope env.spec c)
    (hpatch : c.answer t (.patchStatus (Environment.address (some scope.namespace) scope.name)
      (Status.readyPatch env scope now)) = (.ok (), c')) :
    Tooled scope env.spec c' ∧ Observed (keyOf scope) generation c' := by
  have ha := answer_of_ok (congrArg Prod.fst hpatch)
  rw [hpatch, perform] at ha
  cases hfind : c.find? (Environment.address (some scope.namespace) scope.name).key with
  | none =>
      rw [patchStatus, hfind] at ha
      cases ha
  | some live =>
      rw [Status.patchStatus_eq hfind (Status.withStatus_readyPatch hgeneration scope now live.data)] at ha
      cases ha
      constructor
      · exact htooled.of_find? fun k hne => Status.find?_afterReport_of_ne hne ..
      · obtain ⟨version, hlive⟩ := Status.find?_afterReport hfind scope.accessUrl (Status.timeText env now) generation
        refine ⟨_, hlive, ?_⟩
        rw [Status.reportedAs, Status.statusFields_reported, Status.at?_stamped]
        rfl

theorem markReady_meddled (now : Instant) (hact : ∀ call s, Meddled (keyOf scope) s (act call s))
    (hgeneration : env.metadata.generation = some generation) (htooled : Tooled scope env.spec s.cluster) :
    (Status.markReady env scope now).Along (Scene.answerer.disturbed act) (fun _ _ => True)
      (Reported scope env generation) s := by
  refine Status.along_markReady.2 ⟨trivial, ?_⟩
  have hs₁ := hact (.patchStatus (Environment.address (some scope.namespace) scope.name)
    (Status.readyPatch env scope now)) s
  simp only [Answerer.disturbed, Scene.answerer]
  generalize act _ s = s₁ at hs₁ ⊢
  cases hpatch : s₁.cluster.answer s₁.now (.patchStatus (Environment.address (some scope.namespace) scope.name)
    (Status.readyPatch env scope now)) with
  | mk r c =>
      cases r with
      | error e => trivial
      | ok _ => exact reported_of_patch hgeneration (htooled.of_find? hs₁.others) hpatch

theorem converge_meddled (now : Instant) (hact : ∀ call s, Meddled (keyOf scope) s (act call s))
    (hk : s.cluster.Kept) (hgeneration : env.metadata.generation = some generation) :
    (converge env scope now).Along (Scene.answerer.disturbed act) (fun _ _ => True)
      (Reported scope env generation) s := by
  have hprovision := (Stage.provisionAll_amid Stage.all
    (fun _ hd => ne_keyOf (Stage.kind_of_mem_declared hd) scope) (Stage.declared_keys_nodup scope env.spec) hk).along
      (rely_meddled _) act hact
  refine Program.along_bind.2 (hprovision.mono (fun _ _ h => h) ?_)
  intro r s₁ h
  cases r with
  | error e => trivial
  | ok _ =>
      refine Program.along_bind.2 (Program.along_mapError.2 ?_)
      refine (markReady_meddled now hact hgeneration (tooled_of_built h)).mono (fun _ _ h => h) ?_
      intro r s' h
      cases r with
      | error e => trivial
      | ok _ => exact h

theorem release_finalizes {σ : Type} (w : Answerer σ) (env : Environment) (scope : Scope) (s : σ) :
    (release env scope).Along w (fun _ _ => True) (fun r _ => r ≠ .ok .converged) s := by
  have hany {ε α : Type} (p : Program ε α) (s : σ) : p.Along w (fun _ _ => True) (fun _ _ => True) s :=
    .of_kept (fun _ _ h => h) (fun _ _ h => h) p trivial
  refine Program.along_bind.2 ((hany _ s).mono (fun _ _ h => h) ?_)
  intro r s₁ _
  cases r with
  | error e => nofun
  | ok _ =>
      refine Program.along_bind.2 ((hany _ s₁).mono (fun _ _ h => h) ?_)
      intro r s₂ _
      cases r with
      | error e => nofun
      | ok _ => nofun

end Converge

section Assemble

variable {settings : Settings} {c : Cluster} {t : Instant} {ns name : String} {act : Call → Scene → Scene}
  {s' : Scene}

structure Assembled (ns name : String) (env : Environment) (x : ConfigMap) (s₁ s' : Scene) : Prop where
  version : ∃ o, Had (Meddled (Environment.address (some ns) name).key) (Environment.address (some ns) name).key
    (looks s₁.history) o env s₁
  tools : s'.cluster.read? ConfigMap (toolsAddress ns name) = some x
  rendered : x.data = some (.ofList [(Desired.scriptKey, Script.render env.spec)])
  observed : ∃ generation, env.metadata.generation = some generation ∧
    Observed (Environment.address (some ns) name).key generation s'.cluster

theorem provides_of_converged (h : Reachable c)
    (hact : ∀ call s, Meddled (Environment.address (some ns) name).key s (act call s))
    (hrun : (run settings t ns name).run (Scene.answerer.disturbed act) ⟨c, t, []⟩ = (.ok .converged, s')) :
    ∃ env scope s₁,
      (prepare settings ns name).run (Scene.answerer.disturbed act) ⟨c, t, []⟩ = (.ok (.provision env scope), s₁) ∧
        keyOf scope = (Environment.address (some ns) name).key ∧
        Equipped (Meddled (Environment.address (some ns) name).key) (Environment.address (some ns) name).key scope env
          s₁ ∧
        (converge env scope t).run (Scene.answerer.disturbed act) s₁ = (.ok .converged, s') := by
  have hprepared := ((prepare_amid (rely_meddled _) (fun _ _ hs => hs.lapse) settings ns name (s := ⟨c, t, []⟩)
    h.kept rfl).along (rely_meddled _) act hact).run
  rw [run_prepares, Program.run_bind] at hrun
  cases hprepare : (prepare settings ns name).run (Scene.answerer.disturbed act) ⟨c, t, []⟩ with
  | mk r s₁ =>
      rw [hprepare] at hprepared hrun
      cases r with
      | error e => cases hrun
      | ok decision =>
          cases decision with
          | stop outcome =>
              cases hprepared
              cases hrun
          | tearDown env scope =>
              -- A pass that tears down ends well only as finalized.
              have hends := (release_finalizes (Scene.answerer.disturbed act) env scope s₁).run
              exact absurd (congrArg Prod.fst hrun) hends
          | provision env scope => exact ⟨env, scope, s₁, rfl, hprepared.1, hprepared.2, hrun⟩

theorem assembled {env : Environment} {scope : Scope} {s₁ : Scene}
    (hact : ∀ call s, Meddled (Environment.address (some ns) name).key s (act call s))
    (hkey : keyOf scope = (Environment.address (some ns) name).key)
    (hready : Equipped (Meddled (Environment.address (some ns) name).key) (Environment.address (some ns) name).key
      scope env s₁)
    (hrun : (converge env scope t).run (Scene.answerer.disturbed act) s₁ = (.ok .converged, s')) :
    ∃ x, Assembled ns name env x s₁ s' ∧ labelledUid x = some scope.uid := by
  obtain ⟨o, hhad⟩ := hready.had
  obtain ⟨generation, hgeneration⟩ := hhad.generation
  have hkept := hhad.kept fun _ _ hs => hs.lapse
  have hreported := (converge_meddled t (hkey ▸ hact) hkept hgeneration).run
  rw [hrun] at hreported
  obtain ⟨⟨x, hread, hrendered, hlabel⟩, hobserved⟩ := hreported
  obtain rfl : scope.namespace = ns := Option.some.inj (congrArg Key.namespace hkey)
  obtain rfl : scope.name = name := congrArg Key.name hkey
  exact ⟨x, ⟨⟨o, hhad⟩, hread, hrendered, generation, hgeneration, hobserved⟩, hlabel⟩

/-- Whatever others make of the environment while a pass that converges goes on, the script in the tools and the
generation in the status are those of one version of it. The label bears the uid of the first look, which is the uid of
that version exactly when the last look has shown the same one. -/
theorem assembled_of_converged (settings : Settings) (h : Reachable c) (t : Instant) (ns name : String)
    (hact : ∀ call s, Meddled (Environment.address (some ns) name).key s (act call s))
    (hrun : (run settings t ns name).run (Scene.answerer.disturbed act) ⟨c, t, []⟩ = (.ok .converged, s')) :
    ∃ env scope s₁ x first last,
      (prepare settings ns name).run (Scene.answerer.disturbed act) ⟨c, t, []⟩ = (.ok (.provision env scope), s₁) ∧
        Assembled ns name env x s₁ s' ∧ (looks s₁.history).head? = some first ∧
        (looks s₁.history).getLast? = some last ∧ labelledUid x = some (first.metadata.uid.getD "") ∧
        (labelledUid x = some (env.metadata.uid.getD "") ↔ first.metadata.uid.getD "" = last.metadata.uid.getD "") := by
  obtain ⟨env, scope, s₁, hprepare, hkey, hready, hconverge⟩ := provides_of_converged h hact hrun
  obtain ⟨x, hassembled, hlabel⟩ := assembled hact hkey hready hconverge
  obtain ⟨first, hfirst, huid⟩ := hready.first
  obtain ⟨last, hlast, hsame⟩ := hready.last
  refine ⟨env, scope, s₁, x, first, last, hprepare, hassembled, hfirst, hlast, hlabel.trans (congrArg some huid), ?_⟩
  rw [hlabel, huid, hsame, Option.some_inj]

def recreate (call : Call) (s : Scene) : Scene :=
  match call.verb, s.history with
  | .replace, [_] =>
      let deleted := (s.cluster.answer midnight (.delete (Environment.address (some "team") "alice"))).2
      { s with cluster :=
          (deleted.answer midnight (.create Kind.environment.resource (submission (some "alice") []))).2 }
  | _, _ => s

theorem meddled_recreate (call : Call) (s : Scene) :
    Meddled (Environment.address (some "team") "alice").key s (recreate call s) := by
  unfold recreate
  split
  · refine ⟨⟨?_, rfl⟩, ?_⟩
    · refine .tail (.single ⟨midnight, .delete (Environment.address (some "team") "alice"), rfl⟩) ?_
      exact ⟨midnight, .create Kind.environment.resource (submission (some "alice") []), rfl⟩
    · intro k hne
      exact (find?_answer_of_ne midnight _ _ hne).trans (find?_answer_of_ne midnight _ _ hne)
  · exact (rely_meddled _).refl s

theorem converged_recreate : ∃ s', (run {} midnight "team" "alice").run (Scene.answerer.disturbed recreate)
    ⟨submitted (some "alice") [], midnight, []⟩ = (.ok .converged, s') := by
  have hconverged : ((run {} midnight "team" "alice").run (Scene.answerer.disturbed recreate)
      ⟨submitted (some "alice") [], midnight, []⟩).1 = .ok .converged := by
    with_unfolding_all rfl
  exact ⟨_, Prod.ext hconverged rfl⟩

theorem assembled_of_converged_recreate : ∃ (env : Environment) (scope : Scope) (s₁ : Scene) (x : ConfigMap)
    (first last : Object) (s' : Scene),
    (prepare {} "team" "alice").run (Scene.answerer.disturbed recreate)
        ⟨submitted (some "alice") [], midnight, []⟩ = (.ok (.provision env scope), s₁) ∧
      Assembled "team" "alice" env x s₁ s' ∧ labelledUid x = some (first.metadata.uid.getD "") ∧
      (labelledUid x = some (env.metadata.uid.getD "") ↔ first.metadata.uid.getD "" = last.metadata.uid.getD "") := by
  obtain ⟨s', hrun⟩ := converged_recreate
  obtain ⟨env, scope, s₁, x, first, last, hprepare, hassembled, -, -, hlabel, hiff⟩ :=
    assembled_of_converged {} reachable_submitted midnight "team" "alice" meddled_recreate hrun
  exact ⟨env, scope, s₁, x, first, last, s', hprepare, hassembled, hlabel, hiff⟩

def Decision.uids : Decision → Option (String × Option String)
  | .provision env scope => some (scope.uid, env.metadata.uid)
  | _ => none

theorem uids_recreate : ((prepare {} "team" "alice").run (Scene.answerer.disturbed recreate)
    ⟨submitted (some "alice") [], midnight, []⟩).1.toOption.bind Decision.uids = some ("uid-1", some "uid-2") := by
  with_unfolding_all rfl

/-- The tools of an environment that has been submitted anew bear the uid of the one that is gone. -/
theorem labels_former_uid : ¬∀ (settings : Settings) (c : Cluster) (t : Instant) (ns name : String)
    (act : Call → Scene → Scene) (env : Environment) (scope : Scope) (x : ConfigMap) (s₁ s' : Scene), Reachable c →
      (∀ call s, Meddled (Environment.address (some ns) name).key s (act call s)) →
      (prepare settings ns name).run (Scene.answerer.disturbed act) ⟨c, t, []⟩ = (.ok (.provision env scope), s₁) →
      (run settings t ns name).run (Scene.answerer.disturbed act) ⟨c, t, []⟩ = (.ok .converged, s') →
      s'.cluster.read? ConfigMap (toolsAddress ns name) = some x →
      labelledUid x = some (env.metadata.uid.getD "") := by
  intro h
  obtain ⟨s', hrun⟩ := converged_recreate
  obtain ⟨env, scope, s₁, hprepare, hkey, hready, hconverge⟩ :=
    provides_of_converged reachable_submitted meddled_recreate hrun
  obtain ⟨x, hassembled, hlabel⟩ := assembled meddled_recreate hkey hready hconverge
  have huids := uids_recreate
  rw [hprepare] at huids
  obtain ⟨hformer, hcurrent⟩ := Prod.mk.inj (Option.some.inj huids)
  have hexpected := h {} _ midnight "team" "alice" recreate env scope x s₁ s' reachable_submitted meddled_recreate
    hprepare hrun hassembled.tools
  rw [hlabel, hformer, hcurrent] at hexpected
  exact absurd hexpected (by decide)

end Assemble

end Pass

end EnvironmentOperator
