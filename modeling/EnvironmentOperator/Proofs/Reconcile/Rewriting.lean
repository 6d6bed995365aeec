import EnvironmentOperator.Proofs.Reconcile.Foreign
import EnvironmentOperator.Proofs.Reconcile.Frame
import EnvironmentOperator.Proofs.Reconcile.Steady

namespace EnvironmentOperator

open Cluster Environment

section Content

variable {c : Cluster} {o : Object} {env : Environment} {finalizers : List String}

namespace Environment

theorem specContent_toObject (env : Environment) :
    specContent (Manifest.toObject env) = .obj [("spec", encode env.spec)] := by
  simp only [specContent, Manifest.toObject, Manifest.data]
  cases env.status <;> rfl

theorem same_encoded_iff {spec : EnvironmentSpec} {content : Json} :
    Json.Same (.obj [("spec", encode spec)]) content ↔ content = .obj [("spec", encode spec)] := by
  constructor
  · intro h
    -- A cluster compares up to the signs of zeros, and an encoded spec has no reals.
    have hfree : (Json.obj [("spec", encode spec)]).RealFree := ⟨PlainJsonForm.encode_realFree spec, trivial⟩
    exact h.symm.eq hfree
  · rintro rfl
    exact Json.Same.refl _

theorem rewritten_spec : (rewritten c o env finalizers).data.member? "spec" = some (encode env.spec) := by
  refine (carried_data o (Manifest.toObject (env.withFinalizers finalizers)) rfl "spec").trans ?_
  simp [Manifest.toObject, Manifest.data, withFinalizers]

theorem rewritten_generation : (rewritten c o env finalizers).metadata.generation =
    if specContent o = .obj [("spec", encode env.spec)] then o.metadata.generation else grown o.metadata.generation := by
  have hcontent : specContent (carried o (Manifest.toObject (env.withFinalizers finalizers))) =
      .obj [("spec", encode env.spec)] :=
    (specContent_carried o _).trans (specContent_toObject (env.withFinalizers finalizers))
  show (if Json.Same (specContent (carried o (Manifest.toObject (env.withFinalizers finalizers)))) (specContent o)
    then o.metadata.generation else grown o.metadata.generation) = _
  simp only [hcontent, same_encoded_iff]

end Environment

end Content

namespace Pass

variable {settings : Settings} {now : Instant} {ns name : String} {c c' : Cluster} {k : Key} {s : Scope}
  {o o' o'' : Object} {env : Environment}

structure Keeps (o o' : Object) : Prop where
  spec : o'.data.member? "spec" = o.data.member? "spec"
  finalizers : o'.metadata.finalizers = o.metadata.finalizers
  generation : o'.metadata.generation = o.metadata.generation

theorem Keeps.refl (o : Object) : Keeps o o := ⟨rfl, rfl, rfl⟩

def Retains (k : Key) (o : Object) (c : Cluster) : Prop := ∃ o', c.find? k = some o' ∧ Keeps o o'

theorem retains_patchStatus (now : Instant) (a : Address) (patch : Json) (ho : c.find? k = some o) :
    Retains k o (c.answer now (.patchStatus a patch)).2 := by
  rcases answer_snd_cases now c (.patchStatus a patch) with ha | hspent
  · rw [ha]
    by_cases hk : k = a.key
    · subst hk
      simp only [perform, patchStatus, ho]
      split
      · exact ⟨o, ho, .refl o⟩
      · refine ⟨_, (find?_commit_put ..).trans (if_pos rfl), ?_, rfl, rfl⟩
        exact (member?_withStatus ..).trans (if_neg (by decide))
    · exact ⟨o, (find?_perform_of_ne now c (.patchStatus a patch) hk).trans ho, .refl o⟩
  · exact ⟨o, (hspent.find? k).trans ho, .refl o⟩

theorem converge_retains (now : Instant) (env : Environment) (ho : c.find? (keyOf s) = some o) :
    (converge env s now).Along (answerer now) (fun _ _ => True) (fun _ c' => Retains (keyOf s) o c') c := by
  refine Program.along_bind.2 ((foreign_along (only_provisionAll s env.spec Stage.all) now s c).mono
    (fun _ _ h => h) ?_)
  intro r c₁ hsame
  have ho₁ := hsame.trans ho
  cases r with
  | error e => exact ⟨o, ho₁, .refl o⟩
  | ok _ =>
      refine Program.along_bind.2 (Program.along_mapError.2 (Status.along_markReady.2 ⟨trivial, ?_⟩))
      have hpatched := retains_patchStatus now (Environment.address (some s.namespace) s.name)
        (Status.readyPatch env s now) ho₁
      cases hanswer : ((answerer now).answer (.patchStatus (Environment.address (some s.namespace) s.name)
          (Status.readyPatch env s now)) c₁).1 with
      | error e => exact hpatched
      | ok _ => exact hpatched

inductive Handled (o o' : Object) : Prop where
  | kept : Keeps o o' → Handled o o'
  | rewritten {c : Cluster} {env : Environment} {finalizers : List String} : Manifest.ofObject o = .ok env →
      some finalizers ≠ o.metadata.finalizers → Keeps (Environment.rewritten c o env finalizers) o' → Handled o o'

def Handles (k : Key) (o : Object) (c : Cluster) : Prop := ∀ o', c.find? k = some o' → Handled o o'

theorem Retains.handles (h : Retains k o c) : Handles k o c := by
  obtain ⟨o₁, ho₁, hkeeps⟩ := h
  intro o' ho'
  cases ho₁.symm.trans ho'
  exact .kept hkeeps

theorem handles_of_find? (h : c'.find? k = c.find? k) (ho : c.find? k = some o) : Handles k o c' :=
  Retains.handles ⟨o, h.trans ho, .refl o⟩

theorem Retains.rewritten_handles {c₀ : Cluster} {finalizers : List String} (hread : Manifest.ofObject o = .ok env)
    (hchange : some finalizers ≠ o.metadata.finalizers)
    (h : Retains k (Environment.rewritten c₀ o env finalizers) c) : Handles k o c := by
  obtain ⟨o₁, ho₁, hkeeps⟩ := h
  intro o' ho'
  cases ho₁.symm.trans ho'
  exact .rewritten hread hchange hkeeps

theorem release_handles (now : Instant) (hk : c.Kept) (hstored : Stored c (keyOf s) o env)
    (hmarked : env.hasFinalizer = true) :
    (release env s).Along (answerer now) (fun _ _ => True) (fun _ c' => Handles (keyOf s) o c') c := by
  have hkept := Program.Along.of_kept (w := answerer now) (I := Cluster.Kept)
    (fun call _ hc => hc.answer now call) (fun _ _ hc => hc) (Teardown.teardown s) hk
  refine Program.along_bind.2 (Program.along_mapError.2
    (((foreign_along (only_teardown s) now s c).and hkept).mono (fun _ _ _ => trivial) ?_))
  rintro r c₁ ⟨hsame, hk₁⟩
  cases r with
  | error e => exact handles_of_find? hsame hstored.1
  | ok _ =>
      have hstored₁ : Stored c₁ (keyOf s) o env := ⟨hsame.trans hstored.1, hstored.2⟩
      have hchange := unmarking_ne hstored₁ hmarked
      have hreplaced : Handles (keyOf s) o (c₁.answer now (.replace Kind.environment.resource
          (Manifest.toObject env.withoutFinalizer))).2 := by
        -- The last finalizer takes the environment with it, so there is nothing left to say something of.
        rcases answer_snd_cases now c₁
            (.replace Kind.environment.resource (Manifest.toObject env.withoutFinalizer)) with ha | hspent
        · have hreplace := replace_withFinalizers hk₁ hstored₁ hchange
          rw [ha, perform, show env.withoutFinalizer = env.withFinalizers env.unmarking from rfl, hreplace]
          dsimp only
          split
          · intro o' ho'
            cases ((find?_commit_without ..).trans (if_pos rfl)).symm.trans ho'
          · exact Retains.rewritten_handles hstored.2 hchange
              ⟨_, (find?_commit_put ..).trans (if_pos rfl), .refl _⟩
        · exact handles_of_find? ((hspent.find? _).trans hsame) hstored.1
      refine Program.along_bind.2 (Program.along_mapError.2 (Program.along_request_bind.2 ⟨trivial, ?_⟩))
      cases hanswer : ((answerer now).answer (.replace Kind.environment.resource
          (Manifest.toObject env.withoutFinalizer)) c₁).1 with
      | error e => exact hreplaced
      | ok _ => exact hreplaced

theorem work_handles {suffix : String} (now : Instant) (hk : c.Kept) (hstored : Stored c (keyOf s) o env)
    (hscope : Scope.ofEnvironment env suffix = .ok s) :
    (work env s now).Along (answerer now) (fun _ _ => True) (fun _ c' => Handles (keyOf s) o c') c := by
  unfold work lifecycle
  cases hmark : env.metadata.deletionTimestamp with
  | some t =>
      cases hfinalizer : env.hasFinalizer with
      | false => exact handles_of_find? rfl hstored.1
      | true => exact release_handles now hk hstored hfinalizer
  | none =>
      cases hfinalizer : env.hasFinalizer with
      | true => exact (converge_retains now env hstored.1).mono (fun _ _ h => h) fun _ _ h => h.handles
      | false =>
          refine Program.along_bind.2 (Program.along_mapError.2 ?_)
          refine (addFinalizer_along now hk hstored (scope_namespace hscope).1 hfinalizer).mono
            (fun _ _ _ => trivial) ?_
          intro r c₁ h
          cases r with
          | error e => exact handles_of_find? (h.1.find? (keyOf s)) hstored.1
          | ok env₁ =>
              obtain ⟨c₀, -, rfl, -⟩ := h
              have hmarked := (find?_commit_put c₀ (keyOf s) (keyOf s) (marked c₀ o env)).trans (if_pos rfl)
              refine (converge_retains now env₁ hmarked).mono (fun _ _ h => h) ?_
              intro r c' hretains
              exact hretains.rewritten_handles hstored.2 (marking_ne hstored hfinalizer)

theorem run_handles (settings : Settings) (now : Instant) (ns name : String) (hk : c.Kept)
    (ho : c.find? (Environment.address (some ns) name).key = some o) :
    (run settings now ns name).Along (answerer now) (fun _ _ => True)
      (fun _ c' => Handles (Environment.address (some ns) name).key o c') c := by
  refine run_of_work trivial ?_ (fun _ hspent _ => handles_of_find? (hspent.find? _) ho)
    (fun _ _ _ hspent => handles_of_find? (hspent.find? _) ho)
  intro o₀ env s hstored hscope
  have hkey := keyOf_of_stored hk hstored hscope
  cases ho.symm.trans hstored.1
  rw [hkey] at hstored
  exact hkey ▸ work_handles now hk hstored hscope

/-- A pass that leaves the finalizers of an environment alone leaves its spec and its generation alone. One that writes
them writes the spec as it was decoded, with a new generation unless the environment was stored so. -/
theorem spec_rewritten (settings : Settings) (now : Instant) (ns name : String) (h : Reachable c)
    (ho : c.find? (Environment.address (some ns) name).key = some o)
    (ho' : ((run settings now ns name).run (answerer now) c).2.find? (Environment.address (some ns) name).key = some o') :
    (o'.metadata.finalizers = o.metadata.finalizers → o'.data.member? "spec" = o.data.member? "spec" ∧
        o'.metadata.generation = o.metadata.generation) ∧
      (o'.metadata.finalizers ≠ o.metadata.finalizers → ∃ env : Environment, Manifest.ofObject o = .ok env ∧
        o'.data.member? "spec" = some (encode env.spec) ∧ o'.metadata.generation =
          if specContent o = .obj [("spec", encode env.spec)] then o.metadata.generation
          else grown o.metadata.generation) ∧
      ∀ env : Environment, Manifest.ofObject o = .ok env →
        Fields.readGiven (o'.data.member? "spec") = .ok (some env.spec) := by
  cases (run_handles settings now ns name h.kept ho).run o' ho' with
  | kept hkeeps =>
      refine ⟨fun _ => ⟨hkeeps.spec, hkeeps.generation⟩, fun hne => absurd hkeeps.finalizers hne, ?_⟩
      intro env hread
      rw [hkeeps.spec]
      exact (ofObject_eq_ok.1 hread).2.1
  | @rewritten c₀ env finalizers hread hchange hkeeps =>
      have hspec := hkeeps.spec.trans rewritten_spec
      refine ⟨fun heq => absurd (hkeeps.finalizers.symm.trans heq) hchange,
        fun _ => ⟨env, hread, hspec, hkeeps.generation.trans rewritten_generation⟩, ?_⟩
      intro env' hread'
      cases hread.symm.trans hread'
      rw [hspec]
      exact Fields.readGiven_some_encode env.spec

theorem afterPass_alice : ∃ o', (afterPass midnight).find? (Environment.address (some "team") "alice").key = some o' ∧
    o'.metadata.finalizers = some [finalizer] ∧ o'.metadata.generation = some 2 := by
  have hfound : ((afterPass midnight).find? (Environment.address (some "team") "alice").key).map
      (fun o' => (o'.metadata.finalizers, o'.metadata.generation)) = some (some [finalizer], some 2) := by
    with_unfolding_all rfl
  obtain ⟨o', ho', heq⟩ := Option.map_eq_some_iff.1 hfound
  exact ⟨o', ho', congrArg Prod.fst heq, congrArg Prod.snd heq⟩

theorem spec_rewritten_submitted : ∃ o', (afterPass midnight).find? (Environment.address (some "team") "alice").key =
    some o' ∧ o'.data.member? "spec" = some (encode { language := "go" : EnvironmentSpec }) ∧
      o'.metadata.generation = some 2 := by
  obtain ⟨o', ho', hfinalizers, -⟩ := afterPass_alice
  have hstored := @stored_submitted (some "alice") []
  have hchange : o'.metadata.finalizers ≠
      (({} : Cluster).admitted (submission (some "alice") [])).metadata.finalizers := by
    rw [hfinalizers]
    decide
  obtain ⟨env, hread, hspec, hgeneration⟩ :=
    (spec_rewritten {} midnight "team" "alice" reachable_submitted hstored.1 ho').2.1 hchange
  cases hstored.2.symm.trans hread
  exact ⟨o', ho', hspec, hgeneration⟩

/-- A submitted spec that leaves members to their defaults is not what the first pass leaves. -/
theorem rewrites_spec : ¬∀ (settings : Settings) (now : Instant) (ns name : String) (c : Cluster) (o o' : Object),
    Reachable c → c.find? (Environment.address (some ns) name).key = some o →
      ((run settings now ns name).run (answerer now) c).2.find? (Environment.address (some ns) name).key = some o' →
      o'.data.member? "spec" = o.data.member? "spec" ∧ o'.metadata.generation = o.metadata.generation := by
  intro h
  obtain ⟨o', ho', -, hgeneration⟩ := afterPass_alice
  have hstored := @stored_submitted (some "alice") []
  have hsame := (h {} midnight "team" "alice" _ _ o' reachable_submitted hstored.1 ho').2
  rw [hgeneration] at hsame
  revert hsame
  decide

end Pass

end EnvironmentOperator
