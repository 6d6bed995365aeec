import EnvironmentOperator.Cluster.Difference
import EnvironmentOperator.Proofs.Reconcile.Beside
import EnvironmentOperator.Proofs.Reconcile.Isolation
import Mathlib.Data.List.Nodup

namespace EnvironmentOperator

open Cluster Environment Declaration

def Object.unversioned (o : Object) : Object := { o with metadata := { o.metadata with resourceVersion := none } }

/-- The object without its version and, when it is new, without its identity. -/
def Object.erased (before : Option Object) (o : Object) : Object :=
  if before.isSome then o.unversioned else o.unnumbered

def Cluster.erased (before c : Cluster) (k : Key) : Option Object := (c.find? k).map (Object.erased (before.find? k))

theorem Declaration.Made.erased {d : Declaration} {before : Option Object} {o o' : Object} (h : d.Made before o)
    (h' : d.Made before o') : o.erased before = o'.erased before := by
  cases h with
  | created c =>
      cases h' with
      | created c' => rfl
  | left hidle =>
      cases h' with
      | left => rfl
      | revised c' hnext =>
          rw [hidle] at hnext
          cases hnext
  | revised c hnext =>
      cases h' with
      | left hidle =>
          rw [hnext] at hidle
          cases hidle
      | revised c' hnext' =>
          cases hnext.symm.trans hnext'
          rfl

namespace Pass

section Beside

variable {now : Instant} {plan cleared : List Declaration} {busy : Key → Prop} {c₀ c c' : Cluster} {s : Scope}
  {verdict r : Except PassError PassOutcome} {left : Object}

structure Comes (k : Key) (c₀ : Cluster) (cleared : List Declaration) (verdict : Except PassError PassOutcome)
    (left : Object) (r : Except PassError PassOutcome) (c : Cluster) : Prop where
  verdict : r = verdict
  finished : Finished cleared c₀ c
  left : (c.find? k).map Object.unversioned = some left

variable {spec : EnvironmentSpec}

theorem keyOf_ne_declared {d : Declaration} (h : d ∈ Stage.declared s spec) : keyOf s ≠ d.address.key :=
  (ne_keyOf (Stage.kind_of_mem_declared h) s).symm

theorem finished_own {ds : List Declaration} {call : Call} (h : Finished ds c₀ c)
    (hds : ∀ d ∈ ds, d ∈ Stage.declared s spec) (hcall : call.address.key = keyOf s) :
    Finished ds c₀ (c.answer now call).2 where
  kept := h.kept.answer now call
  calm := faults_answer now h.calm call
  made d hd := by
    rw [find?_answer_of_ne now c call (hcall ▸ (keyOf_ne_declared (hds d hd)).symm)]
    exact h.made d hd

theorem markReady_beside {o : Object} {env : Environment} {generation : Int64} (t : Instant)
    (hcleared : ∀ d ∈ cleared, d ∈ Stage.declared s spec) (hfinished : Finished cleared c₀ c)
    (hfind : c.find? (keyOf s) = some o) (hgeneration : env.metadata.generation = some generation) :
    ((Status.markReady env s t).mapError (PassError.status s.name)).Amid (answerer now)
      (Beside (keyOf s) (Stage.declared s spec) busy) (Works (keyOf s) cleared) (fun r c' => r = .ok () ∧
        Finished cleared c₀ c' ∧ (c'.find? (keyOf s)).map Object.unversioned =
          some (Status.reportedAs o.unversioned s.accessUrl (Status.timeText env t) generation none)) c := by
  refine Program.amid_mapError.2 (Program.amid_request.2 fun c₁ hc₁ => ?_)
  have hfinished₁ := hfinished.beside hcleared hc₁
  have hfind₁ : c₁.find? (Environment.address (some s.namespace) s.name).key = some o := hc₁.own.trans hfind
  have hpatch := Status.patchStatus_eq hfind₁ (Status.withStatus_readyPatch hgeneration s t o.data)
  refine ⟨⟨hfinished₁.kept, hfinished₁.calm, .inl rfl⟩, fun c₂ hc₂ => ?_⟩
  have hanswer : (answerer now).answer (.patchStatus (Environment.address (some s.namespace) s.name)
      (Status.readyPatch env s t)) c₁ = (.ok (), Status.afterReport c₁ (keyOf s) o s.accessUrl
        (Status.timeText env t) generation) :=
    (answer_of_faults now hfinished₁.calm _).trans hpatch
  have hfinished₂ : Finished cleared c₀ ((answerer now).answer (.patchStatus
      (Environment.address (some s.namespace) s.name) (Status.readyPatch env s t)) c₁).2 :=
    finished_own hfinished₁ hcleared rfl
  obtain ⟨version, hreported⟩ := Status.find?_afterReport hfind₁ s.accessUrl (Status.timeText env t) generation
  refine ⟨?_, hfinished₂.beside hcleared hc₂, ?_⟩
  · exact congrArg (fun r => (Prod.fst r).mapError (PassError.status s.name)) hanswer
  · have hleft := hc₂.own.trans ((congrArg (fun r => (Prod.snd r).find? (keyOf s)) hanswer).trans hreported)
    exact (congrArg (Option.map Object.unversioned) hleft).trans rfl

structure Intact (k : Key) (o : Object) (plan : List Declaration) (c₀ c : Cluster) : Prop where
  pending : Pending plan c₀ c
  own : c.find? k = some o

theorem Intact.beside {k : Key} {o : Object} (h : Intact k o plan c₀ c) (hc : Beside k plan busy c c') :
    Intact k o plan c₀ c' := ⟨h.pending.beside (fun _ hd => hd) hc, hc.own.trans h.own⟩

/-- Which of its declarations a pass makes, how it ends and what it leaves of its environment is settled before it
begins. -/
def Outlook (now : Instant) (k : Key) (o : Object) (plan : List Declaration) (c₀ : Cluster)
    (p : Program PassError PassOutcome) : Prop :=
  ∃ cleared verdict left, (∀ d ∈ cleared, d ∈ plan) ∧ ∀ busy c, Intact k o plan c₀ c →
    p.Amid (answerer now) (Beside k plan busy) (Works k cleared) (Comes k c₀ cleared verdict left) c

theorem outlook_ofExcept (now : Instant) (k : Key) (o : Object) (c₀ : Cluster) (r : Except PassError PassOutcome) :
    Outlook now k o [] c₀ (Program.ofExcept r) := by
  refine ⟨[], r, o.unversioned, fun _ hd => hd, fun busy c h => Program.amid_ofExcept.2 fun c' hc' => ?_⟩
  have hintact := h.beside hc'
  refine ⟨rfl, ⟨hintact.pending.kept, hintact.pending.calm, by simp⟩, ?_⟩
  rw [hintact.own]
  rfl

/-- The end of the provisioning depends on what a pass reads in its environment. The version is not among it. -/
theorem converge_foretold (now : Instant) (c₀ : Cluster) (s : Scope) (spec : EnvironmentSpec) (z : Object)
    (text : String) (generation : Int64) :
    ∃ cleared verdict left, (∀ d ∈ cleared, d ∈ Stage.declared s spec) ∧ ∀ busy c o env,
      Intact (keyOf s) o (Stage.declared s spec) c₀ c → o.unversioned = z → env.spec = spec →
      env.metadata.generation = some generation → Status.timeText env now = text →
        (converge env s now).Amid (answerer now) (Beside (keyOf s) (Stage.declared s spec) busy)
          (Works (keyOf s) cleared) (Comes (keyOf s) c₀ cleared verdict left) c := by
  have hforetold : Foretold now (keyOf s) (Stage.declared s spec) c₀ (Stage.declared s spec)
      (Stage.provisionAll s spec Stage.all) :=
    foretold_provisionAll (fun _ hd => Stage.lawful_of_mem_declared hd) Stage.all (fun _ hd => hd)
      (Stage.declared_keys_nodup s spec)
  obtain ⟨verdict, cleared, hcleared, hamid⟩ := hforetold
  have hprovision (busy : Key → Prop) (c : Cluster) (o : Object)
      (h : Intact (keyOf s) o (Stage.declared s spec) c₀ c) :=
    (hamid busy c h.pending).kept (I := fun c' => c'.find? (keyOf s) = some o) (fun _ _ hc hi => hc.own.trans hi)
      (fun _ _ hi hmakes => (hmakes.find? now (fun d hd => Stage.lawful_of_mem_declared (hcleared d hd))
        fun d hd => (keyOf_ne_declared (hcleared d hd)).symm).trans hi) (fun _ _ hi => hi) h.own
  cases verdict with
  | error e =>
      refine ⟨cleared, .error e, z, hcleared, ?_⟩
      intro busy c o env h hz hspec _ _
      rw [converge, hspec]
      refine Program.amid_bind (rely_beside ..) ((hprovision busy c o h).mono (fun _ _ hcall => hcall.1.works _) ?_)
      rintro r c' ⟨⟨hverdict, hfinished⟩, hown⟩
      cases r with
      | error e' =>
          cases hverdict
          exact ⟨rfl, hfinished, hown ▸ congrArg some hz⟩
      | ok _ => cases hverdict
  | ok _ =>
      refine ⟨cleared, .ok .converged, Status.reportedAs z s.accessUrl text generation none, hcleared, ?_⟩
      intro busy c o env h hz hspec hgeneration htext
      rw [converge, hspec]
      refine Program.amid_bind (rely_beside ..) ((hprovision busy c o h).mono (fun _ _ hcall => hcall.1.works _) ?_)
      rintro r c' ⟨⟨hverdict, hfinished⟩, hown⟩
      cases r with
      | error e' => cases hverdict
      | ok _ =>
          refine Program.amid_bind (rely_beside ..)
            ((markReady_beside now hcleared hfinished hown hgeneration).mono (fun _ _ h => h) ?_)
          rintro r c₁ ⟨rfl, hfinished₁, hleft⟩
          intro c₂ hc₂
          refine ⟨rfl, hfinished₁.beside hcleared hc₂, ?_⟩
          rw [hc₂.own, hleft, hz, htext]

section Mark

variable {ns : Option String} {name : String} {o : Object} {env : Environment}

theorem addFinalizer_beside (h : Intact (Environment.address ns name).key o plan c₀ c)
    (hread : Manifest.ofObject o = .ok env) (hunmarked : env.hasFinalizer = false)
    (hplan : ∀ d ∈ plan, d.address.key ≠ (Environment.address ns name).key) :
    env.addFinalizer.Amid (answerer now) (Beside (Environment.address ns name).key plan busy)
      (Works (Environment.address ns name).key cleared) (fun r c' => ∃ c₁,
        r = .ok { env with metadata := (marked c₁ o env).metadata.exchanged } ∧
          Intact (Environment.address ns name).key (marked c₁ o env) plan c₀ c') c := by
  refine Program.amid_bind (rely_beside ..) (Program.amid_result.2 (Program.amid_request_bind.2 fun c₁ hc₁ => ?_))
  have h₁ := h.beside hc₁
  have hstored : Stored c₁ (Environment.address ns name).key o env := ⟨h₁.own, hread⟩
  have hreplace := replace_withFinalizer h₁.pending.kept hstored hunmarked
  have hkept := h₁.pending.kept.perform now (.replace Kind.environment.resource (Manifest.toObject env.withFinalizer))
  rw [perform, hreplace] at hkept
  refine ⟨⟨h₁.pending.kept, h₁.pending.calm, .inl (key_withFinalizers env.marking h₁.pending.kept hstored)⟩, ?_⟩
  simp only [answerer, answer_of_faults now h₁.pending.calm, perform, hreplace, Program.amid_ofExcept,
    Environment.marked, typed_of_ok (ofObject_rewritten c₁ env.marking hread)]
  have hintact : Intact (Environment.address ns name).key (marked c₁ o env) plan c₀
      (c₁.commit (Dict.put c₁.objects (Environment.address ns name).key (marked c₁ o env))) := by
    refine ⟨⟨hkept, h₁.pending.calm, fun d hd => ?_⟩, (find?_commit_put ..).trans (if_pos rfl)⟩
    rw [find?_commit_put, if_neg (hplan d hd)]
    exact h₁.pending.joined d hd
  exact fun c₂ hc₂ c₃ hc₃ => ⟨c₁, rfl, (hintact.beside hc₂).beside hc₃⟩

theorem work_foretold (now : Instant) (hk : c₀.Kept) (hstored : Stored c₀ (keyOf s) o env)
    (hlive : env.metadata.deletionTimestamp.isSome = false) :
    Outlook now (keyOf s) o (Stage.declared s env.spec) c₀ (work env s now) := by
  unfold work lifecycle
  rw [hlive]
  cases hmarked : env.hasFinalizer with
  | true =>
      obtain ⟨generation, hgeneration⟩ := Option.isSome_iff_exists.1 (hk _ _ hstored.1).generation
      obtain ⟨cleared, verdict, left, hcleared, hamid⟩ :=
        converge_foretold now c₀ s env.spec o.unversioned (Status.timeText env now) generation
      have hgeneration : env.metadata.generation = some generation := hstored.metadata ▸ hgeneration
      exact ⟨cleared, verdict, left, hcleared, fun busy c h => hamid busy c o env h rfl rfl hgeneration rfl⟩
  | false =>
      have hkept := hk.perform now (.replace Kind.environment.resource (Manifest.toObject env.withFinalizer))
      rw [perform, replace_withFinalizer hk hstored hmarked] at hkept
      obtain ⟨generation, hgeneration⟩ :=
        Option.isSome_iff_exists.1 (hkept (keyOf s) _ ((find?_commit_put ..).trans (if_pos rfl))).generation
      obtain ⟨cleared, verdict, left, hcleared, hamid⟩ :=
        converge_foretold now c₀ s env.spec (marked c₀ o env).unversioned (Status.timeText env now) generation
      refine ⟨cleared, verdict, left, hcleared, fun busy c h => ?_⟩
      refine Program.amid_bind (rely_beside ..) (Program.amid_mapError.2 ?_)
      refine (addFinalizer_beside h hstored.2 hmarked fun d hd => (keyOf_ne_declared hd).symm).mono (fun _ _ h => h) ?_
      rintro r c' ⟨c₁, rfl, hintact⟩
      exact hamid busy c' _ _ hintact rfl rfl hgeneration rfl

theorem Outlook.after_fetch {f : Except StoreError Environment → Program PassError PassOutcome}
    (h : Outlook now (Environment.address ns name).key o plan c₀ (f (o.typed Environment))) :
    Outlook now (Environment.address ns name).key o plan c₀ ((Program.result (fetch ns name)).bind f) := by
  obtain ⟨cleared, verdict, left, hcleared, hamid⟩ := h
  refine ⟨cleared, verdict, left, hcleared, fun busy c h => ?_⟩
  refine Program.amid_bind (rely_beside ..) (Program.amid_result.2 (Program.amid_request_bind.2 fun c₁ hc₁ => ?_))
  have h₁ := h.beside hc₁
  refine ⟨⟨h₁.pending.kept, h₁.pending.calm, .inl rfl⟩, ?_⟩
  simp only [answerer, answer_of_faults now h₁.pending.calm, perform, get_of_find? h₁.own, Program.amid_ofExcept]
  exact fun c₂ hc₂ => hamid busy c₂ (h₁.beside hc₂)

end Mark

end Beside

section Race

variable {settings : Settings} {now : Instant} {ns name ns' name' : String} {c c' c'' : Cluster}
  {plan plan' : List Declaration}

def Live (c : Cluster) (ns name : String) : Prop :=
  ∃ o, c.find? (Environment.address (some ns) name).key = some o ∧ o.metadata.deletionTimestamp = none

def Planned (settings : Settings) (ns name : String) (plan : List Declaration) : Prop :=
  ∀ d ∈ plan, ∃ uid spec, d ∈ Stage.declared { passScope settings ns name with uid } spec

theorem Planned.lawful (h : Planned settings ns name plan) : ∀ d ∈ plan, d.Lawful := by
  intro d hd
  obtain ⟨uid, spec, hdeclared⟩ := h d hd
  exact Stage.lawful_of_mem_declared hdeclared

theorem run_foretold (settings : Settings) (now : Instant) (ns name : String) (hk : c.Kept) (hlive : Live c ns name) :
    ∃ o plan, c.find? (Environment.address (some ns) name).key = some o ∧ Planned settings ns name plan ∧
      Outlook now (Environment.address (some ns) name).key o plan c (run settings now ns name) := by
  obtain ⟨o, hfind, hdeletion⟩ := hlive
  have hidle (r : Except PassError PassOutcome) :=
    outlook_ofExcept now (Environment.address (some ns) name).key o c r
  have hnone : Planned settings ns name [] := fun _ hd => absurd hd List.not_mem_nil
  cases hread : (Manifest.ofObject o : Except DecodeError Environment) with
  | error e =>
      refine ⟨o, [], hfind, hnone, .after_fetch ?_⟩
      rw [Object.typed, hread]
      exact hidle (.error _)
  | ok env =>
      cases hscope : Scope.ofEnvironment env settings.domainSuffix with
      | error member =>
          refine ⟨o, [], hfind, hnone, .after_fetch ?_⟩
          simp only [typed_of_ok hread, hscope]
          exact hidle (.error _)
      | ok s =>
          have hstored : Stored c (Environment.address (some ns) name).key o env := ⟨hfind, hread⟩
          have hkey := keyOf_of_stored hk hstored hscope
          have hs := eq_of_scope hk hstored hscope
          have hlive : env.metadata.deletionTimestamp.isSome = false := by
            rw [hstored.metadata, Metadata.exchanged, hdeletion]
            rfl
          refine ⟨o, Stage.declared s env.spec, hfind, fun d hd => ⟨s.uid, env.spec, hs ▸ hd⟩, .after_fetch ?_⟩
          simp only [typed_of_ok hread, hscope]
          rw [hkey] at hstored ⊢
          exact work_foretold now hk hstored hlive

theorem shared_declaration {s s' : Scope} {spec spec' : EnvironmentSpec} {d d' : Declaration}
    (hd : d ∈ Stage.declared s spec) (hd' : d' ∈ Stage.declared s' spec') (hsuffix : s'.domainSuffix = s.domainSuffix)
    (hother : (s'.namespace, s'.name) ≠ (s.namespace, s.name)) (hkey : d.address.key = d'.address.key) :
    d'.desired = d.desired ∧ d.CreatesOnly ∧ d'.CreatesOnly := by
  have hmeet := Teardown.meet (Stage.mem_managedObjects.2 ⟨d, hd, rfl⟩) (Stage.mem_managedObjects.2 ⟨d', hd', rfl⟩)
    hsuffix hkey
  have hunique {s : Scope} {spec : EnvironmentSpec} {d d' : Declaration} (hd : d ∈ Stage.declared s spec)
      (hd' : d' ∈ Stage.declared s spec) (hkey : d.address.key = d'.address.key) : d = d' :=
    List.inj_on_of_nodup_map (Stage.declared_keys_nodup s spec) hd hd' hkey
  rcases hmeet with ⟨hnamespace, hname⟩ | ⟨haddress, hname⟩ | ⟨haddress, hnamespace⟩
  · exact absurd (Prod.ext hnamespace hname) hother
  · have hd'eq : d' = .createOnly (Desired.dedicatedNamespace s') :=
      hunique hd' (Stage.mem_declared .namespace (List.mem_singleton.2 rfl)) (congrArg Address.key haddress)
    have hdeq : d = .createOnly (Desired.dedicatedNamespace s) :=
      hunique hd (Stage.mem_declared .namespace (List.mem_singleton.2 rfl)) (by
        rw [hkey, haddress, Teardown.dedicated, hname]
        rfl)
    subst hdeq hd'eq
    exact ⟨congrArg (fun name => Manifest.toObject (Desired.dedicatedNamespace ⟨name, "", "", ""⟩)) hname,
      fun _ => rfl, fun _ => rfl⟩
  · have hd'eq : d' = .createOnly (Desired.issuer s') :=
      hunique hd' (Stage.mem_declared .certificate (List.mem_cons_self ..)) (congrArg Address.key haddress)
    have hdeq : d = .createOnly (Desired.issuer s) :=
      hunique hd (Stage.mem_declared .certificate (List.mem_cons_self ..)) (by
        rw [hkey, haddress, Teardown.issuerOf, hnamespace]
        rfl)
    subst hdeq hd'eq
    exact ⟨congrArg (fun ns => Manifest.toObject (Desired.issuer ⟨"", ns, "", ""⟩)) hnamespace,
      fun _ => rfl, fun _ => rfl⟩

theorem Planned.apart (h : Planned settings ns name plan) (h' : Planned settings ns' name' plan')
    (hother : (ns', name') ≠ (ns, name)) : Apart (Environment.address (some ns) name).key plan
      (Environment.address (some ns') name').key plan' where
  own he := hother (Prod.ext (Option.some.inj (congrArg Key.namespace he)).symm (congrArg Key.name he).symm)
  plan_own d hd := by
    obtain ⟨uid, spec, hdeclared⟩ := h d hd
    exact ne_keyOf (Stage.kind_of_mem_declared hdeclared) ⟨name', ns', "", ""⟩
  own_plan d hd := by
    obtain ⟨uid, spec, hdeclared⟩ := h' d hd
    exact ne_keyOf (Stage.kind_of_mem_declared hdeclared) ⟨name, ns, "", ""⟩
  shared d hd d' hd' hkey := by
    obtain ⟨uid, spec, hdeclared⟩ := h d hd
    obtain ⟨uid', spec', hdeclared'⟩ := h' d' hd'
    exact shared_declaration hdeclared hdeclared' rfl hother hkey

theorem Comes.erased {k k' : Key} {cleared : List Declaration} {verdict r r' : Except PassError PassOutcome}
    {left : Object} (h : Comes k c cleared verdict left r c') (h' : Comes k c cleared verdict left r' c'')
    (hfind : (c.find? k).isSome = true) (hbusy : k' = k ∨ ∃ d ∈ cleared, d.address.key = k') :
    c.erased c' k' = c.erased c'' k' := by
  rcases hbusy with rfl | ⟨d, hd, rfl⟩
  · have hunversioned : Object.erased (c.find? k') = Object.unversioned := funext fun o => if_pos hfind
    rw [Cluster.erased, Cluster.erased, hunversioned, h.left, h'.left]
  · obtain ⟨o, ho, hmade⟩ := h.finished.made d hd
    obtain ⟨o', ho', hmade'⟩ := h'.finished.made d hd
    rw [Cluster.erased, Cluster.erased, ho, ho']
    exact congrArg some (hmade.erased hmade')

theorem amid_frame {k : Key} {cleared : List Declaration} {busy : Key → Prop} {p : Program PassError PassOutcome}
    {Q : Except PassError PassOutcome → Cluster → Prop} (hlawful : ∀ d ∈ cleared, d.Lawful)
    (h : p.Amid (answerer now) (Beside k plan busy) (Works k cleared) Q c) :
    p.Amid (answerer now) (Beside k plan busy) (Works k cleared) (fun r c' => Q r c' ∧ ∀ k', ¬busy k' →
      ¬(k' = k ∨ ∃ d ∈ cleared, d.address.key = k') → c'.find? k' = c.find? k') c := by
  have hkept := h.kept (I := fun c' => ∀ k', ¬busy k' → ¬(k' = k ∨ ∃ d ∈ cleared, d.address.key = k') →
      c'.find? k' = c.find? k')
    (fun _ _ hc hi k' hbusy hidle => (hc.idle k' hbusy).trans (hi k' hbusy hidle))
    (fun _ _ hi hworks k' hbusy hidle => (hworks.find? now hlawful hidle).trans (hi k' hbusy hidle))
    (fun _ _ hi => hi) (fun _ _ _ => rfl)
  exact hkept.mono (fun _ _ h => h.1) fun _ _ h => h

def race (settings : Settings) (now : Instant) (ns name ns' name' : String) (turns : List Program.Turn) (c : Cluster) :
    (Except PassError PassOutcome × Except PassError PassOutcome) × Cluster :=
  Program.race (answerer now) turns (run settings now ns name) (run settings now ns' name') c

/-- In whichever order the passes for two live environments make their calls, each ends as it would alone, and the
objects that are left are the same. -/
theorem race_alone (settings : Settings) (now : Instant) (h : Reachable c) (hcalm : c.faults = [])
    (hlive : Live c ns name) (hlive' : Live c ns' name') (hother : (ns', name') ≠ (ns, name)) :
    (∀ turns, (race settings now ns name ns' name' turns c).1 =
      (((run settings now ns name).run (answerer now) c).1, ((run settings now ns' name').run (answerer now) c).1)) ∧
    ∀ turns turns' k, c.erased (race settings now ns name ns' name' turns c).2 k =
      c.erased (race settings now ns name ns' name' turns' c).2 k := by
  obtain ⟨o, plan, hfind, hplanned, cleared, verdict, left, hcleared, hamid⟩ :=
    run_foretold settings now ns name h.kept hlive
  obtain ⟨o', plan', hfind', hplanned', cleared', verdict', left', hcleared', hamid'⟩ :=
    run_foretold settings now ns' name' h.kept hlive'
  have hlawful : ∀ d ∈ cleared, d.Lawful := fun d hd => hplanned.lawful d (hcleared d hd)
  have hlawful' : ∀ d ∈ cleared', d.Lawful := fun d hd => hplanned'.lawful d (hcleared' d hd)
  have hpending (plan : List Declaration) : Pending plan c c := ⟨h.kept, hcalm, fun _ _ => .same _⟩
  have hrace (turns : List Program.Turn) :=
    (amid_frame hlawful (hamid _ c ⟨hpending plan, hfind⟩)).race (hamid' _ c ⟨hpending plan', hfind'⟩)
      (rely_beside ..) (rely_beside ..) ((hplanned.apart hplanned' hother).allowed now hlawful hcleared)
      ((hplanned'.apart hplanned hother.symm).allowed now hlawful' hcleared') turns
  have halone :=
    ((hamid (fun _ => False) c ⟨hpending plan, hfind⟩).run (rely_beside ..) _ ((rely_beside ..).refl _)).verdict
  have halone' :=
    ((hamid' (fun _ => False) c ⟨hpending plan', hfind'⟩).run (rely_beside ..) _ ((rely_beside ..).refl _)).verdict
  constructor
  · intro turns
    obtain ⟨⟨hcomes, -⟩, hcomes'⟩ := hrace turns
    exact Prod.ext (hcomes.verdict.trans halone.symm) (hcomes'.verdict.trans halone'.symm)
  · intro turns turns' k
    obtain ⟨⟨hcomes₁, hothers₁⟩, hcomes₁'⟩ := hrace turns
    obtain ⟨⟨hcomes₂, hothers₂⟩, hcomes₂'⟩ := hrace turns'
    by_cases hbusy : k = (Environment.address (some ns) name).key ∨ ∃ d ∈ cleared, d.address.key = k
    · exact hcomes₁.erased hcomes₂ (Option.isSome_of_eq_some hfind) hbusy
    by_cases hbusy' : k = (Environment.address (some ns') name').key ∨ ∃ d ∈ cleared', d.address.key = k
    · exact hcomes₁'.erased hcomes₂' (Option.isSome_of_eq_some hfind') hbusy'
    have hidle₁ := hothers₁ k hbusy' hbusy
    have hidle₂ := hothers₂ k hbusy' hbusy
    exact congrArg (Option.map (Object.erased (c.find? k))) (hidle₁.trans hidle₂.symm)

def twins : Cluster := (answer midnight (submitted (some "alice") []) (.create Kind.environment.resource namesake)).2

theorem race_alone_twins :
    (∀ turns, (race {} midnight "team" "alice" "other" "alice" turns twins).1 = (.ok .converged, .ok .converged)) ∧
    ∀ turns turns' k, twins.erased (race {} midnight "team" "alice" "other" "alice" turns twins).2 k =
      twins.erased (race {} midnight "team" "alice" "other" "alice" turns' twins).2 k := by
  have hreachable : Reachable twins := .answer _ _ reachable_submitted
  have hlive : Live twins "team" "alice" := ⟨_, by with_unfolding_all rfl, rfl⟩
  have hlive' : Live twins "other" "alice" := ⟨_, by with_unfolding_all rfl, rfl⟩
  obtain ⟨hresults, hobjects⟩ := race_alone {} midnight hreachable rfl hlive hlive' (by decide)
  refine ⟨fun turns => (hresults turns).trans ?_, hobjects⟩
  with_unfolding_all rfl

end Race

end Pass

end EnvironmentOperator
