import EnvironmentOperator.Proofs.Reconcile.Provision
import EnvironmentOperator.Proofs.Reconcile.Status
import EnvironmentOperator.Proofs.Reconcile.Teardown
import EnvironmentOperator.Reconcile.Pass
/-!
A whole pass: the calls it may make and the state in which each is made, and what each outcome says of the cluster that
is left.
-/
namespace EnvironmentOperator

open Cluster Environment

theorem kind_ofKind_ne {k : Kind} (h : k ≠ .environment) (ns : Option String) (name : String) :
    (Address.ofKind k ns name).key.kind ≠ Kind.environment.name := fun he => h (Kind.name_injective he)

theorem Teardown.kind_of_mem_managedObjects {s : Scope} {a : Address} (h : a ∈ managedObjects s) :
    a.key.kind ≠ Kind.environment.name := by
  simp only [managedObjects, List.mem_cons, List.not_mem_nil, or_false] at h
  rcases h with rfl | rfl | rfl | rfl | rfl | rfl | rfl | rfl | rfl | rfl | rfl | rfl <;>
    exact kind_ofKind_ne (by decide) _ _

theorem Stage.kind_of_mem_declared {s : Scope} {spec : EnvironmentSpec} {d : Declaration} (h : d ∈ declared s spec) :
    d.kind.name ≠ Kind.environment.name :=
  Teardown.kind_of_mem_managedObjects (mem_managedObjects.2 ⟨d, h, rfl⟩)

theorem Declaration.Tends.kind {d : Declaration} {c : Cluster} {call : Call} (h : d.Tends c call) :
    call.address.key.kind = d.kind.name := by
  cases h <;> rfl

theorem find?_environment_of_kind_ne (now : Instant) (c : Cluster) {call : Call} {ns : Option String} {name : String}
    (h : call.address.key.kind ≠ Kind.environment.name) :
    (c.answer now call).2.find? (Environment.address ns name).key = c.find? (Environment.address ns name).key :=
  find?_answer_of_ne now c call fun he => h (congrArg Key.kind he).symm

namespace Pass

inductive Licit (suffix : String) (c : Cluster) : Call → Prop where
  | look (a : Address) : Licit suffix c (.get a)
  | mark {ns : Option String} {name : String} {o : Object} {env : Environment} :
      Stored c (Environment.address ns name).key o env → env.hasFinalizer = false →
      Licit suffix c (.replace Kind.environment.resource (Manifest.toObject env.withFinalizer))
  | tend {ns : Option String} {name : String} {o : Object} {env : Environment} {s : Scope} {d : Declaration}
      {call : Call} : Stored c (Environment.address ns name).key o env → env.hasFinalizer = true →
      Scope.ofEnvironment env suffix = .ok s → d ∈ Stage.declared s env.spec → d.Tends c call → Licit suffix c call
  | report (ns : Option String) (name : String) (patch : Json) :
      Licit suffix c (.patchStatus (Environment.address ns name) patch)
  | clear {s : Scope} {a : Address} : a ∈ Teardown.managedObjects s → Licit suffix c (.delete a)
  | release {ns : Option String} {name : String} {o : Object} {env : Environment} {s : Scope} :
      Stored c (Environment.address ns name).key o env → Scope.ofEnvironment env suffix = .ok s →
      (∀ a ∈ Teardown.managedObjects s, ∀ left, c.find? a.key = some left → left.metadata.hasFinalizers = true) →
      Licit suffix c (.replace Kind.environment.resource (Manifest.toObject env.withoutFinalizer))

theorem scope_namespace {env : Environment} {suffix : String} {s : Scope} (h : Scope.ofEnvironment env suffix = .ok s) :
    env.metadata.name = some s.name ∧ env.metadata.namespace = some s.namespace := by
  unfold Scope.ofEnvironment at h
  split at h
  · cases h
  · cases h
  · rename_i hname hnamespace
    cases h
    exact ⟨hname, hnamespace⟩

theorem scope_uid {env : Environment} {suffix : String} {s : Scope} (h : Scope.ofEnvironment env suffix = .ok s) :
    s.uid = env.metadata.uid.getD "" := by
  unfold Scope.ofEnvironment at h
  split at h
  · cases h
  · cases h
  · cases h
    rfl

section Converge

variable {suffix : String} {c : Cluster} {s : Scope} {o : Object} {env : Environment}

def keyOf (s : Scope) : Key := (Environment.address (some s.namespace) s.name).key

theorem ne_keyOf {k : Key} (h : k.kind ≠ Kind.environment.name) (s : Scope) : k ≠ keyOf s :=
  fun he => h (congrArg Key.kind he)

theorem provision_along (now : Instant) (hk : c.Kept) (hstored : Stored c (keyOf s) o env)
    (hmarked : env.hasFinalizer = true) (hscope : Scope.ofEnvironment env suffix = .ok s) :
    (Stage.provisionAll s env.spec Stage.all).Along (answerer now) (fun call c' => Licit suffix c' call)
      (fun r c' => match r with
        | .ok _ => Stage.Provisioned (Stage.declared s env.spec) c c'
        | .error _ => ∃ d ∈ Stage.declared s env.spec, d.Hindered c) c := by
  have hprovision := Stage.provisionAll_along now Stage.all (Stage.declared_keys_nodup s env.spec) hk
  have hkept := hprovision.kept (I := fun c' => Stored c' (keyOf s) o env)
    (fun call c' hs ⟨d, hd, htends⟩ => by
      refine ⟨(find?_environment_of_kind_ne now c' ?_).trans hs.1, hs.2⟩
      rw [htends.kind]
      exact Stage.kind_of_mem_declared hd)
    (fun _ _ hs => hs) hstored
  exact (hprovision.and hkept).mono
    (fun _ _ ⟨⟨d, hd, htends⟩, hs⟩ => .tend hs hmarked hscope hd htends) fun _ _ h => h.1

structure Reached (t : Instant) (s : Scope) (o : Object) (env : Environment) (c c₂ c' : Cluster) : Prop where
  provisioned : Stage.Provisioned (Stage.declared s env.spec) c c₂
  calm : c₂.Calm (.patchStatus (Environment.address (some s.namespace) s.name) (Status.readyPatch env s t))
  reported : ∃ generation, o.metadata.generation = some generation ∧
    c' = Status.afterReport c₂ (keyOf s) o s.accessUrl (Status.timeText env t) generation

theorem converge_along (now : Instant) (hk : c.Kept) (hstored : Stored c (keyOf s) o env)
    (hmarked : env.hasFinalizer = true) (hscope : Scope.ofEnvironment env suffix = .ok s) :
    (converge env s now).Along (answerer now) (fun call c' => Licit suffix c' call)
      (fun r c' => match r with
        | .ok outcome => outcome = .converged ∧ ∃ c₂, Reached now s o env c c₂ c'
        | .error _ => c.faults ≠ [] ∨ ∃ d ∈ Stage.declared s env.spec, d.Hindered c) c := by
  obtain ⟨generation, hgeneration⟩ := Option.isSome_iff_exists.1 (hk _ _ hstored.1).generation
  have henv : env.metadata.generation = some generation := by
    rw [hstored.metadata]
    exact hgeneration
  refine Program.along_bind.2 ((provision_along now hk hstored hmarked hscope).mono (fun _ _ h => h) ?_)
  intro r c₂ h
  cases r with
  | error e => exact .inr h
  | ok _ =>
      have hfind : c₂.find? (keyOf s) = some o :=
        (h.others _ fun d hd => (ne_keyOf (Stage.kind_of_mem_declared hd) s).symm).trans hstored.1
      refine Program.along_bind.2 (Program.along_mapError.2 ?_)
      refine (Status.markReady_along now now hfind henv).mono ?_ ?_
      · intro call c' hcall
        rw [hcall.2]
        exact .report _ _ _
      · intro r c' hreport
        cases r with
        | ok _ => exact ⟨rfl, c₂, h, hreport.1, generation, hgeneration, hreport.2⟩
        | error e =>
            exact .inl fun hnil => hreport (calm_of_nil (faults_eq_nil h.faults hnil) _)

end Converge

section Release

variable {suffix : String} {c : Cluster} {s : Scope} {o : Object} {env : Environment}

def Released (s : Scope) (c c' : Cluster) : Prop :=
  ∃ c₁, Teardown.TornDown (Teardown.managedObjects s) c c₁ ∧ ∀ k, k ≠ keyOf s → c'.find? k = c₁.find? k

theorem key_withoutFinalizer (hk : c.Kept) (hstored : Stored c (keyOf s) o env) :
    (Call.addressOf Kind.environment.resource (Manifest.toObject env.withoutFinalizer)).key = keyOf s :=
  key_withFinalizers env.unmarking hk hstored

theorem release_along (now : Instant) (hk : c.Kept) (hstored : Stored c (keyOf s) o env)
    (hscope : Scope.ofEnvironment env suffix = .ok s) :
    (release env s).Along (answerer now) (fun call c' => Licit suffix c' call)
      (fun r c' => match r with
        | .ok outcome => outcome = .finalized ∧ Released s c c'
        | .error _ => True) c := by
  refine Program.along_bind.2 (Program.along_mapError.2 ?_)
  refine (Teardown.deleteAll_along now (Teardown.managedObjects s) hk).mono
    (fun _ _ ⟨a, ha, hcall⟩ => hcall ▸ .clear ha) ?_
  intro r c₁ h
  cases r with
  | error e => trivial
  | ok _ =>
      have hothers := h.others (keyOf s) fun a ha => (ne_keyOf (Teardown.kind_of_mem_managedObjects ha) s).symm
      have hstored₁ : Stored c₁ (keyOf s) o env := ⟨hothers.trans hstored.1, hstored.2⟩
      refine Program.along_bind.2 (Program.along_mapError.2 ?_)
      refine Program.along_request_bind.2 ⟨.release hstored₁ hscope h.left, ?_⟩
      have hrest : ∀ k, k ≠ keyOf s → ((answerer now).answer (.replace Kind.environment.resource
          (Manifest.toObject env.withoutFinalizer)) c₁).2.find? k = c₁.find? k := fun k hne =>
        find?_answer_of_ne now c₁ _ (by
          show k ≠ (Call.addressOf Kind.environment.resource (Manifest.toObject env.withoutFinalizer)).key
          rw [key_withoutFinalizer h.kept hstored₁]
          exact hne)
      cases hanswer : (answerer now).answer (.replace Kind.environment.resource
          (Manifest.toObject env.withoutFinalizer)) c₁ with
      | mk r c₂ =>
          rw [hanswer] at hrest
          cases r with
          | ok _ => exact ⟨rfl, c₁, h, hrest⟩
          | error e => trivial

end Release

section Run

variable {suffix : String} {k : Key} {c c₁ c' : Cluster} {s : Scope} {o o₁ : Object} {env env₁ : Environment}

inductive Marks (k : Key) (c : Cluster) (o : Object) (env : Environment) : Cluster → Object → Environment → Prop where
  | already : env.hasFinalizer = true → Marks k c o env c o env
  | put {c₀ : Cluster} : env.hasFinalizer = false → Spent c c₀ →
      Marks k c o env (c₀.commit (Dict.put c₀.objects k (marked c₀ o env))) (marked c₀ o env)
        { env with metadata := (marked c₀ o env).metadata.exchanged }

theorem Marks.stored (h : Marks k c o env c₁ o₁ env₁) (hstored : Stored c k o env) : Stored c₁ k o₁ env₁ := by
  cases h with
  | already => exact hstored
  | @put c₀ hunmarked hspent =>
      exact ⟨(find?_commit_put ..).trans (if_pos rfl), ofObject_rewritten c₀ env.marking hstored.2⟩

theorem Marks.marked (h : Marks k c o env c₁ o₁ env₁) : env₁.hasFinalizer = true := by
  cases h with
  | already hmarked => exact hmarked
  | put =>
      simp [hasFinalizer, Metadata.finalizerList, Metadata.exchanged, Environment.marked, rewritten_finalizers, marking]

theorem Marks.others (h : Marks k c o env c₁ o₁ env₁) {k' : Key} (hne : k' ≠ k) : c₁.find? k' = c.find? k' := by
  cases h with
  | already => rfl
  | put hunmarked hspent => exact (find?_commit_put ..).trans ((if_neg hne).trans (hspent.find? k'))

theorem Marks.faults (h : Marks k c o env c₁ o₁ env₁) : c₁.faults.Sublist c.faults := by
  cases h with
  | already => exact List.Sublist.refl _
  | put hunmarked hspent => exact hspent.faults

theorem Marks.spec (h : Marks k c o env c₁ o₁ env₁) : env₁.spec = env.spec := by
  cases h <;> rfl

theorem Marks.status (h : Marks k c o env c₁ o₁ env₁) : env₁.status = env.status := by
  cases h <;> rfl

theorem Marks.scope (suffix : String) (h : Marks k c o env c₁ o₁ env₁) (hstored : Stored c k o env) :
    Scope.ofEnvironment env₁ suffix = Scope.ofEnvironment env suffix := by
  cases h with
  | already => rfl
  | @put c₀ hunmarked hspent =>
      have hname : (Environment.marked c₀ o env).metadata.exchanged.name = env.metadata.name := rfl
      have hnamespace : (Environment.marked c₀ o env).metadata.exchanged.namespace = env.metadata.namespace := rfl
      have huid : (Environment.marked c₀ o env).metadata.exchanged.uid = env.metadata.uid := by
        rw [hstored.metadata]
        rfl
      simp only [Scope.ofEnvironment, hname, hnamespace, huid]

structure Converges (suffix : String) (t : Instant) (k : Key) (c c' : Cluster) (o : Object) (env : Environment)
    (s : Scope) (c₁ : Cluster) (o₁ : Object) (env₁ : Environment) (c₂ : Cluster) : Prop where
  stored : Stored c k o env
  live : env.metadata.deletionTimestamp.isSome = false
  scope : Scope.ofEnvironment env suffix = .ok s
  marks : Marks k c o env c₁ o₁ env₁
  reached : Reached t s o₁ env₁ c₁ c₂ c'

theorem Marks.live (h : Marks k c o env c₁ o₁ env₁) (hstored : Stored c k o env)
    (hlive : env.metadata.deletionTimestamp.isSome = false) :
    o₁.metadata.exchanged.deletionTimestamp.isSome = false := by
  rw [hstored.metadata] at hlive
  cases h with
  | already => exact hlive
  | put => exact hlive

def reportedEnvironment (o : Object) (env : Environment) (s : Scope) (t : Instant) (version : Option String)
    (conditions : List Condition) (generation : Int64) : Environment :=
  { env with
    metadata := (Status.reportedAs o s.accessUrl (Status.timeText env t) generation version).metadata.exchanged
    status := some (EnvironmentStatus.mk "Ready" conditions (some s.accessUrl) (some (Status.timeText env t))
      (some generation)) }

theorem Converges.reports (h : Converges suffix t (keyOf s) c c' o env s c₁ o₁ env₁ c₂) :
    ∃ generation version conditions, o₁.metadata.generation = some generation ∧
      c' = Status.afterReport c₂ (keyOf s) o₁ s.accessUrl (Status.timeText env₁ t) generation ∧
      Stored c' (keyOf s) (Status.reportedAs o₁ s.accessUrl (Status.timeText env₁ t) generation version)
        (reportedEnvironment o₁ env₁ s t version conditions generation) := by
  obtain ⟨generation, hgeneration, hc'⟩ := h.reached.reported
  have hstored := h.marks.stored h.stored
  have hfind := h.reached.provisioned.others (keyOf s) fun d hd =>
    (ne_keyOf (Stage.kind_of_mem_declared hd) s).symm
  have hstored₂ : Stored c₂ (keyOf s) o₁ env₁ := ⟨hfind.trans hstored.1, hstored.2⟩
  obtain ⟨version, conditions, hstored'⟩ :=
    Status.stored_afterReport hstored₂ s.accessUrl (Status.timeText env₁ t) generation
  exact ⟨generation, version, conditions, hgeneration, hc', hc' ▸ hstored'⟩

def Failed (suffix : String) (k : Key) (c : Cluster) : Prop :=
  c.faults ≠ [] ∨ ∀ o env, Stored c k o env → env.metadata.deletionTimestamp.isSome = false → ∀ s,
    Scope.ofEnvironment env suffix = .ok s → ∃ d ∈ Stage.declared s env.spec, d.Hindered c

def Outcome (suffix : String) (t : Instant) (k : Key) (c : Cluster) : Except PassError PassOutcome → Cluster → Prop
  | .ok .converged, c' => c.Calm (.get (Environment.address k.namespace k.name)) ∧
      ∃ o env s c₁ o₁ env₁ c₂, Converges suffix t k c c' o env s c₁ o₁ env₁ c₂
  | .ok .finalized, c' => (∀ o env, Stored c k o env → env.metadata.deletionTimestamp.isSome = true) ∧
      ∃ o env s, Stored c k o env ∧ Scope.ofEnvironment env suffix = .ok s ∧ Released s c c'
  | .ok .gone, _ => ∀ o env, Stored c k o env → env.metadata.deletionTimestamp.isSome = true
  | .error _, _ => Failed suffix k c

theorem keyOf_of_stored {ns : Option String} {name : String} (hk : c.Kept)
    (hstored : Stored c (Environment.address ns name).key o env) (hscope : Scope.ofEnvironment env suffix = .ok s) :
    (Environment.address ns name).key = keyOf s := by
  obtain ⟨hname, hnamespace⟩ := scope_namespace hscope
  have hplaced := hk _ _ hstored.1
  rw [hstored.metadata] at hname hnamespace
  have hns : ns = some s.namespace := hplaced.namespace.symm.trans hnamespace
  have hn : o.metadata.nameText = name := hplaced.name
  rw [hns, ← hn, Metadata.nameText, show o.metadata.name = some s.name from hname]
  rfl

theorem scope_of_stored (hk : c.Kept) {ns name : String}
    (hstored : Stored c (Environment.address (some ns) name).key o env)
    (hscope : Scope.ofEnvironment env suffix = .ok s) : s.namespace = ns ∧ s.name = name := by
  have hkey := keyOf_of_stored hk hstored hscope
  exact ⟨(Option.some.inj (congrArg Key.namespace hkey)).symm, (congrArg Key.name hkey).symm⟩

theorem marked_along (now : Instant) (hk : c₁.Kept) (hmarks : Marks (keyOf s) c o env c₁ o₁ env₁)
    (hcalm : c.Calm (.get (Environment.address (some s.namespace) s.name))) (hstored : Stored c (keyOf s) o env)
    (hlive : env.metadata.deletionTimestamp.isSome = false) (hscope : Scope.ofEnvironment env suffix = .ok s) :
    (converge env₁ s now).Along (answerer now) (fun call c' => Licit suffix c' call)
      (Outcome suffix now (keyOf s) c) c₁ := by
  have hscope₁ : Scope.ofEnvironment env₁ suffix = .ok s := (hmarks.scope suffix hstored).trans hscope
  refine (converge_along now hk (hmarks.stored hstored) hmarks.marked hscope₁).mono (fun _ _ h => h) ?_
  intro r c' h
  cases r with
  | ok outcome =>
      obtain ⟨rfl, c₂, hreached⟩ := h
      exact ⟨hcalm, o, env, s, c₁, o₁, env₁, c₂, hstored, hlive, hscope, hmarks, hreached⟩
  | error e =>
      rcases h with hfaults | ⟨d, hd, hhindered⟩
      · exact .inl fun hnil => hfaults (faults_eq_nil hmarks.faults hnil)
      · right
        intro o' env' hstored' _ s' hscope'
        cases (hstored.unique hstored').2
        cases hscope.symm.trans hscope'
        rw [hmarks.spec] at hd
        have hne : d.address.key ≠ keyOf s := ne_keyOf (Stage.kind_of_mem_declared hd) s
        exact ⟨d, hd, hhindered.before hmarks.faults (hmarks.others hne)⟩

theorem work_along (now : Instant) (hk : c.Kept) (hcalm : c.Calm (.get (Environment.address (some s.namespace) s.name)))
    (hstored : Stored c (keyOf s) o env) (hscope : Scope.ofEnvironment env suffix = .ok s) :
    (work env s now).Along (answerer now) (fun call c' => Licit suffix c' call) (Outcome suffix now (keyOf s) c) c := by
  have hterminating : env.metadata.deletionTimestamp.isSome = true →
      ∀ o' env', Stored c (keyOf s) o' env' → env'.metadata.deletionTimestamp.isSome = true := by
    intro hmark o' env' hstored'
    rw [(hstored.unique hstored').2]
    exact hmark
  unfold work lifecycle
  cases hmark : env.metadata.deletionTimestamp.isSome with
  | true =>
      cases hfinalizer : env.hasFinalizer with
      | false => exact hterminating hmark
      | true =>
          refine (release_along now hk hstored hscope).mono (fun _ _ h => h) ?_
          intro r c' h
          cases r with
          | ok outcome =>
              obtain ⟨rfl, hreleased⟩ := h
              exact ⟨hterminating hmark, o, env, s, hstored, hscope, hreleased⟩
          | error e =>
              right
              intro o' env' hstored' hlive
              rw [hterminating hmark o' env' hstored'] at hlive
              cases hlive
  | false =>
      cases hfinalizer : env.hasFinalizer with
      | true => exact marked_along now hk (.already hfinalizer) hcalm hstored hmark hscope
      | false =>
          have hkept := Program.Along.of_kept (w := answerer now) (I := Kept)
            (fun call _ hc => hc.answer now call) (fun _ _ hc => hc) env.addFinalizer hk
          refine Program.along_bind.2 (Program.along_mapError.2 ?_)
          refine ((addFinalizer_along now hk hstored (scope_namespace hscope).1 hfinalizer).and hkept).mono ?_ ?_
          · rintro call c' ⟨⟨hspent, hcall⟩, -⟩
            rcases hcall with rfl | rfl
            · exact .look _
            · exact .mark (hstored.spent hspent) hfinalizer
          · rintro r c₁ ⟨h, hk₁⟩
            cases r with
            | error e => exact .inl h.2
            | ok env₁ =>
                obtain ⟨c₀, hspent, rfl, rfl⟩ := h
                exact marked_along now hk₁ (.put hfinalizer hspent) hcalm hstored hmark hscope

theorem run_along (settings : Settings) (now : Instant) (ns name : String) (hk : c.Kept) :
    (run settings now ns name).Along (answerer now) (fun call c' => Licit settings.domainSuffix c' call)
      (Outcome settings.domainSuffix now (Environment.address (some ns) name).key c) c := by
  refine Program.along_bind.2 (Program.along_result.2 ?_)
  refine (fetch_along now c (some ns) name).mono (fun _ _ h => h.2 ▸ .look _) ?_
  intro r c₀ hfetched
  cases r with
  | error e =>
      obtain ⟨-, hmissing, hunread⟩ := hfetched
      show Program.Along _ _ _ (if e.isNotFound = true then pure PassOutcome.gone
        else .fail (PassError.fetch name e)) c₀
      cases hgone : e.isNotFound with
      | true =>
          intro o env hstored
          cases (hmissing hgone).symm.trans hstored.1
      | false =>
          by_cases hnil : c.faults = []
          · exact .inr fun o env hstored => absurd hstored (hunread (calm_of_nil hnil _) o env)
          · exact .inl hnil
  | ok env =>
      obtain ⟨rfl, hcalm, o, hstored⟩ := hfetched
      dsimp only
      cases hscope : Scope.ofEnvironment env settings.domainSuffix with
      | error member =>
          right
          intro o' env' hstored' _ s' hscope'
          rw [(hstored.unique hstored').2, hscope] at hscope'
          cases hscope'
      | ok s =>
          obtain ⟨rfl, rfl⟩ := scope_of_stored hk hstored hscope
          exact work_along now hk hcalm hstored hscope

end Run

section Submitted

def midnight : Instant := ⟨0, 0⟩

def bare (metadata : Metadata) : Object where
  types := none
  metadata
  data := .obj []

def submission (name : Option String) (finalizers : List String) : Object where
  types := none
  metadata := { name, «namespace» := some "team", finalizers := some finalizers }
  data := .obj [("spec", .obj [("language", .str "go")])]

def submitted (name : Option String) (finalizers : List String) : Cluster :=
  (answer midnight {} (.create Kind.environment.resource (submission name finalizers))).2

def submittedScope : Scope := ⟨"alice", "team", "uid-1", "developerenv.adityajoshi.online"⟩

def submittedEnvironment (name : Option String) (finalizers : List String) : Environment where
  metadata := (({} : Cluster).admitted (submission name finalizers)).metadata.exchanged
  spec := { language := "go" }

variable {name : Option String} {finalizers : List String}

theorem reachable_submitted : Reachable (submitted name finalizers) := .answer _ _ .empty

theorem find?_submitted_of_kind_ne {k : Key} (h : k.kind ≠ Kind.environment.name) :
    (submitted name finalizers).find? k = none :=
  find?_answer_of_ne midnight {} _ fun he => h (congrArg Key.kind he)

theorem stored_submitted : Stored (submitted name finalizers) (Environment.address (some "team") (name.getD "")).key
    (({} : Cluster).admitted (submission name finalizers)) (submittedEnvironment name finalizers) :=
  ⟨(find?_commit_put ..).trans (if_pos rfl), rfl⟩

end Submitted

end Pass

end EnvironmentOperator
