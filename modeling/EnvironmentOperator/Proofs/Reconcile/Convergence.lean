import EnvironmentOperator.Proofs.Reconcile.Pass

namespace EnvironmentOperator

open Cluster Environment

section Read

variable {α : Type} [Manifest α]

def Cluster.Legible (α : Type) [Manifest α] (c : Cluster) (a : Address) : Prop :=
  ∀ o, c.find? a.key = some o → ∃ x : α, Manifest.ofObject o = .ok x

theorem Cluster.legible_of_none {c : Cluster} {a : Address} (h : c.find? a.key = none) : c.Legible α a := by
  intro o ho
  cases h.symm.trans ho

theorem Cluster.legible_of_read? {c : Cluster} {a : Address} {x : α} (h : c.read? α a = some x) : c.Legible α a := by
  intro o ho
  obtain ⟨o', ho', hx⟩ := find?_of_read? h
  cases ho'.symm.trans ho
  exact ⟨x, hx⟩

def Overlay.over (lay : α → α → α) (live : Option α) (x : α) : α := live.elim x (lay · x)

end Read

namespace Declaration

open FaithfulManifest

variable {α : Type} [Manifest α] {lay : α → α → α} {x : α}

theorem not_hindered_createOnly {c : Cluster} (hfaults : c.faults = []) : ¬(createOnly x).Hindered c := by
  rintro (hstruck | ⟨live, e, -, he⟩)
  · exact hstruck hfaults
  · cases he

theorem not_hindered_overwrite {c : Cluster} (hfaults : c.faults = []) (h : c.Legible α (overwrite lay x).address) :
    ¬(overwrite lay x).Hindered c := by
  rintro (hstruck | ⟨live, e, hlive, he⟩)
  · exact hstruck hfaults
  · obtain ⟨current, hcurrent⟩ := h live hlive
    simp only [overwrite, Object.typed, hcurrent] at he
    cases he

theorem made_createOnly {before : Option Object} {o : Object} (h : (createOnly x).Made before o) :
    before = some o ∨ before = none ∧ ∃ c : Cluster, o = c.admitted (Manifest.toObject x) := by
  cases h with
  | created c => exact .inr ⟨rfl, c, rfl⟩
  | left => exact .inl rfl
  | revised c h => cases h

variable [FaithfulManifest α]

theorem read_overwritten (hlay : Overlay.Settles lay x) {before : Option Object} {o : Object}
    (h : (overwrite lay x).Made before o) : ∃ live m,
      before.bind (fun o => (Manifest.ofObject o : Except DecodeError α).toOption) = live ∧
        Manifest.ofObject o = .ok (withMetadata (Overlay.over lay live x) m) ∧
        m.labels = (Manifest.metadata (Overlay.over lay live x)).labels := by
  cases h with
  | created c =>
      have hread : Manifest.ofObject (c.admitted (Manifest.toObject x)) =
          .ok (withMetadata x (c.admitted (Manifest.toObject x)).metadata.exchanged) :=
        read_own (Object.bears_of_types rfl) hlay.writable_desired hlay.unreported rfl
      exact ⟨none, _, rfl, hread, rfl⟩
  | left h =>
      obtain ⟨current, hlive, hsame⟩ := revision_overwrite_idle h
      have hdata : Manifest.data current = Manifest.data (lay current x) :=
        Json.obj.inj (congrArg Object.data hsame).symm
      have hlabels : (Manifest.metadata current).labels = (Manifest.metadata (lay current x)).labels :=
        (congrArg (fun o : Object => o.metadata.labels) hsame).symm
      refine ⟨some current, Manifest.metadata current, by simp [hlive, Except.toOption], ?_, hlabels⟩
      rw [Overlay.over, Option.elim_some, ← eq_of_data_eq (hlay.writable current) (hlay.status current) hdata, hlive]
  | @revised live next c h =>
      obtain ⟨current, hlive, rfl, hread⟩ := read_revised hlay h (o := c.revised live (carried live next)) rfl rfl
      exact ⟨some current, _, by simp [hlive, Except.toOption], hread, rfl⟩

end Declaration

namespace Pass

/-- The objects that are overwritten can be read, as far as they are there. -/
structure Legible (c : Cluster) (ns name : String) : Prop where
  tools : c.Legible ConfigMap (.ofKind .configMap (some ns) (Names.toolsConfigMap name))
  ideWorkspace : c.Legible Claim (.ofKind .claim (some ns) (Names.ideWorkspace name))
  idePassword : c.Legible Secret (.ofKind .secret (some ns) (Names.idePassword name))
  ideDeployment : c.Legible Deployment (.ofKind .deployment (some ns) (Names.ideServer name))
  ideService : c.Legible Service (.ofKind .service (some ns) (Names.ideServer name))
  ideIngress : c.Legible Ingress (.ofKind .ingress (some ns) (Names.ideIngress name))
  databaseClaim : c.Legible Claim (.ofKind .claim (some ns) (Names.databaseClaim name))
  databaseDeployment : c.Legible Deployment (.ofKind .deployment (some ns) (Names.database name))
  databaseService : c.Legible Service (.ofKind .service (some ns) (Names.database name))

theorem Legible.not_hindered {c : Cluster} {s : Scope} (h : Legible c s.namespace s.name) (hfaults : c.faults = [])
    {spec : EnvironmentSpec} {d : Declaration} (hd : d ∈ Stage.declared s spec) : ¬d.Hindered c := by
  simp only [Stage.declared, Stage.all, Stage.declarations, List.flatMap_cons, List.flatMap_nil, List.mem_append,
    List.mem_cons, List.not_mem_nil, or_false] at hd
  rcases hd with rfl | (rfl | rfl) | rfl | (rfl | rfl | rfl | rfl | rfl) | (rfl | rfl | rfl)
  · exact Declaration.not_hindered_createOnly hfaults
  · exact Declaration.not_hindered_createOnly hfaults
  · exact Declaration.not_hindered_createOnly hfaults
  · exact Declaration.not_hindered_overwrite hfaults h.tools
  · exact Declaration.not_hindered_overwrite hfaults h.ideWorkspace
  · exact Declaration.not_hindered_overwrite hfaults h.idePassword
  · exact Declaration.not_hindered_overwrite hfaults h.ideDeployment
  · exact Declaration.not_hindered_overwrite hfaults h.ideService
  · exact Declaration.not_hindered_overwrite hfaults h.ideIngress
  · exact Declaration.not_hindered_overwrite hfaults h.databaseClaim
  · exact Declaration.not_hindered_overwrite hfaults h.databaseDeployment
  · exact Declaration.not_hindered_overwrite hfaults h.databaseService

def CreatedOnce {α : Type} [Manifest α] (c c' : Cluster) (x : α) (a : Address) : Prop :=
  match c.find? a.key with
  | some o => c'.find? a.key = some o
  | none => ∃ c₀ : Cluster, c'.find? a.key = some (c₀.admitted (Manifest.toObject x))

def Overwritten {α : Type} [Manifest α] (c c' : Cluster) (a : Address) (p : Option α → α → Prop) : Prop :=
  ∃ x, c'.read? α a = some x ∧ p (c.read? α a) x

structure Furnished (s : Scope) (spec : EnvironmentSpec) (c c' : Cluster) : Prop where
  contained : ∀ a ∈ Teardown.managedObjects s, c'.contains a = true
  others : ∀ k, k ≠ keyOf s → (∀ a ∈ Teardown.managedObjects s, k ≠ a.key) → c'.find? k = c.find? k
  dedicatedNamespace : CreatedOnce c c' (Desired.dedicatedNamespace s)
    (.ofKind .namespace none (Names.dedicatedNamespace s.name))
  issuer : CreatedOnce c c' (Desired.issuer s) (.ofKind .issuer (some s.namespace) Names.issuer)
  certificate : CreatedOnce c c' (Desired.certificate s) (.ofKind .certificate (some s.namespace) s.host)
  tools : Overwritten c c' (.ofKind .configMap (some s.namespace) (Names.toolsConfigMap s.name))
    fun (_ : Option ConfigMap) x => x.data = (Desired.toolsConfigMap s spec).data ∧
      x.metadata.labels = (Desired.toolsConfigMap s spec).metadata.labels
  idePassword : Overwritten c c' (.ofKind .secret (some s.namespace) (Names.idePassword s.name))
    fun (_ : Option Secret) x => x.data = (Desired.idePassword s spec).data
  ideDeployment : Overwritten c c' (.ofKind .deployment (some s.namespace) (Names.ideServer s.name))
    fun (_ : Option Deployment) x => x.spec = (Desired.ideDeployment s spec).spec
  databaseDeployment : Overwritten c c' (.ofKind .deployment (some s.namespace) (Names.database s.name))
    fun (_ : Option Deployment) x => x.spec = (Desired.databaseDeployment s spec.database).spec
  ideIngress : Overwritten c c' (.ofKind .ingress (some s.namespace) (Names.ideIngress s.name))
    fun (_ : Option Ingress) x => x.spec = (Desired.ideIngress s).spec
  ideService : Overwritten c c' (.ofKind .service (some s.namespace) (Names.ideServer s.name))
    fun (live : Option Service) x =>
      x.spec = (Desired.ideService s).spec.map (Overlay.serviceSpec (live.bind Service.spec))
  databaseService : Overwritten c c' (.ofKind .service (some s.namespace) (Names.database s.name))
    fun (live : Option Service) x =>
      x.spec = (Desired.databaseService s spec.database).spec.map (Overlay.serviceSpec (live.bind Service.spec))
  ideWorkspace : Overwritten c c' (.ofKind .claim (some s.namespace) (Names.ideWorkspace s.name))
    fun (live : Option Claim) x => Overlay.requestsOf x =
      live.elim (Overlay.requestsOf (Desired.ideWorkspace s)) (Overlay.requests · (Desired.ideWorkspace s))
  databaseClaim : Overwritten c c' (.ofKind .claim (some s.namespace) (Names.databaseClaim s.name))
    fun (live : Option Claim) x => Overlay.requestsOf x =
      live.elim (Overlay.requestsOf (Desired.databaseClaim s)) (Overlay.requests · (Desired.databaseClaim s))

section Converges

variable {suffix : String} {t : Instant} {c c' c₁ c₂ : Cluster} {o o₁ : Object} {env env₁ : Environment} {s : Scope}

theorem Converges.find?_of_ne (h : Converges suffix t (keyOf s) c c' o env s c₁ o₁ env₁ c₂) {k : Key}
    (hne : k ≠ keyOf s) : c₁.find? k = c.find? k ∧ c'.find? k = c₂.find? k := by
  obtain ⟨generation, -, hc'⟩ := h.reached.reported
  rw [hc']
  exact ⟨h.marks.others hne, Status.find?_afterReport_of_ne hne ..⟩

theorem Converges.made (h : Converges suffix t (keyOf s) c c' o env s c₁ o₁ env₁ c₂) {d : Declaration}
    (hd : d ∈ Stage.declared s env.spec) :
    ∃ o, c'.find? d.address.key = some o ∧ d.Made (c.find? d.address.key) o := by
  rw [← h.marks.spec] at hd
  have hne : d.address.key ≠ keyOf s := ne_keyOf (Stage.kind_of_mem_declared hd) s
  obtain ⟨hbefore, hafter⟩ := h.find?_of_ne hne
  rw [← hbefore, hafter]
  exact h.reached.provisioned.made d hd

theorem Converges.createdOnce (h : Converges suffix t (keyOf s) c c' o env s c₁ o₁ env₁ c₂) {α : Type} [Manifest α]
    {x : α} (hd : .createOnly x ∈ Stage.declared s env.spec) :
    CreatedOnce c c' x (Declaration.createOnly x).address := by
  obtain ⟨o', ho', hmade⟩ := h.made hd
  unfold CreatedOnce
  rcases Declaration.made_createOnly hmade with hbefore | ⟨hbefore, c₀, rfl⟩
  · rw [hbefore]
    exact ho'
  · rw [hbefore]
    exact ⟨c₀, ho'⟩

open FaithfulManifest in
theorem Converges.overwritten (h : Converges suffix t (keyOf s) c c' o env s c₁ o₁ env₁ c₂) {α : Type} [Manifest α]
    [FaithfulManifest α] {lay : α → α → α} {x : α} (hlay : Overlay.Settles lay x)
    (hd : .overwrite lay x ∈ Stage.declared s env.spec) {p : Option α → α → Prop}
    (hp : ∀ live m, m.labels = (Manifest.metadata (Overlay.over lay live x)).labels →
      p live (withMetadata (Overlay.over lay live x) m)) :
    Overwritten c c' (Declaration.overwrite lay x).address p := by
  obtain ⟨o', ho', hmade⟩ := h.made hd
  obtain ⟨live, m, hlive, hread, hlabels⟩ := Declaration.read_overwritten hlay hmade
  refine ⟨_, read?_of_find? ho' hread, ?_⟩
  rw [read?, hlive]
  exact hp live m hlabels

theorem requestsOf_over (live : Option Claim) (x : Claim) (m : Metadata) :
    Overlay.requestsOf (FaithfulManifest.withMetadata (Overlay.over Overlay.claim live x) m) =
      live.elim (Overlay.requestsOf x) (Overlay.requests · x) := by
  cases live with
  | none => rfl
  | some live => exact Overlay.requestsOf_claim live x

theorem spec_over_service (live : Option Service) (x : Service) (m : Metadata) :
    (FaithfulManifest.withMetadata (Overlay.over Overlay.service live x) m).spec =
      x.spec.map (Overlay.serviceSpec (live.bind Service.spec)) := by
  cases live with
  | none =>
      obtain ⟨_, spec, _⟩ := x
      cases spec <;> rfl
  | some live => rfl

theorem Converges.furnished (h : Converges suffix t (keyOf s) c c' o env s c₁ o₁ env₁ c₂) :
    Furnished s env.spec c c' where
  contained a ha := by
    obtain ⟨d, hd, rfl⟩ := Stage.mem_managedObjects.1 ha
    obtain ⟨o', ho', -⟩ := h.made hd
    rw [Cluster.contains, ho']
    rfl
  others k hne hunmanaged := by
    obtain ⟨hbefore, hafter⟩ := h.find?_of_ne hne
    rw [hafter, ← hbefore]
    refine h.reached.provisioned.others k ?_
    intro d hd
    rw [h.marks.spec] at hd
    exact hunmanaged d.address (Stage.mem_managedObjects.2 ⟨d, hd, rfl⟩)
  dedicatedNamespace := h.createdOnce (Stage.mem_declared .namespace (by simp [Stage.declarations]))
  issuer := h.createdOnce (Stage.mem_declared .certificate (by simp [Stage.declarations]))
  certificate := h.createdOnce (Stage.mem_declared .certificate (by simp [Stage.declarations]))
  tools := h.overwritten (Overlay.settles_configMap (Desired.toolsConfigMap s env.spec))
    (Stage.mem_declared .tooling (by simp [Stage.declarations])) fun live m hlabels => by
      cases live with
      | none => exact ⟨rfl, hlabels⟩
      | some live => exact ⟨rfl, hlabels⟩
  idePassword := h.overwritten (Overlay.settles_secret (Desired.idePassword s env.spec))
    (Stage.mem_declared .ide (by simp [Stage.declarations])) fun live m _ => by cases live <;> rfl
  ideDeployment := h.overwritten (Stage.settles_ideDeployment s env.spec)
    (Stage.mem_declared .ide (by simp [Stage.declarations])) fun live m _ => by cases live <;> rfl
  databaseDeployment := h.overwritten (Stage.settles_databaseDeployment s env.spec.database)
    (Stage.mem_declared .database (by simp [Stage.declarations])) fun live m _ => by cases live <;> rfl
  ideIngress := h.overwritten (Overlay.settles_ingress (x := Desired.ideIngress s) rfl)
    (Stage.mem_declared .ide (by simp [Stage.declarations])) fun live m _ => by cases live <;> rfl
  ideService := h.overwritten (Overlay.settles_service (x := Desired.ideService s) rfl)
    (Stage.mem_declared .ide (by simp [Stage.declarations])) fun live m _ => spec_over_service live _ m
  databaseService := h.overwritten (Overlay.settles_service (x := Desired.databaseService s env.spec.database) rfl)
    (Stage.mem_declared .database (by simp [Stage.declarations])) fun live m _ => spec_over_service live _ m
  ideWorkspace := h.overwritten (Overlay.settles_claim (x := Desired.ideWorkspace s) rfl rfl rfl)
    (Stage.mem_declared .ide (by simp [Stage.declarations])) fun live m _ => requestsOf_over live _ m
  databaseClaim := h.overwritten (Overlay.settles_claim (x := Desired.databaseClaim s) rfl rfl rfl)
    (Stage.mem_declared .database (by simp [Stage.declarations])) fun live m _ => requestsOf_over live _ m

structure Ready (s : Scope) (o : Object) (env : Environment) : Prop where
  marked : env.hasFinalizer = true
  reported : ∃ status generation, env.status = some status ∧ status.phase = "Ready" ∧
    status.accessUrl = some s.accessUrl ∧ status.observedGeneration = some generation ∧
    o.metadata.generation = some generation

theorem Converges.ready (h : Converges suffix t (keyOf s) c c' o env s c₁ o₁ env₁ c₂) :
    ∃ o' env', Stored c' (keyOf s) o' env' ∧ env'.spec = env.spec ∧ Ready s o' env' := by
  obtain ⟨generation, version, conditions, hgeneration, -, hstored'⟩ := h.reports
  have hmarked := h.marks.marked
  rw [hasFinalizer, (h.marks.stored h.stored).metadata] at hmarked
  exact ⟨_, _, hstored', h.marks.spec, hmarked, _, generation, rfl, rfl, rfl, rfl, hgeneration⟩

end Converges

section Run

variable {c : Cluster} {o : Object} {env : Environment}

theorem scope_of_named (hk : c.Kept) {ns name : String}
    (hstored : Stored c (Environment.address (some ns) name).key o env) (hnamed : env.metadata.name.isSome = true)
    (suffix : String) :
    ∃ s, Scope.ofEnvironment env suffix = .ok s ∧ s.namespace = ns ∧ s.name = name := by
  have hnamespace : env.metadata.namespace = some ns := by
    rw [hstored.metadata]
    exact (hk _ _ hstored.1).namespace
  obtain ⟨given, hgiven⟩ := Option.isSome_iff_exists.1 hnamed
  have hscope : Scope.ofEnvironment env suffix = .ok ⟨given, ns, env.metadata.uid.getD "", suffix⟩ := by
    simp only [Scope.ofEnvironment, hgiven, hnamespace]
  exact ⟨_, hscope, scope_of_stored hk hstored hscope⟩

/-- Where no fault strikes, a pass for a live environment converges from any state that it can read. -/
theorem run_converges (settings : Settings) (now : Instant) (ns name : String) (h : Reachable c)
    (hfaults : c.faults = []) (hstored : Stored c (Environment.address (some ns) name).key o env)
    (hnamed : env.metadata.name.isSome = true) (hlive : env.metadata.deletionTimestamp = none)
    (hlegible : Legible c ns name) :
    ∃ s c', Scope.ofEnvironment env settings.domainSuffix = .ok s ∧
      (run settings now ns name).run (answerer now) c = (.ok .converged, c') ∧ Furnished s env.spec c c' ∧
      ∃ o' env', Stored c' (Environment.address (some ns) name).key o' env' ∧ env'.spec = env.spec ∧
        Ready s o' env' := by
  obtain ⟨s, hscope, rfl, rfl⟩ := scope_of_named h.kept hstored hnamed settings.domainSuffix
  have hlive : env.metadata.deletionTimestamp.isSome = false := by rw [hlive]; rfl
  have houtcome := (run_along settings now s.namespace s.name h.kept).run
  cases hrun : (run settings now s.namespace s.name).run (answerer now) c with
  | mk r c' =>
      rw [hrun] at houtcome
      -- What is known of the cluster before the pass rules every other outcome out.
      match r with
      | .error e =>
          rcases houtcome with hstruck | hhindered
          · exact absurd hfaults hstruck
          · obtain ⟨d, hd, hhindered⟩ := hhindered o env hstored hlive s hscope
            exact absurd hhindered (hlegible.not_hindered hfaults hd)
      | .ok .gone =>
          have hterminating := houtcome o env hstored
          rw [hlive] at hterminating
          cases hterminating
      | .ok .finalized =>
          have hterminating := houtcome.1 o env hstored
          rw [hlive] at hterminating
          cases hterminating
      | .ok .converged =>
          obtain ⟨-, o', env', s', c₁, o₁, env₁, c₂, hconverges⟩ := houtcome
          obtain ⟨rfl, rfl⟩ := hstored.unique hconverges.stored
          cases hscope.symm.trans hconverges.scope
          exact ⟨s, c', hscope, rfl, hconverges.furnished, hconverges.ready⟩

theorem legible_submitted {name : Option String} {finalizers : List String} (ns env : String) :
    Legible (submitted name finalizers) ns env := by
  have hmissing : ∀ {k : Kind} {α : Type} [Manifest α] (n : String), k ≠ .environment →
      (submitted name finalizers).Legible α (.ofKind k (some ns) n) := by
    intro k α _ n hk
    exact legible_of_none (find?_submitted_of_kind_ne (kind_ofKind_ne hk _ _))
  exact ⟨hmissing _ (by decide), hmissing _ (by decide), hmissing _ (by decide), hmissing _ (by decide),
    hmissing _ (by decide), hmissing _ (by decide), hmissing _ (by decide), hmissing _ (by decide),
    hmissing _ (by decide)⟩

def hostedDeployment : Deployment :=
  let desired := Desired.ideDeployment submittedScope { language := "go" }
  { desired with spec := desired.spec.map fun s =>
    { s with template.spec := s.template.spec.map fun pod => { pod with hostNetwork := some true } } }

def hosted : Cluster :=
  (answer midnight (submitted (some "alice") [])
    (.create Kind.deployment.resource (Manifest.toObject hostedDeployment))).2

def hostedAddress : Address := .ofKind .deployment (some "team") (Names.ideServer "alice")

theorem reachable_hosted : Reachable hosted := .answer _ _ reachable_submitted

theorem find?_hosted_of_ne {k : Key} (h : k ≠ hostedAddress.key) :
    hosted.find? k = (submitted (some "alice") []).find? k := find?_answer_of_ne midnight _ _ h

theorem stored_hosted : Stored hosted (Environment.address (some "team") "alice").key
    (({} : Cluster).admitted (submission (some "alice") [])) (submittedEnvironment (some "alice") []) :=
  ⟨(find?_hosted_of_ne (by decide)).trans stored_submitted.1, stored_submitted.2⟩

theorem read?_hosted : ∃ x, hosted.read? Deployment hostedAddress = some x ∧
    ∃ s pod, x.spec = some s ∧ s.template.spec = some pod ∧ pod.hostNetwork = some true :=
  ⟨_, rfl, _, _, rfl, rfl, rfl⟩

theorem legible_hosted : Legible hosted "team" "alice" := by
  have hbefore : Legible (submitted (some "alice") []) "team" "alice" := legible_submitted "team" "alice"
  have hother : ∀ {α : Type} [Manifest α] {a : Address}, a.key ≠ hostedAddress.key →
      (submitted (some "alice") []).Legible α a → hosted.Legible α a := by
    intro α _ a hne h o ho
    exact h o ((find?_hosted_of_ne hne).symm.trans ho)
  have hown : hosted.Legible Deployment hostedAddress := by
    obtain ⟨x, hx, -⟩ := read?_hosted
    exact legible_of_read? hx
  exact ⟨hother (by decide) hbefore.tools, hother (by decide) hbefore.ideWorkspace,
    hother (by decide) hbefore.idePassword, hown, hother (by decide) hbefore.ideService,
    hother (by decide) hbefore.ideIngress, hother (by decide) hbefore.databaseClaim,
    hother (by decide) hbefore.databaseDeployment, hother (by decide) hbefore.databaseService⟩

theorem run_converges_hosted :
    (∃ x, hosted.read? Deployment hostedAddress = some x ∧
      ∃ s pod, x.spec = some s ∧ s.template.spec = some pod ∧ pod.hostNetwork = some true) ∧
    ∃ s c', Scope.ofEnvironment (submittedEnvironment (some "alice") []) "developerenv.adityajoshi.online" = .ok s ∧
      (run {} midnight "team" "alice").run (answerer midnight) hosted = (.ok .converged, c') ∧
      Furnished s { language := "go" } hosted c' ∧
      ∃ o' env', Stored c' (Environment.address (some "team") "alice").key o' env' ∧
        env'.spec = { language := "go" } ∧ Ready s o' env' :=
  ⟨read?_hosted, run_converges {} midnight "team" "alice" reachable_hosted rfl stored_hosted rfl rfl legible_hosted⟩

/-- An environment that was submitted without a name is stored under the empty one, and no pass for it converges. -/
theorem not_converges_unnamed : ¬∀ (settings : Settings) (now : Instant) (ns name : String) (c : Cluster) (o : Object)
    (env : Environment), Reachable c → c.faults = [] → Stored c (Environment.address (some ns) name).key o env →
      env.metadata.deletionTimestamp = none → Legible c ns name →
        ((run settings now ns name).run (answerer now) c).1 = .ok .converged := by
  intro h
  have hconverged := h {} midnight "team" "" (submitted none []) _ _ reachable_submitted rfl stored_submitted rfl
    (legible_submitted "team" "")
  have hincomplete : ((run {} midnight "team" "").run (answerer midnight) (submitted none [])).1 =
      .error (.incomplete .name) := by
    with_unfolding_all rfl
  rw [hincomplete] at hconverged
  cases hconverged

end Run

end Pass

end EnvironmentOperator
