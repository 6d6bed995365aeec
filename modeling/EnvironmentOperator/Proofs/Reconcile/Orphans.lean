import EnvironmentOperator.Proofs.Reconcile.Pass
/-!
Every object that is not an environment belongs to a stored environment that carries the finalizer. Each call that a
pass may make keeps to this, so it holds wherever a pass is cut off.
-/
namespace EnvironmentOperator

open Cluster Environment Pass

def Key.IsEnvironment (k : Key) : Prop := k = (Environment.address k.namespace k.name).key

def Carries (suffix : String) (s : Scope) (o : Object) : Prop :=
  ∀ env : Environment, env.metadata = o.metadata.exchanged →
    env.hasFinalizer = true ∧ Scope.ofEnvironment env suffix = .ok s

def Carried (suffix : String) (c : Cluster) (s : Scope) : Prop :=
  ∃ o, c.find? (keyOf s) = some o ∧ Carries suffix s o

/-- The key is that of a managed object of a stored environment that carries the finalizer. -/
def Owned (suffix : String) (c : Cluster) (k : Key) : Prop :=
  ∃ s, Carried suffix c s ∧ ∃ a ∈ Teardown.managedObjects s, a.key = k

structure Tended (suffix : String) (c : Cluster) : Prop where
  kept : c.Kept
  accounted : ∀ k o, c.find? k = some o → k.IsEnvironment ∨ o.metadata.hasFinalizers = false ∧ Owned suffix c k

section Carries

variable {suffix : String} {s : Scope} {c : Cluster} {k : Key} {o o' : Object} {env : Environment}

theorem Carries.congr (h : Carries suffix s o) (hname : o'.metadata.name = o.metadata.name)
    (hnamespace : o'.metadata.namespace = o.metadata.namespace) (huid : o'.metadata.uid = o.metadata.uid)
    (hfinalizers : o'.metadata.finalizers = o.metadata.finalizers) : Carries suffix s o' := by
  intro env henv
  obtain ⟨hmarked, hscope⟩ := h { env with metadata := o.metadata.exchanged } rfl
  constructor
  · rw [hasFinalizer, henv]
    simpa [hasFinalizer, Metadata.finalizerList, Metadata.exchanged, hfinalizers] using hmarked
  · rw [Scope.ofEnvironment, henv]
    simpa [Scope.ofEnvironment, Metadata.exchanged, hname, hnamespace, huid] using hscope

theorem Carries.guarded (h : Carries suffix s o) : o.metadata.hasFinalizers = true := by
  have hmarked := (h { metadata := o.metadata.exchanged, spec := { language := "" } } rfl).1
  have hmem : finalizer ∈ o.metadata.finalizerList := by
    simpa [hasFinalizer, Metadata.finalizerList, Metadata.exchanged] using hmarked
  rw [Metadata.hasFinalizers]
  cases hlist : o.metadata.finalizerList with
  | nil =>
      rw [hlist] at hmem
      cases hmem
  | cons f rest => rfl

theorem carries_of_stored (h : Stored c k o env) (hmarked : env.hasFinalizer = true)
    (hscope : Scope.ofEnvironment env suffix = .ok s) : Carries suffix s o := by
  intro env' henv'
  have hmetadata : env'.metadata = env.metadata := henv'.trans h.metadata.symm
  refine ⟨?_, ?_⟩
  · rw [hasFinalizer, hmetadata]
    exact hmarked
  · rw [Scope.ofEnvironment, hmetadata]
    exact hscope

end Carries

namespace Tended

variable {suffix : String} {c c' : Cluster}

theorem isEnvironment_keyOf (s : Scope) : (keyOf s).IsEnvironment := rfl

theorem not_isEnvironment {k : Key} (h : k.kind ≠ Kind.environment.name) : ¬k.IsEnvironment :=
  fun he => h (congrArg Key.kind he)

theorem spent (h : Tended suffix c) (hs : Spent c c') : Tended suffix c' where
  kept := h.kept.spent hs
  accounted k o ho := by
    rw [hs.find?] at ho
    refine (h.accounted k o ho).imp_right fun ⟨hunguarded, s, ⟨owner, howner, hcarries⟩, ha⟩ =>
      ⟨hunguarded, s, ⟨owner, ?_, hcarries⟩, ha⟩
    rw [hs.find?]
    exact howner

theorem of_frame {k₀ : Key} (h : Tended suffix c) (hk : c'.Kept) (hothers : ∀ k, k ≠ k₀ → c'.find? k = c.find? k)
    (hobject : ∀ o, c'.find? k₀ = some o → k₀.IsEnvironment ∨ o.metadata.hasFinalizers = false ∧ Owned suffix c k₀)
    (howner : ∀ s, keyOf s = k₀ → Carried suffix c s →
      Carried suffix c' s ∨ ∀ a ∈ Teardown.managedObjects s, c.find? a.key = none) : Tended suffix c' where
  kept := hk
  accounted k o ho := by
    have haccounted : k.IsEnvironment ∨ o.metadata.hasFinalizers = false ∧ Owned suffix c k := by
      by_cases hkey : k = k₀
      · exact hkey ▸ hobject o (hkey ▸ ho)
      · exact h.accounted k o ((hothers k hkey).symm.trans ho)
    rcases haccounted with henvironment | ⟨hunguarded, s, hcarried, a, ha, rfl⟩
    · exact .inl henvironment
    · by_cases hkey : keyOf s = k₀
      · rcases howner s hkey hcarried with hstill | hnothing
        · exact .inr ⟨hunguarded, s, hstill, a, ha, rfl⟩
        · by_cases hown : a.key = k₀
          · exact .inl (hown.trans hkey.symm ▸ isEnvironment_keyOf s)
          · have hmissing := hnothing a ha
            rw [← hothers _ hown, ho] at hmissing
            cases hmissing
      · obtain ⟨owner, hfind, hcarries⟩ := hcarried
        exact .inr ⟨hunguarded, s, ⟨owner, (hothers _ hkey).trans hfind, hcarries⟩, a, ha, rfl⟩

theorem of_frame_of_kind_ne {k₀ : Key} (h : Tended suffix c) (hk : c'.Kept)
    (hothers : ∀ k, k ≠ k₀ → c'.find? k = c.find? k) (hkind : k₀.kind ≠ Kind.environment.name)
    (hobject : ∀ o, c'.find? k₀ = some o → o.metadata.hasFinalizers = false ∧ Owned suffix c k₀) : Tended suffix c' :=
  h.of_frame hk hothers (fun o ho => .inr (hobject o ho)) fun s hs => absurd (hs ▸ isEnvironment_keyOf s)
    (not_isEnvironment hkind)

theorem answer_of_perform (h : Tended suffix c) {now : Instant} {call : Call}
    (hperform : Tended suffix (c.perform now call).2) : Tended suffix (c.answer now call).2 := by
  rcases answer_snd_cases now c call with ha | hspent
  · rw [ha]
    exact hperform
  · exact h.spent hspent

section Environment

variable (now : Instant)

theorem perform_environment (h : Tended suffix c) (call : Call) (hkey : call.address.key.IsEnvironment)
    (howner : ∀ s owner, keyOf s = call.address.key → c.find? call.address.key = some owner →
      Carries suffix s owner → Carried suffix (c.perform now call).2 s ∨
        ∀ a ∈ Teardown.managedObjects s, c.find? a.key = none) :
    Tended suffix (c.perform now call).2 := by
  refine h.of_frame (h.kept.perform now call) (fun _ hne => find?_perform_of_ne now c call hne)
    (fun _ _ => .inl hkey) ?_
  rintro s hs ⟨owner, hfind, hcarries⟩
  exact howner s owner hs (hs ▸ hfind) hcarries

theorem create_environment (h : Tended suffix c) (o : Object) :
    Tended suffix (c.answer now (.create Kind.environment.resource o)).2 := by
  refine h.answer_of_perform ?_
  cases hfind : c.find? (Call.addressOf Kind.environment.resource o).key with
  | some existing =>
      simp only [perform, create, hfind]
      exact h
  | none =>
      refine h.perform_environment now (.create Kind.environment.resource o) rfl ?_
      intro _ _ _ howner _
      cases hfind.symm.trans howner

theorem replace_environment (h : Tended suffix c) (o : Object)
    (howner : ∀ current, c.find? (Call.addressOf Kind.environment.resource o).key = some current →
      isStale current o = false → ∀ s, keyOf s = (Call.addressOf Kind.environment.resource o).key →
        Carries suffix s current → Carries suffix s (c.revised current (carried current o)) ∨
          ∀ a ∈ Teardown.managedObjects s, c.find? a.key = none) :
    Tended suffix (c.answer now (.replace Kind.environment.resource o)).2 := by
  refine h.answer_of_perform ?_
  rcases replace_cases c Kind.environment.resource o with ⟨e, he⟩ | ⟨current, hcurrent, hstale, he | he⟩
  · rw [perform, he]
    exact h
  · rw [perform, he]
    exact h
  · refine h.perform_environment now (.replace Kind.environment.resource o) rfl ?_
    intro s owner hs hfind hcarries
    cases hcurrent.symm.trans hfind
    refine (howner current hcurrent hstale s hs hcarries).imp_left fun hrevised => ⟨_, ?_, hrevised⟩
    have hreleased : isReleased (c.revised current (carried current o)) = false := by
      rw [isReleased, hrevised.guarded, Bool.not_true, Bool.and_false]
    rw [perform, he, hreleased]
    exact (find?_commit_put ..).trans (if_pos hs)

theorem delete_environment (h : Tended suffix c) (ns : Option String) (name : String) :
    Tended suffix (c.answer now (.delete (Environment.address ns name))).2 := by
  refine h.answer_of_perform (h.perform_environment now (.delete (Environment.address ns name)) rfl ?_)
  intro s owner hs hfind hcarries
  have howner : c.find? (Environment.address ns name).key = some owner := hfind
  rw [perform, Teardown.delete_of_guarded now howner hcarries.guarded]
  dsimp only
  split
  · exact .inl ⟨owner, hs ▸ hfind, hcarries⟩
  · exact .inl ⟨_, (find?_commit_put ..).trans (if_pos hs), hcarries.congr rfl rfl rfl rfl⟩

theorem patchStatus_environment (h : Tended suffix c) (ns : Option String) (name : String) (patch : Json) :
    Tended suffix (c.answer now (.patchStatus (Environment.address ns name) patch)).2 := by
  refine h.answer_of_perform (h.perform_environment now (.patchStatus (Environment.address ns name) patch) rfl ?_)
  intro s owner hs hfind hcarries
  have howner : c.find? (Environment.address ns name).key = some owner := hfind
  simp only [perform, patchStatus, howner]
  split
  · exact .inl ⟨owner, hs ▸ hfind, hcarries⟩
  · exact .inl ⟨_, (find?_commit_put ..).trans (if_pos hs), hcarries.congr rfl rfl rfl rfl⟩

end Environment

section Pass

variable (now : Instant)

theorem unguarded (h : Tended suffix c) {k : Key} {o : Object} (hk : k.kind ≠ Kind.environment.name)
    (ho : c.find? k = some o) : o.metadata.hasFinalizers = false ∧ Owned suffix c k :=
  (h.accounted k o ho).resolve_left (not_isEnvironment hk)

theorem tend (h : Tended suffix c) {d : Declaration} {call : Call} (hd : d.Lawful)
    (hkind : d.kind.name ≠ Kind.environment.name) (howned : Owned suffix c d.address.key) (htends : d.Tends c call) :
    Tended suffix (c.answer now call).2 := by
  refine h.answer_of_perform ?_
  have hkey : call.address.key.kind ≠ Kind.environment.name := htends.kind ▸ hkind
  refine h.of_frame_of_kind_ne (h.kept.perform now call) (fun k hne => find?_perform_of_ne now c call hne) hkey ?_
  intro o ho
  cases htends with
  | look => exact h.unguarded hkind ho
  | create hmissing =>
      have hmissing : c.find? (Call.addressOf d.kind.resource d.desired).key = none := hmissing
      rw [perform, create_of_missing hmissing, show Call.address _ = Call.addressOf d.kind.resource d.desired from rfl,
        find?_commit_put, if_pos rfl] at ho
      cases ho
      exact ⟨hd.unguarded, howned⟩
  | @revise live next hlive hnext =>
      have hsame := Declaration.key_of_revision hd h.kept hlive hnext
      have hfinalizers : (c.revised live (carried live next)).metadata.finalizers = live.metadata.finalizers := by
        show next.metadata.finalizers = _
        rw [hd.metadata hnext]
        rfl
      rw [show Call.address _ = Call.addressOf d.kind.resource next from rfl, hsame] at ho ⊢
      rw [perform, Declaration.replace_of_revision hd h.kept hlive hnext, find?_commit_put, if_pos rfl] at ho
      cases ho
      refine ⟨?_, howned⟩
      rw [Metadata.hasFinalizers, Metadata.finalizerList, hfinalizers]
      exact (h.unguarded hkind hlive).1

theorem clear (h : Tended suffix c) {s : Scope} {a : Address} (ha : a ∈ Teardown.managedObjects s) :
    Tended suffix (c.answer now (.delete a)).2 := by
  refine h.answer_of_perform ?_
  have hkind := Teardown.kind_of_mem_managedObjects ha
  refine h.of_frame_of_kind_ne (h.kept.perform now (.delete a))
    (fun k hne => find?_perform_of_ne now c (.delete a) hne) hkind ?_
  intro o ho
  cases hfind : c.find? a.key with
  | none =>
      rw [perform, Teardown.delete_of_missing now hfind] at ho
      cases hfind.symm.trans ho
  | some before =>
      rw [perform, Teardown.delete_of_unguarded now hfind (h.unguarded hkind hfind).1] at ho
      cases ho.symm.trans ((Dict.at?_without ..).trans (if_pos rfl))

theorem mark (h : Tended suffix c) {ns : Option String} {name : String} {o : Object} {env : Environment}
    (hstored : Stored c (Environment.address ns name).key o env) (hunmarked : env.hasFinalizer = false) :
    Tended suffix (c.answer now (.replace Kind.environment.resource (Manifest.toObject env.withFinalizer))).2 := by
  refine h.replace_environment now _ ?_
  intro current hcurrent _ s _ hcarries
  have hkey := key_withFinalizers env.marking h.kept hstored
  have hcurrent : c.find? (Environment.address ns name).key = some current := hkey ▸ hcurrent
  cases hstored.1.symm.trans hcurrent
  have hmarked := (hcarries env hstored.metadata).1
  rw [hunmarked] at hmarked
  cases hmarked

theorem release (h : Tended suffix c) {ns : Option String} {name : String} {o : Object} {env : Environment} {s : Scope}
    (hstored : Stored c (Environment.address ns name).key o env) (hscope : Scope.ofEnvironment env suffix = .ok s)
    (hleft : ∀ a ∈ Teardown.managedObjects s, ∀ left, c.find? a.key = some left → left.metadata.hasFinalizers = true) :
    Tended suffix (c.answer now (.replace Kind.environment.resource (Manifest.toObject env.withoutFinalizer))).2 := by
  refine h.replace_environment now _ ?_
  intro current hcurrent _ s' _ hcarries
  right
  intro a ha
  have hkey := key_withFinalizers env.unmarking h.kept hstored
  have hcurrent : c.find? (Environment.address ns name).key = some current := hkey ▸ hcurrent
  cases hstored.1.symm.trans hcurrent
  cases hscope.symm.trans (hcarries env hstored.metadata).2
  -- What the deletes have left is guarded, and nothing that is managed is.
  cases hfind : c.find? a.key with
  | none => rfl
  | some left =>
      have hguarded := hleft a ha left hfind
      rw [(h.unguarded (Teardown.kind_of_mem_managedObjects ha) hfind).1] at hguarded
      cases hguarded

theorem licit (h : Tended suffix c) {call : Call} (hlicit : Licit suffix c call) :
    Tended suffix (c.answer now call).2 := by
  cases hlicit with
  | look a => exact h.answer_of_perform h
  | mark hstored hunmarked => exact h.mark now hstored hunmarked
  | @tend ns name o env s d _ hstored hmarked hscope hd htends =>
      have hkey := keyOf_of_stored h.kept hstored hscope
      have howned : Owned suffix c d.address.key :=
        ⟨s, ⟨o, hkey ▸ hstored.1, carries_of_stored hstored hmarked hscope⟩, d.address,
          Stage.mem_managedObjects.2 ⟨d, hd, rfl⟩, rfl⟩
      exact h.tend now (Stage.lawful_of_mem_declared hd) (Stage.kind_of_mem_declared hd) howned htends
  | report ns name patch => exact h.patchStatus_environment now ns name patch
  | clear ha => exact h.clear now ha
  | release hstored hscope hleft => exact h.release now hstored hscope hleft

end Pass

end Tended

structure World where
  cluster : Cluster := {}
  readings : List Object := []

namespace World

/-- What developers and passes lead to from an empty cluster. An environment is edited with the metadata that was read,
and a pass may be cut off after any number of calls. -/
inductive Reached (suffix : String) : World → Prop where
  | start : Reached suffix {}
  | submit {w : World} (now : Instant) (o : Object) : Reached suffix w →
      Reached suffix { w with cluster := (w.cluster.answer now (.create Kind.environment.resource o)).2 }
  | read {w : World} {o : Object} {c : Cluster} (now : Instant) (ns : Option String) (name : String) :
      Reached suffix w → w.cluster.answer now (.get (Environment.address ns name)) = (.ok o, c) →
      Reached suffix ⟨c, o :: w.readings⟩
  | edit {w : World} {o next : Object} (now : Instant) : Reached suffix w → o ∈ w.readings →
      next.metadata.exchanged = o.metadata.exchanged →
      Reached suffix { w with cluster := (w.cluster.answer now (.replace Kind.environment.resource next)).2 }
  | delete {w : World} (now : Instant) (ns : Option String) (name : String) : Reached suffix w →
      Reached suffix { w with cluster := (w.cluster.answer now (.delete (Environment.address ns name))).2 }
  | plant {w : World} (f : Fault) : Reached suffix w → Reached suffix { w with cluster := w.cluster.plant f }
  | clearFaults {w : World} : Reached suffix w → Reached suffix { w with cluster := w.cluster.clearFaults }
  | pass {w : World} (settings : Settings) (now : Instant) (ns name : String) (calls : Nat) :
      settings.domainSuffix = suffix → Reached suffix w →
      Reached suffix { w with cluster := Program.cut (answerer now) calls (Pass.run settings now ns name) w.cluster }

def readingKey (o : Object) : Key := (Call.addressOf Kind.environment.resource o).key

structure Sound (suffix : String) (c : Cluster) (readings : List Object) : Prop where
  tended : Tended suffix c
  known : ∀ o ∈ readings, c.Known (readingKey o) o

variable {suffix : String} {c : Cluster} {readings : List Object}

theorem Sound.answer (h : Sound suffix c readings) (now : Instant) {call : Call}
    (htended : Tended suffix (c.answer now call).2) : Sound suffix (c.answer now call).2 readings where
  tended := htended
  known o ho := (h.known o ho).advance (advanced_answer now c call)

theorem Sound.edit (h : Sound suffix c readings) (now : Instant) {o next : Object} (ho : o ∈ readings)
    (hnext : next.metadata.exchanged = o.metadata.exchanged) :
    Sound suffix (c.answer now (.replace Kind.environment.resource next)).2 readings := by
  refine h.answer now (h.tended.replace_environment now next ?_)
  intro current hcurrent hstale s _ hcarries
  left
  have hmember {β : Type} (f : Metadata → β) : f next.metadata.exchanged = f o.metadata.exchanged := congrArg f hnext
  have hname : next.metadata.name = o.metadata.name := hmember Metadata.name
  have hnamespace : next.metadata.namespace = o.metadata.namespace := hmember Metadata.namespace
  have hversion : next.metadata.resourceVersion = o.metadata.resourceVersion := hmember Metadata.resourceVersion
  have hfinalizers : next.metadata.finalizers = o.metadata.finalizers := hmember Metadata.finalizers
  have hknown := h.known o ho
  have hkey : readingKey o = (Call.addressOf Kind.environment.resource next).key := by
    rw [readingKey, Call.addressOf, Call.addressOf, Metadata.nameText, Metadata.nameText, hname, hnamespace]
  -- The replace is refused unless the version that was read is still stored.
  obtain ⟨n, -, hn⟩ := hknown.version
  have hsame : current.metadata.resourceVersion = o.metadata.resourceVersion := by
    rw [isStale, hversion, hn] at hstale
    rw [hn]
    simpa using hstale
  have hmetadata := hknown.current current (hkey ▸ hcurrent) hsame
  refine hcarries.congr ?_ ?_ rfl ?_
  · rw [hmetadata]
    exact hname
  · rw [hmetadata]
    exact hnamespace
  · rw [hmetadata]
    exact hfinalizers

theorem Sound.read (h : Sound suffix c readings) (now : Instant) {ns : Option String} {name : String} {o : Object}
    {c' : Cluster} (ho : c.answer now (.get (Environment.address ns name)) = (.ok o, c')) :
    Sound suffix c' (o :: readings) := by
  have hsound := h.answer now (h.tended.licit now (.look (Environment.address ns name)))
  rw [ho] at hsound
  refine ⟨hsound.tended, ?_⟩
  intro o' ho'
  rcases List.mem_cons.1 ho' with rfl | ho'
  · have hfind : c'.find? (Environment.address ns name).key = some o' := by
      have hlook := find?_look now c (Environment.address ns name) (Environment.address ns name).key
      rw [ho] at hlook
      exact hlook.trans (find?_of_look (congrArg Prod.fst ho))
    have hplaced := hsound.tended.kept _ _ hfind
    have hkey : readingKey o' = (Environment.address ns name).key := by
      rw [readingKey, Call.addressOf, hplaced.name, hplaced.namespace]
      rfl
    rw [hkey]
    exact hsound.tended.kept.known hfind
  · exact hsound.known o' ho'

theorem Sound.pass {settings : Settings} (h : Sound settings.domainSuffix c readings) (now : Instant)
    (ns name : String) (calls : Nat) :
    Sound settings.domainSuffix (Program.cut (answerer now) calls (Pass.run settings now ns name) c) readings := by
  have halong := (Pass.run_along settings now ns name h.tended.kept).kept
    (I := fun c' => Sound settings.domainSuffix c' readings)
    (fun call c' hsound hlicit => hsound.answer now (hsound.tended.licit now hlicit)) (fun _ _ hsound => hsound) h
  exact halong.cut (fun _ _ hend => hend.2) calls

theorem Sound.faults (h : Sound suffix c readings) {f : List Fault} : Sound suffix { c with faults := f } readings :=
  ⟨⟨h.tended.kept, h.tended.accounted⟩, fun o ho => ⟨(h.known o ho).version, (h.known o ho).current⟩⟩

theorem Reached.sound {w : World} (h : Reached suffix w) : Sound suffix w.cluster w.readings := by
  -- The claim alone is not inductive: a delete has to remove what it is made for, so nothing managed may be guarded,
  -- and an edit has to keep the finalizer, so a reading that is still current has the metadata that is stored.
  induction h with
  | start =>
      refine ⟨⟨?_, ?_⟩, ?_⟩
      · intro k o ho
        cases ho
      · intro k o ho
        cases ho
      · intro o ho
        cases ho
  | submit now o _ ih => exact ih.answer now (ih.tended.create_environment now o)
  | read now ns name _ ho ih => exact ih.read now ho
  | edit now _ ho hnext ih => exact ih.edit now ho hnext
  | delete now ns name _ ih => exact ih.answer now (ih.tended.delete_environment now ns name)
  | plant f _ ih => exact ih.faults (f := _)
  | clearFaults _ ih => exact ih.faults (f := _)
  | pass settings now ns name calls hsuffix _ ih =>
      subst hsuffix
      exact ih.pass now ns name calls

/-- Whatever is stored, other than environments, is a managed object of a stored environment that carries the
finalizer. -/
theorem no_orphans {w : World} (h : Reached suffix w) {k : Key} {o : Object} (ho : w.cluster.find? k = some o) :
    k.IsEnvironment ∨ Owned suffix w.cluster k :=
  (h.sound.tended.accounted k o ho).imp_right And.right

def interrupted : World where
  cluster := Program.cut (answerer midnight) 5 (Pass.run {} midnight "team" "alice") (submitted (some "alice") [])

theorem reached_interrupted : Reached "developerenv.adityajoshi.online" interrupted :=
  .pass {} midnight "team" "alice" 5 rfl (.submit midnight (submission (some "alice") []) .start)

theorem no_orphans_interrupted : ∃ k o, interrupted.cluster.find? k = some o ∧ k.kind = "Namespace" ∧
    (k.IsEnvironment ∨ Owned "developerenv.adityajoshi.online" interrupted.cluster k) := by
  have hstored : (interrupted.cluster.find?
      (Address.ofKind .namespace none (Names.dedicatedNamespace "alice")).key).isSome = true := by
    with_unfolding_all rfl
  obtain ⟨o, ho⟩ := Option.isSome_iff_exists.1 hstored
  exact ⟨_, o, ho, rfl, no_orphans reached_interrupted ho⟩

end World

end EnvironmentOperator
