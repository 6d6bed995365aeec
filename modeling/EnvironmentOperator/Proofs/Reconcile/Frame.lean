import EnvironmentOperator.Proofs.Reconcile.Pass

namespace EnvironmentOperator

open Cluster Environment

/-- What may become of the entry under a key. One step after the other is one step more. -/
structure Cluster.Gradual (R : Key → Option Object → Option Object → Prop) : Prop where
  refl : ∀ k x, R k x x
  trans : ∀ {k x y z}, R k x y → R k y z → R k x z

theorem Cluster.Gradual.answer {R : Key → Option Object → Option Object → Prop} (hR : Gradual R) (now : Instant)
    {c : Cluster} {call : Call} (h : R call.address.key (c.find? call.address.key)
      ((c.perform now call).2.find? call.address.key)) (k : Key) : R k (c.find? k) ((c.answer now call).2.find? k) := by
  by_cases hk : k = call.address.key
  · subst hk
    rcases answer_snd_cases now c call with ha | hspent
    · rw [ha]
      exact h
    · rw [hspent.find?]
      exact hR.refl _ _
  · rw [find?_answer_of_ne now c call hk]
    exact hR.refl _ _

theorem Cluster.Gradual.run {R : Key → Option Object → Option Object → Prop} (hR : Gradual R) {now : Instant}
    {ε α : Type} {p : Program ε α} {C : Call → Cluster → Prop} {Q : Except ε α → Cluster → Prop} {c : Cluster}
    (hk : c.Kept) (h : p.Along (answerer now) C Q c)
    (hstep : ∀ call c, c.Kept → C call c → R call.address.key (c.find? call.address.key)
      ((c.perform now call).2.find? call.address.key)) (k : Key) :
    R k (c.find? k) ((p.run (answerer now) c).2.find? k) := by
  have hkept := h.kept (I := fun c' => c'.Kept ∧ ∀ k, R k (c.find? k) (c'.find? k))
    (fun call c' hc hcall => ⟨hc.1.answer now call, fun k => hR.trans (hc.2 k)
      (hR.answer now (hstep call c' hc.1 hcall) k)⟩)
    (fun _ _ hc => hc) ⟨hk, fun k => hR.refl _ _⟩
  exact hkept.run.2.2 k

namespace Pass

def Managed (s : Scope) (k : Key) : Prop := ∃ a ∈ Teardown.managedObjects s, a.key = k

def createdOnce : List Kind := [.namespace, .issuer, .certificate]

def Lasting (k : Key) : Prop := ∃ kind ∈ createdOnce, k.kind = kind.name

inductive Provided (s : Scope) (k : Key) : Option Object → Option Object → Prop where
  | same (x : Option Object) : Provided s k x x
  | created (o : Object) : Managed s k → Provided s k none (some o)
  | revised (o o' : Object) : k = keyOf s ∨ Managed s k → ¬Lasting k → Provided s k (some o) (some o')

inductive Cleared (now : Instant) (s : Scope) (k : Key) : Option Object → Option Object → Prop where
  | same (x : Option Object) : Cleared now s k x x
  | removed {o : Object} : Managed s k → o.metadata.hasFinalizers = false → Cleared now s k (some o) none
  | stamped {o : Object} (c : Cluster) : Managed s k → o.metadata.hasFinalizers = true →
      o.metadata.deletionTimestamp = none → Cleared now s k (some o) (some (Cluster.marked now c o))
  | released (o : Object) (x : Option Object) : k = keyOf s → Cleared now s k (some o) x

variable {s : Scope} {k : Key} {x y : Option Object} {now : Instant}

theorem gradual_provided (s : Scope) : Gradual (Provided s) where
  refl _ := .same
  trans h h' := by
    cases h with
    | same => exact h'
    | created o hmanaged =>
        cases h' with
        | same => exact .created o hmanaged
        | revised _ o' => exact .created o' hmanaged
    | revised o o' howned hlasting =>
        cases h' with
        | same => exact .revised o o' howned hlasting
        | revised _ o'' => exact .revised o o'' howned hlasting

theorem gradual_cleared (now : Instant) (s : Scope) : Gradual (Cleared now s) where
  refl _ := .same
  trans h h' := by
    cases h with
    | same => exact h'
    | removed hmanaged hunguarded =>
        cases h' with
        | same => exact .removed hmanaged hunguarded
    | @stamped o c hmanaged hguarded hlive =>
        cases h' with
        | same => exact .stamped c hmanaged hguarded hlive
        -- The stamp keeps the finalizers, so the object is not removed, and it is not stamped again.
        | removed _ hunguarded => exact absurd (hguarded.symm.trans hunguarded) Bool.noConfusion
        | stamped _ _ _ hlive' => cases hlive'
        | released _ _ hkey => exact .released o _ hkey
    | released o _ hkey => exact .released o _ hkey

theorem Provided.eq_of_not_owned (h : Provided s k x y) (hown : k ≠ keyOf s) (hmanaged : ¬Managed s k) : y = x := by
  cases h with
  | same => rfl
  | created o h => exact absurd h hmanaged
  | revised o o' h => exact absurd h (not_or.2 ⟨hown, hmanaged⟩)

theorem Provided.stays (h : Provided s k x y) (hx : x ≠ none) : y ≠ none := by
  cases h with
  | same => exact hx
  | created => exact absurd rfl hx
  | revised => exact Option.some_ne_none _

theorem Provided.lasts {o : Object} (h : Provided s k (some o) y) (hk : Lasting k) : y = some o := by
  cases h with
  | same => rfl
  | revised _ _ _ hlasting => exact absurd hk hlasting

theorem Cleared.eq_of_not_owned (h : Cleared now s k x y) (hown : k ≠ keyOf s) (hmanaged : ¬Managed s k) : y = x := by
  cases h with
  | same => rfl
  | removed h => exact absurd h hmanaged
  | stamped c h => exact absurd h hmanaged
  | released _ _ h => exact absurd h hown

theorem Cleared.creates_nothing (h : Cleared now s k none y) : y = none := by
  cases h
  rfl

theorem Cleared.of_managed {o : Object} (h : Cleared now s k (some o) y) (hown : k ≠ keyOf s) :
    y = some o ∨ o.metadata.hasFinalizers = false ∧ y = none ∨
      o.metadata.hasFinalizers = true ∧ o.metadata.deletionTimestamp = none ∧
        ∃ c, y = some (Cluster.marked now c o) := by
  cases h with
  | same => exact .inl rfl
  | removed _ hunguarded => exact .inr (.inl ⟨hunguarded, rfl⟩)
  | stamped c _ hguarded hlive => exact .inr (.inr ⟨hguarded, hlive, c, rfl⟩)
  | released _ _ hkey => exact absurd hkey hown

section Steps

variable {c : Cluster} {call : Call}

inductive Furnishes (s : Scope) (c : Cluster) : Call → Prop where
  | look (a : Address) : Furnishes s c (.get a)
  | mark {o : Object} {env : Environment} : Stored c (keyOf s) o env → env.hasFinalizer = false →
      Furnishes s c (.replace Kind.environment.resource (Manifest.toObject env.withFinalizer))
  | tend {spec : EnvironmentSpec} {d : Declaration} {call : Call} : d ∈ Stage.declared s spec → d.Tends c call →
      Furnishes s c call
  | report (patch : Json) : Furnishes s c (.patchStatus (Environment.address (some s.namespace) s.name) patch)

inductive Dismantles (s : Scope) (c : Cluster) : Call → Prop where
  | look (a : Address) : Dismantles s c (.get a)
  | clear {a : Address} : a ∈ Teardown.managedObjects s → Dismantles s c (.delete a)
  | release {o : Object} {env : Environment} : Stored c (keyOf s) o env →
      Dismantles s c (.replace Kind.environment.resource (Manifest.toObject env.withoutFinalizer))

theorem not_lasting_keyOf (s : Scope) : ¬Lasting (keyOf s) := by
  rintro ⟨kind, hkind, h⟩
  have h : Kind.environment.name = kind.name := h
  cases Kind.name_injective h
  revert hkind
  decide

theorem managed_of_declared {spec : EnvironmentSpec} {d : Declaration} (h : d ∈ Stage.declared s spec) :
    Managed s d.address.key := ⟨d.address, Stage.mem_managedObjects.2 ⟨d, h, rfl⟩, rfl⟩

theorem not_lasting_of_revision {spec : EnvironmentSpec} {d : Declaration} {live next : Object}
    (hd : d ∈ Stage.declared s spec) (h : d.revision live = .ok (some next)) : ¬Lasting d.address.key := by
  rintro ⟨kind, hkind, hname⟩
  have hname : d.kind.name = kind.name := hname
  have hkind : d.kind ∈ createdOnce := Kind.name_injective hname ▸ hkind
  simp only [Stage.declared, Stage.all, Stage.declarations, List.flatMap_cons, List.flatMap_nil, List.mem_append,
    List.mem_cons, List.not_mem_nil, or_false] at hd
  rcases hd with rfl | (rfl | rfl) | rfl | (rfl | rfl | rfl | rfl | rfl) | (rfl | rfl | rfl)
  · cases h
  · cases h
  · cases h
  all_goals simp [createdOnce, Declaration.overwrite, Manifest.kind] at hkind

theorem provided_of_put {o : Object} (hown : k = keyOf s ∨ Managed s k) (hlasting : ¬Lasting k) (h : c.find? k = some o)
    (o' : Object) : Provided s k (c.find? k) ((c.commit (Dict.put c.objects k o')).find? k) := by
  rw [find?_commit_put, if_pos rfl, h]
  exact .revised o o' hown hlasting

theorem Furnishes.provided (h : Furnishes s c call) (now : Instant) (hk : c.Kept) :
    Provided s call.address.key (c.find? call.address.key) ((c.perform now call).2.find? call.address.key) := by
  cases h with
  | look a => exact .same _
  | @mark o env hstored hunmarked =>
      have hkey : (Call.addressOf Kind.environment.resource (Manifest.toObject env.withFinalizer)).key = keyOf s :=
        key_withFinalizers env.marking hk hstored
      rw [Call.address, hkey, perform, replace_withFinalizer hk hstored hunmarked]
      exact provided_of_put (.inl rfl) (not_lasting_keyOf s) hstored.1 _
  | @tend spec d _ hd htends =>
      cases htends with
      | look => exact .same _
      | create hmissing =>
          have hmissing : c.find? (Call.addressOf d.kind.resource d.desired).key = none := hmissing
          rw [Call.address, perform, create_of_missing hmissing, hmissing, find?_commit_put, if_pos rfl]
          exact .created _ (managed_of_declared hd)
      | @revise live next hlive hnext =>
          have hlawful := Stage.lawful_of_mem_declared hd
          rw [Call.address, Declaration.key_of_revision hlawful hk hlive hnext, perform,
            Declaration.replace_of_revision hlawful hk hlive hnext]
          exact provided_of_put (.inr (managed_of_declared hd)) (not_lasting_of_revision hd hnext) hlive _
  | report patch =>
      rw [Call.address, perform, patchStatus]
      cases hfind : c.find? (Environment.address (some s.namespace) s.name).key with
      | none =>
          dsimp only
          rw [hfind]
          exact .same _
      | some o =>
          dsimp only
          split
          · rw [hfind]
            exact .same _
          · rw [← hfind]
            exact provided_of_put (.inl rfl) (not_lasting_keyOf s) hfind _

theorem Dismantles.cleared (h : Dismantles s c call) (now : Instant) (hk : c.Kept) :
    Cleared now s call.address.key (c.find? call.address.key) ((c.perform now call).2.find? call.address.key) := by
  cases h with
  | look a => exact .same _
  | @clear a ha =>
      have hmanaged : Managed s a.key := ⟨a, ha, rfl⟩
      rw [Call.address, perform]
      cases hfind : c.find? a.key with
      | none =>
          rw [Teardown.delete_of_missing now hfind, hfind]
          exact .same _
      | some o =>
          cases hguarded : o.metadata.hasFinalizers with
          | false =>
              rw [Teardown.delete_of_unguarded now hfind hguarded]
              rw [Cluster.find?, Dict.at?_without, if_pos rfl]
              exact .removed hmanaged hguarded
          | true =>
              rw [Teardown.delete_of_guarded now hfind hguarded]
              dsimp only
              split
              · rw [hfind]
                exact .same _
              · rename_i hlive
                rw [find?_commit_put, if_pos rfl]
                exact .stamped c hmanaged hguarded (by simpa using hlive)
  | @release o env hstored =>
      rw [Call.address, key_withoutFinalizer hk hstored, hstored.1]
      exact .released o _ rfl

end Steps

section Runs

variable {suffix : String} {c : Cluster} {o : Object} {env : Environment}

theorem converge_furnishes (now : Instant) (hk : c.Kept) :
    (converge env s now).Along (answerer now) (fun call c' => Furnishes s c' call) (fun _ _ => True) c := by
  refine Program.along_bind.2 ?_
  refine (Stage.provisionAll_along now Stage.all (Stage.declared_keys_nodup s env.spec) hk).mono
    (fun _ _ ⟨d, hd, htends⟩ => .tend hd htends) ?_
  intro r c₁ _
  cases r with
  | error e => trivial
  | ok _ =>
      refine Program.along_bind.2 (Program.along_mapError.2 ?_)
      refine Status.along_markReady.2 ⟨.report _, ?_⟩
      split <;> trivial

theorem work_furnishes (now : Instant) (hk : c.Kept) (hstored : Stored c (keyOf s) o env)
    (hscope : Scope.ofEnvironment env suffix = .ok s) (hlive : env.metadata.deletionTimestamp = none) :
    (work env s now).Along (answerer now) (fun call c' => Furnishes s c' call) (fun _ _ => True) c := by
  unfold work lifecycle
  rw [hlive]
  cases hmarked : env.hasFinalizer with
  | true => exact converge_furnishes now hk
  | false =>
      have hkept := Program.Along.of_kept (w := answerer now) (I := Kept)
        (fun call _ hc => hc.answer now call) (fun _ _ hc => hc) env.addFinalizer hk
      refine Program.along_bind.2 (Program.along_mapError.2 ?_)
      refine ((addFinalizer_along now hk hstored (scope_namespace hscope).1 hmarked).and hkept).mono ?_ ?_
      · rintro call c' ⟨⟨hspent, rfl | rfl⟩, -⟩
        · exact .look _
        · exact .mark (hstored.spent hspent) hmarked
      · rintro r c₁ ⟨-, hk₁⟩
        cases r with
        | error e => trivial
        | ok env₁ => exact converge_furnishes now hk₁

theorem work_dismantles (now : Instant) (hk : c.Kept) (hstored : Stored c (keyOf s) o env)
    (hterminating : env.metadata.deletionTimestamp.isSome = true) (hmarked : env.hasFinalizer = true) :
    (work env s now).Along (answerer now) (fun call c' => Dismantles s c' call) (fun _ _ => True) c := by
  unfold work lifecycle
  rw [hterminating, hmarked]
  refine Program.along_bind.2 (Program.along_mapError.2 ?_)
  refine (Teardown.deleteAll_along now (Teardown.managedObjects s) hk).mono
    (fun _ _ ⟨a, ha, hcall⟩ => hcall ▸ .clear ha) ?_
  intro r c₁ h
  cases r with
  | error e => trivial
  | ok _ =>
      have hothers := h.others (keyOf s) fun a ha => (ne_keyOf (Teardown.kind_of_mem_managedObjects ha) s).symm
      refine Program.along_bind.2 (Program.along_mapError.2 ?_)
      refine Program.along_request_bind.2 ⟨.release ⟨hothers.trans hstored.1, hstored.2⟩, ?_⟩
      split <;> trivial

theorem run_of_work {settings : Settings} {ns name : String} {C : Call → Cluster → Prop}
    {Q : Except PassError PassOutcome → Cluster → Prop} (hlook : C (.get (Environment.address (some ns) name)) c)
    (hwork : ∀ o env s, Stored c (Environment.address (some ns) name).key o env →
      Scope.ofEnvironment env settings.domainSuffix = .ok s → (work env s now).Along (answerer now) C Q c)
    (hgone : ∀ c', Spent c c' → c.find? (Environment.address (some ns) name).key = none → Q (.ok .gone) c')
    (herror : ∀ e c', (∀ stage failure, e ≠ .provisioning stage failure) → Spent c c' → Q (.error e) c') :
    (run settings now ns name).Along (answerer now) C Q c := by
  refine Program.along_bind.2 (Program.along_result.2 ?_)
  refine (fetch_along now c (some ns) name).mono (fun _ _ ⟨hc, hcall⟩ => hc ▸ hcall ▸ hlook) ?_
  intro r c' hfetched
  cases r with
  | error e =>
      show Program.Along _ _ _ (if e.isNotFound = true then pure PassOutcome.gone
        else .fail (PassError.fetch name e)) c'
      split
      · exact hgone c' hfetched.1 (hfetched.2.1 ‹_›)
      · exact herror _ c' nofun hfetched.1
  | ok env =>
      obtain ⟨rfl, -, o, hstored⟩ := hfetched
      dsimp only
      cases hscope : Scope.ofEnvironment env settings.domainSuffix with
      | error member => exact herror _ _ nofun (Spent.refl _)
      | ok s => exact hwork o env s hstored hscope

end Runs

section Frame

variable {settings : Settings} {ns name : String} {c : Cluster}

/-- The identity that a pass is called with. No object is named by the uid. -/
def passScope (settings : Settings) (ns name : String) : Scope := ⟨name, ns, "", settings.domainSuffix⟩

theorem eq_of_scope {o : Object} {env : Environment} (hk : c.Kept)
    (hstored : Stored c (Environment.address (some ns) name).key o env)
    (hscope : Scope.ofEnvironment env settings.domainSuffix = .ok s) :
    s = { passScope settings ns name with uid := s.uid } := by
  obtain ⟨rfl, rfl⟩ := scope_of_stored hk hstored hscope
  obtain ⟨hname, hnamespace⟩ := scope_namespace hscope
  rw [Scope.ofEnvironment, hname, hnamespace] at hscope
  rw [← Except.ok.inj hscope]
  rfl

/-- How the entries fare in a pass: nothing happens, or the environment is provisioned, or it is torn down. -/
inductive Course (settings : Settings) (now : Instant) (ns name : String) (c c' : Cluster) : Prop where
  | idle : (∀ k, c'.find? k = c.find? k) → Course settings now ns name c c'
  | provisions {o : Object} {env : Environment} (uid : String) :
      Stored c (Environment.address (some ns) name).key o env → env.metadata.name ≠ none →
      env.metadata.deletionTimestamp = none →
      (∀ k, Provided { passScope settings ns name with uid } k (c.find? k) (c'.find? k)) →
      Course settings now ns name c c'
  | tearsDown {o : Object} {env : Environment} (uid : String) :
      Stored c (Environment.address (some ns) name).key o env → env.metadata.name ≠ none →
      env.metadata.deletionTimestamp.isSome = true → env.hasFinalizer = true →
      (∀ k, Cleared now { passScope settings ns name with uid } k (c.find? k) (c'.find? k)) →
      Course settings now ns name c c'

theorem run_course (settings : Settings) (now : Instant) (ns name : String) (hk : c.Kept) :
    Course settings now ns name c ((run settings now ns name).run (answerer now) c).2 := by
  by_cases hscoped : ∃ o env s, Stored c (Environment.address (some ns) name).key o env ∧
      Scope.ofEnvironment env settings.domainSuffix = .ok s
  · obtain ⟨o, env, s, hstored, hscope⟩ := hscoped
    have hnamed : env.metadata.name ≠ none := by
      rw [(scope_namespace hscope).1]
      exact Option.some_ne_none _
    have hwork {C : Call → Cluster → Prop} {Q : Except PassError PassOutcome → Cluster → Prop}
        (h : (work env s now).Along (answerer now) C Q c) : ∀ o' env' s',
        Stored c (Environment.address (some ns) name).key o' env' →
          Scope.ofEnvironment env' settings.domainSuffix = .ok s' → (work env' s' now).Along (answerer now) C Q c := by
      intro o' env' s' hstored' hscope'
      obtain ⟨rfl, rfl⟩ := hstored.unique hstored'
      cases hscope.symm.trans hscope'
      exact h
    have hkey := keyOf_of_stored hk hstored hscope
    have hs := eq_of_scope hk hstored hscope
    cases hmark : env.metadata.deletionTimestamp with
    | none =>
        have halong := run_of_work (Q := fun _ _ => True) (.look _)
          (hwork (work_furnishes now hk (hkey ▸ hstored) hscope hmark)) (fun _ _ _ => trivial)
          (fun _ _ _ _ => trivial)
        have hprovided := (gradual_provided s).run hk halong fun call c hk h => h.provided now hk
        rw [hs] at hprovided
        exact .provisions s.uid hstored hnamed hmark hprovided
    | some t =>
        have hterminating : env.metadata.deletionTimestamp.isSome = true := by rw [hmark]; rfl
        cases hmarked : env.hasFinalizer with
        | true =>
            have halong := run_of_work (Q := fun _ _ => True) (.look _)
              (hwork (work_dismantles now hk (hkey ▸ hstored) hterminating hmarked)) (fun _ _ _ => trivial)
              (fun _ _ _ _ => trivial)
            have hcleared := (gradual_cleared now s).run hk halong fun call c hk h => h.cleared now hk
            rw [hs] at hcleared
            exact .tearsDown s.uid hstored hnamed hterminating hmarked hcleared
        | false =>
            have hgone : (work env s now).Along (answerer now) (fun _ _ => True) (fun _ c' => Spent c c') c := by
              simp only [work, lifecycle, hterminating, hmarked]
              exact Spent.refl c
            exact .idle (run_of_work trivial (hwork hgone) (fun _ h _ => h) (fun _ _ _ h => h)).run.find?
  · have halong : (run settings now ns name).Along (answerer now) (fun _ _ => True) (fun _ c' => Spent c c') c :=
      run_of_work trivial (fun o env s hstored hscope => absurd ⟨o, env, s, hstored, hscope⟩ hscoped)
        (fun _ h _ => h) (fun _ _ _ h => h)
    exact .idle halong.run.find?

structure Frame (settings : Settings) (now : Instant) (ns name : String) (c c' : Cluster) : Prop where
  others : ∀ k, k ≠ (Environment.address (some ns) name).key → ¬Managed (passScope settings ns name) k →
    c'.find? k = c.find? k
  live : ∀ o env, Stored c (Environment.address (some ns) name).key o env → env.metadata.deletionTimestamp = none →
    (∀ k, c.find? k ≠ none → c'.find? k ≠ none) ∧
      ∀ k left, Lasting k → c.find? k = some left → c'.find? k = some left
  terminating : ∀ o env, Stored c (Environment.address (some ns) name).key o env →
    env.metadata.deletionTimestamp.isSome = true → env.hasFinalizer = true →
      (∀ k, c.find? k = none → c'.find? k = none) ∧
        ∀ k left, Managed (passScope settings ns name) k → c.find? k = some left → c'.find? k = some left ∨
          left.metadata.hasFinalizers = false ∧ c'.find? k = none ∨
          left.metadata.hasFinalizers = true ∧ left.metadata.deletionTimestamp = none ∧
            ∃ c₀, c'.find? k = some (Cluster.marked now c₀ left)
  idle : (∀ o env, Stored c (Environment.address (some ns) name).key o env → env.metadata.name = none ∨
    env.metadata.deletionTimestamp.isSome = true ∧ env.hasFinalizer = false) → ∀ k, c'.find? k = c.find? k

theorem Managed.ne_keyOf {s' : Scope} (h : Managed s k) : k ≠ keyOf s' := by
  obtain ⟨a, ha, rfl⟩ := h
  exact Pass.ne_keyOf (Teardown.kind_of_mem_managedObjects ha) s'

/-- A pass keeps to the managed objects and the environment itself, removes nothing while it provisions, creates
nothing while it tears down, and does nothing where there is nothing to do. -/
theorem run_frame (settings : Settings) (now : Instant) (ns name : String) (h : Reachable c) :
    Frame settings now ns name c ((run settings now ns name).run (answerer now) c).2 := by
  cases run_course settings now ns name h.kept with
  | idle hsame =>
      refine ⟨fun k _ _ => hsame k, fun o env _ _ => ⟨fun k hk => ?_, fun k left _ hk => ?_⟩,
        fun o env _ _ _ => ⟨fun k hk => ?_, fun k left _ hk => ?_⟩, fun _ => hsame⟩
      · exact hsame k ▸ hk
      · exact (hsame k).trans hk
      · exact (hsame k).trans hk
      · exact .inl ((hsame k).trans hk)
  | provisions uid hstored hnamed hlive hprovided =>
      refine ⟨fun k hown hmanaged => (hprovided k).eq_of_not_owned hown hmanaged,
        fun o env _ _ => ⟨fun k => (hprovided k).stays, fun k left hlasting hk => ?_⟩, ?_, ?_⟩
      · exact (hk ▸ hprovided k).lasts hlasting
      · intro o' env' hstored' hterminating _
        rw [(hstored.unique hstored').2, hlive] at hterminating
        cases hterminating
      · intro hidle
        rcases hidle _ _ hstored with hname | ⟨hterminating, -⟩
        · exact absurd hname hnamed
        · rw [hlive] at hterminating
          cases hterminating
  | tearsDown uid hstored hnamed hterminating hmarked hcleared =>
      refine ⟨fun k hown hmanaged => (hcleared k).eq_of_not_owned hown hmanaged, ?_,
        fun o env _ _ _ => ⟨fun k hk => ?_, fun k left hmanaged hk => ?_⟩, ?_⟩
      · intro o' env' hstored' hlive
        rw [(hstored.unique hstored').2] at hlive
        rw [hlive] at hterminating
        cases hterminating
      · exact (hk ▸ hcleared k).creates_nothing
      · exact (hk ▸ hcleared k).of_managed hmanaged.ne_keyOf
      · intro hidle
        rcases hidle _ _ hstored with hname | ⟨-, hunmarked⟩
        · exact absurd hname hnamed
        · rw [hmarked] at hunmarked
          cases hunmarked

theorem run_frame_submitted : Frame {} midnight "team" "alice" (submitted (some "alice") [])
    ((run {} midnight "team" "alice").run (answerer midnight) (submitted (some "alice") [])).2 :=
  run_frame {} midnight "team" "alice" reachable_submitted

end Frame

end Pass

end EnvironmentOperator
