import EnvironmentOperator.Proofs.Cluster.Scene
import EnvironmentOperator.Proofs.Reconcile.Pass

namespace EnvironmentOperator

open Cluster Environment Exchange

theorem Program.bind_assoc {ε α β γ : Type} (p : Program ε α) (f : α → Program ε β) (g : β → Program ε γ) :
    (p.bind f).bind g = p.bind fun a => (f a).bind g := by
  induction p with
  | done a => rfl
  | fail e => rfl
  | measure m rest ih => exact congrArg (Program.measure m) ih
  | call c next ih => exact congrArg (Program.call c) (funext ih)

namespace Pass

inductive Decision where
  | stop (outcome : PassOutcome)
  | tearDown (env : Environment) (s : Scope)
  | provision (env : Environment) (s : Scope)

def Decision.carryOut (now : Instant) : Decision → Program PassError PassOutcome
  | .stop outcome => .done outcome
  | .tearDown env s => release env s
  | .provision env s => converge env s now

def resolve (env : Environment) (s : Scope) : Program PassError Decision :=
  match env.lifecycle with
  | .terminating true => .done (.tearDown env s)
  | .terminating false => .done (.stop .gone)
  | .live false => do
      let env ← env.addFinalizer.mapError (.finalizer s.name)
      return .provision env s
  | .live true => .done (.provision env s)

def prepare (settings : Settings) (ns name : String) : Program PassError Decision := do
  let fetched ← Program.result (Environment.fetch (some ns) name)
  match fetched with
  | .error e => if e.isNotFound then return .stop .gone else .fail (.fetch name e)
  | .ok env =>
      match Scope.ofEnvironment env settings.domainSuffix with
      | .error member => .fail (.incomplete member)
      | .ok s => resolve env s

theorem work_resolves (env : Environment) (s : Scope) (now : Instant) :
    work env s now = (resolve env s).bind (Decision.carryOut now) := by
  unfold work resolve
  cases env.lifecycle with
  | live marked =>
      cases marked with
      | false =>
          exact (Program.bind_assoc (env.addFinalizer.mapError (.finalizer s.name))
            (fun env => .done (.provision env s)) (Decision.carryOut now)).symm
      | true => rfl
  | terminating marked => cases marked <;> rfl

theorem run_prepares (settings : Settings) (now : Instant) (ns name : String) :
    run settings now ns name = (prepare settings ns name).bind (Decision.carryOut now) := by
  unfold run prepare
  refine Eq.trans ?_ (Program.bind_assoc ..).symm
  refine congrArg _ (funext fun fetched => ?_)
  cases fetched with
  | error e =>
      dsimp only
      split <;> rfl
  | ok env =>
      dsimp only
      cases Scope.ofEnvironment env settings.domainSuffix with
      | error member => rfl
      | ok s => exact work_resolves ..

section Obtain

variable {R : Scene → Scene → Prop} {k : Key} {looked : List Object} {o : Object} {env : Environment} {s s' : Scene}
  {ns : Option String} {name : String} {scope : Scope}

/-- The environment was stored at a moment when these looks had been made. Since then others have been at work. -/
def Had (R : Scene → Scene → Prop) (k : Key) (looked : List Object) (o : Object) (env : Environment) (s : Scene) :
    Prop :=
  ∃ s₁, s₁.cluster.Kept ∧ Stored s₁.cluster k o env ∧ looks s₁.history = looked ∧ R s₁ s

theorem Had.rely (h : Had R k looked o env s) (hR : Rely R) (hs' : R s s') : Had R k looked o env s' := by
  obtain ⟨s₁, hk, hstored, hlooked, hs⟩ := h
  exact ⟨s₁, hk, hstored, hlooked, hR.trans hs hs'⟩

theorem Had.kept (h : Had R k looked o env s) (hlapse : ∀ s s', R s s' → s.Lapse s') : s.cluster.Kept := by
  obtain ⟨s₁, hk, -, -, hs⟩ := h
  exact (hlapse _ _ hs).kept hk

theorem Had.looks (h : Had R k looked o env s) (hlapse : ∀ s s', R s s' → s.Lapse s') : looks s.history = looked := by
  obtain ⟨s₁, -, -, hlooked, hs⟩ := h
  rw [(hlapse _ _ hs).history, hlooked]

theorem Had.named (h : Had R (Environment.address ns name).key looked o env s) :
    env.metadata.namespace = ns ∧ env.metadata.nameText = name := by
  obtain ⟨s₁, hk, hstored, -, -⟩ := h
  have hplaced := hk _ _ hstored.1
  rw [hstored.metadata]
  exact ⟨hplaced.namespace, hplaced.name⟩

theorem Had.deletion (h : Had R k looked o env s) :
    env.metadata.deletionTimestamp.isSome = o.metadata.deletionTimestamp.isSome := by
  obtain ⟨s₁, -, hstored, -, -⟩ := h
  rw [hstored.metadata]
  exact Option.isSome_map

theorem Had.uid (h : Had R k looked o env s) : env.metadata.uid = o.metadata.uid := by
  obtain ⟨s₁, -, hstored, -, -⟩ := h
  rw [hstored.metadata]
  rfl

theorem Had.generation (h : Had R k looked o env s) : ∃ generation, env.metadata.generation = some generation := by
  obtain ⟨s₁, hk, hstored, -, -⟩ := h
  rw [hstored.metadata]
  exact Option.isSome_iff_exists.1 (hk _ _ hstored.1).generation

theorem Had.accepted (h : Had R (Environment.address ns name).key looked o env s)
    (hlapse : ∀ s s', R s s' → s.Lapse s') (finalizers : List String) {written : Object}
    (hwritten : (s.cluster.answer s.now
      (.replace Kind.environment.resource (Manifest.toObject (env.withFinalizers finalizers)))).1 = .ok written) :
    Stored s.cluster (Environment.address ns name).key o env := by
  obtain ⟨s₁, hk, hstored, -, hs⟩ := h
  have hkey := key_withFinalizers finalizers hk hstored
  have hbased : Based Kind.environment.resource (Manifest.toObject (env.withFinalizers finalizers)) s₁.cluster o := by
    refine ⟨hkey ▸ hstored.1, ?_⟩
    show env.metadata.resourceVersion = _
    rw [hstored.metadata]
    rfl
  have hfind := hbased.accepted hk (hlapse _ _ hs).later hwritten
  exact ⟨hkey ▸ hfind, hstored.2⟩

inductive Computed (R : Scene → Scene → Prop) (k : Key) (s : Scene) : Call → Prop where
  | look (a : Address) : Computed R k s (.get a)
  | rewrite {looked : List Object} {o : Object} {env : Environment} (finalizers : List String) :
      Had R k looked o env s →
      Computed R k s (.replace Kind.environment.resource (Manifest.toObject (env.withFinalizers finalizers)))

theorem looks_append (history : List Exchange) (x : Exchange) :
    looks (history ++ [x]) = looks history ++ x.found?.toList := by
  rw [looks, List.filterMap_append]
  cases hfound : x.found? <;> simp [looks, hfound]

theorem fetch_amid (hlapse : ∀ s s', R s s' → s.Lapse s') (hk : s.cluster.Kept) (ns : Option String) (name : String) :
    (fetch ns name).Amid Scene.answerer R (fun call s => Computed R k s call) (fun r s' => match r with
      | .ok env => ∃ o, Had R (Environment.address ns name).key (looks s.history ++ [o]) o env s'
      | .error _ => True) s := by
  refine Program.amid_request_bind.2 fun s₁ hs₁ => ⟨.look _, ?_⟩
  have hk₂ := ((hlapse _ _ hs₁).kept hk).answer s₁.now (.get (Environment.address ns name))
  cases hanswer : (s₁.cluster.answer s₁.now (.get (Environment.address ns name))).1 with
  | error e =>
      simp only [Scene.answerer, hanswer]
      exact fun _ _ => trivial
  | ok o =>
      change Object at o
      simp only [Scene.answerer, hanswer, Program.amid_ofExcept]
      intro s₂ hs₂
      cases hread : (Manifest.ofObject o : Except DecodeError Environment) with
      | error e =>
          rw [Object.typed, hread]
          trivial
      | ok env =>
          rw [typed_of_ok hread]
          refine ⟨o, _, hk₂, ⟨(find?_look ..).trans (find?_of_look hanswer), hread⟩, ?_, hs₂⟩
          rw [looks_append, (hlapse _ _ hs₁).history]
          rfl

variable (hR : Rely R) (hlapse : ∀ s s', R s s' → s.Lapse s')

include hR hlapse

theorem write_amid (hhad : Had R (Environment.address ns name).key looked o env s)
    (hunmarked : env.hasFinalizer = false) :
    env.withFinalizer.write.Amid Scene.answerer R (fun call s => Computed R (Environment.address ns name).key s call)
      (fun r s' => match r with
      | .ok env' => env'.hasFinalizer = true ∧
          env'.metadata.deletionTimestamp.isSome = env.metadata.deletionTimestamp.isSome ∧
          env'.metadata.uid = env.metadata.uid ∧ ∃ o', Had R (Environment.address ns name).key looked o' env' s'
      | .error _ => s'.cluster.Kept ∧ looks s'.history = looked) s := by
  refine Program.amid_request_bind.2 fun s₁ hs₁ => ⟨.rewrite env.marking (hhad.rely hR hs₁), ?_⟩
  have hhad₁ := hhad.rely hR hs₁
  have hlooked := hhad₁.looks hlapse
  have hk₁ := hhad₁.kept hlapse
  have hkept := hk₁.answer s₁.now (.replace Kind.environment.resource (Manifest.toObject env.withFinalizer))
  have hlooks (r : Except StoreError Object) : looks (s₁.history ++
      [⟨.replace Kind.environment.resource (Manifest.toObject env.withFinalizer), r⟩]) = looked := by
    rw [looks_append, hlooked]
    exact List.append_nil _
  cases hanswer : s₁.cluster.answer s₁.now
      (.replace Kind.environment.resource (Manifest.toObject env.withFinalizer)) with
  | mk r c₂ =>
      rw [hanswer] at hkept
      simp only [Scene.answerer, hanswer]
      cases r with
      | error e =>
          intro s₂ hs₂
          refine ⟨(hlapse _ _ hs₂).kept hkept, ?_⟩
          rw [(hlapse _ _ hs₂).history]
          exact hlooks _
      | ok written =>
          have hstored := hhad₁.accepted hlapse env.marking (congrArg Prod.fst hanswer)
          have ha := answer_of_ok (congrArg Prod.fst hanswer)
          rw [hanswer, perform, replace_withFinalizer hk₁ hstored hunmarked] at ha
          cases ha
          simp only [Program.amid_ofExcept]
          intro s₂ hs₂
          have hread : Manifest.ofObject (marked s₁.cluster o env) = .ok _ :=
            ofObject_rewritten s₁.cluster env.marking hstored.2
          rw [typed_of_ok hread]
          refine ⟨?_, ?_, hhad.uid.symm, _, _, hkept, ⟨(find?_commit_put ..).trans (if_pos rfl), hread⟩, hlooks _, hs₂⟩
          · exact (Marks.put (k := (Environment.address ns name).key) hunmarked (Spent.refl _)).marked
          · rw [hhad.deletion]
            exact Option.isSome_map

/-- The environment that is to be provisioned: it bears the finalizer, and its deletion has been asked for if and only
if some look has shown that. It is the one of the last look, while the scope is that of the first. -/
structure Equipped (R : Scene → Scene → Prop) (k : Key) (scope : Scope) (env : Environment) (s : Scene) : Prop where
  marked : env.hasFinalizer = true
  deletion : env.metadata.deletionTimestamp.isSome = true ↔
    ∃ o ∈ looks s.history, o.metadata.deletionTimestamp.isSome = true
  had : ∃ o, Had R k (looks s.history) o env s
  first : ∃ o, (looks s.history).head? = some o ∧ scope.uid = o.metadata.uid.getD ""
  last : ∃ o, (looks s.history).getLast? = some o ∧ env.metadata.uid = o.metadata.uid

omit hlapse in
theorem Equipped.rely (h : Equipped R k scope env s) (hhistory : s'.history = s.history) (hs' : R s s') :
    Equipped R k scope env s' := by
  obtain ⟨o, hhad⟩ := h.had
  refine ⟨h.marked, ?_, ⟨o, ?_⟩, ?_, ?_⟩
  · rw [hhistory]
    exact h.deletion
  · rw [hhistory]
    exact hhad.rely hR hs'
  · rw [hhistory]
    exact h.first
  · rw [hhistory]
    exact h.last

theorem addFinalizerAnew_amid {first : Object} (hk : s.cluster.Kept) (hlooked : looks s.history = [first])
    (hfirst : first.metadata.deletionTimestamp.isSome = false) (huid : scope.uid = first.metadata.uid.getD "")
    (hnamespace : env.metadata.namespace = ns)
    (hname : env.metadata.name = some name) :
    env.addFinalizerAnew.Amid Scene.answerer R (fun call s => Computed R (Environment.address ns name).key s call)
      (fun r s' => match r with
      | .ok env' => Equipped R (Environment.address ns name).key scope env' s'
      | .error _ => True) s := by
  have hready {latest env' : Environment} {o o' : Object} {s₁ s' : Scene}
      (hlatest : Had R (Environment.address ns name).key (looks s.history ++ [o]) o latest s₁)
      (hmarked : env'.hasFinalizer = true)
      (hdeletion : env'.metadata.deletionTimestamp.isSome = latest.metadata.deletionTimestamp.isSome)
      (hsame : env'.metadata.uid = latest.metadata.uid)
      (hhad : Had R (Environment.address ns name).key (looks s.history ++ [o]) o' env' s') :
      Equipped R (Environment.address ns name).key scope env' s' := by
    have hlooks := hhad.looks hlapse
    refine ⟨hmarked, ?_, ⟨o', hlooks ▸ hhad⟩, ⟨first, ?_, huid⟩, o, ?_, hsame.trans hlatest.uid⟩
    · rw [hlooks, hlooked, hdeletion, hlatest.deletion]
      simp [hfirst]
    · rw [hlooks, hlooked]
      rfl
    · rw [hlooks, hlooked]
      rfl
  have haddress : fetch env.metadata.namespace env.metadata.anyName = fetch ns name := by
    rw [hnamespace, Metadata.anyName, hname]
    rfl
  rw [addFinalizerAnew, haddress]
  refine Program.amid_bind hR ((fetch_amid hlapse hk ns name).mono (fun _ _ h => h) ?_)
  intro r s₁ hfetched
  cases r with
  | error e => trivial
  | ok latest =>
      obtain ⟨o, hlatest⟩ := hfetched
      dsimp only
      split
      · rename_i hmarked
        exact fun s' hs' => hready hlatest hmarked rfl rfl (hlatest.rely hR hs')
      · rename_i hunmarked
        refine (write_amid hR hlapse hlatest (by simpa using hunmarked)).mono (fun _ _ h => h) ?_
        intro r s' hwritten
        cases r with
        | error e => trivial
        | ok env' =>
            obtain ⟨hmarked, hdeletion, hsame, o', hhad⟩ := hwritten
            exact hready hlatest hmarked hdeletion hsame hhad

theorem addFinalizer_amid (hhad : Had R (Environment.address ns name).key [o] o env s)
    (hlive : env.metadata.deletionTimestamp.isSome = false) (hunmarked : env.hasFinalizer = false)
    (hname : env.metadata.name = some name) (huid : scope.uid = env.metadata.uid.getD "") :
    env.addFinalizer.Amid Scene.answerer R (fun call s => Computed R (Environment.address ns name).key s call)
      (fun r s' => match r with
      | .ok env' => Equipped R (Environment.address ns name).key scope env' s'
      | .error _ => True) s := by
  have hfirst : o.metadata.deletionTimestamp.isSome = false := hhad.deletion.symm.trans hlive
  refine Program.amid_bind hR (Program.amid_result.2 ((write_amid hR hlapse hhad hunmarked).mono (fun _ _ h => h) ?_))
  intro r s₁ hwritten
  cases r with
  | ok env' =>
      intro s' hs'
      obtain ⟨hmarked, hdeletion, hsame, o', hhad'⟩ := hwritten
      have hhad'' := hhad'.rely hR hs'
      have hlooks := hhad''.looks hlapse
      refine ⟨hmarked, ?_, ⟨o', hlooks ▸ hhad''⟩, ⟨o, ?_, hhad.uid ▸ huid⟩, o, ?_, hsame.trans hhad.uid⟩
      · rw [hlooks, hdeletion, hlive]
        simp [hfirst]
      · rw [hlooks]
        rfl
      · rw [hlooks]
        rfl
  | error e =>
      obtain ⟨hk, hlooks⟩ := hwritten
      dsimp only
      split
      · exact addFinalizerAnew_amid hR hlapse hk hlooks hfirst (hhad.uid ▸ huid) hhad.named.1 hname
      · exact fun _ _ => trivial

def Prepared (R : Scene → Scene → Prop) (k : Key) (r : Except PassError Decision) (s : Scene) : Prop :=
  match r with
  | .ok (.provision env scope) => keyOf scope = k ∧ Equipped R k scope env s
  | .ok (.tearDown env scope) => keyOf scope = k ∧ ∃ looked o, Had R k looked o env s
  | .ok (.stop outcome) => outcome = .gone
  | .error _ => True

theorem resolve_amid {suffix : String}
    (hhad : Had R (Environment.address ns name).key [o] o env s) (hscope : Scope.ofEnvironment env suffix = .ok scope)
    (hkey : keyOf scope = (Environment.address ns name).key) :
    (resolve env scope).Amid Scene.answerer R (fun call s => Computed R (Environment.address ns name).key s call)
      (Prepared R (Environment.address ns name).key) s := by
  have huid := scope_uid hscope
  unfold resolve lifecycle
  cases hdeletion : env.metadata.deletionTimestamp.isSome with
  | true =>
      cases env.hasFinalizer with
      | true => exact fun s' hs' => ⟨hkey, [o], o, hhad.rely hR hs'⟩
      | false => exact fun s' _ => rfl
  | false =>
      cases hmarked : env.hasFinalizer with
      | true =>
          intro s' hs'
          have hhad' := hhad.rely hR hs'
          have hlooks := hhad'.looks hlapse
          refine ⟨hkey, hmarked, ?_, ⟨o, hlooks ▸ hhad'⟩, ⟨o, ?_, hhad.uid ▸ huid⟩, o, ?_, hhad.uid⟩
          · rw [hlooks, hhad.deletion]
            simp
          · rw [hlooks]
            rfl
          · rw [hlooks]
            rfl
      | false =>
          obtain ⟨hname, -⟩ := scope_namespace hscope
          have hnamed : scope.name = name := congrArg Key.name hkey
          refine Program.amid_bind hR (Program.amid_mapError.2 ?_)
          refine (addFinalizer_amid hR hlapse hhad hdeletion hmarked (hnamed ▸ hname) huid).mono (fun _ _ h => h) ?_
          intro r s₁ hready
          cases r with
          | error e => trivial
          | ok env₁ => exact fun s' hs' => ⟨hkey, hready.rely hR (hlapse _ _ hs').history hs'⟩

theorem prepare_amid (settings : Settings) (ns name : String) (hk : s.cluster.Kept) (hhistory : s.history = []) :
    (prepare settings ns name).Amid Scene.answerer R
      (fun call s => Computed R (Environment.address (some ns) name).key s call)
      (Prepared R (Environment.address (some ns) name).key) s := by
  refine Program.amid_bind hR (Program.amid_result.2 ((fetch_amid hlapse hk (some ns) name).mono (fun _ _ h => h) ?_))
  intro r s₁ hfetched
  cases r with
  | error e =>
      dsimp only
      split
      · exact fun s' _ => rfl
      · exact fun s' _ => trivial
  | ok env =>
      obtain ⟨o, hhad⟩ := hfetched
      rw [hhistory] at hhad
      dsimp only
      cases hscope : Scope.ofEnvironment env settings.domainSuffix with
      | error member => exact fun s' _ => trivial
      | ok scope =>
          refine resolve_amid hR hlapse hhad hscope ?_
          obtain ⟨s₀, hk₀, hstored, -, -⟩ := hhad
          exact (keyOf_of_stored hk₀ hstored hscope).symm

end Obtain

section Disturbed

variable {settings : Settings} {c : Cluster} {t : Instant} {ns name : String} {act : Call → Scene → Scene}
  {env : Environment} {scope : Scope} {s' : Scene}

/-- Whatever others do between the calls of a pass, what it provisions bears the finalizer; and its deletion has been
asked for if and only if the look after a refused write has shown that. -/
theorem prepared_ready (settings : Settings) (h : Reachable c) (t : Instant) (ns name : String)
    (hact : ∀ call s, Scene.Disturbed s (act call s))
    (hrun : (prepare settings ns name).run (Scene.answerer.disturbed act) ⟨c, t, []⟩ =
      (.ok (.provision env scope), s')) :
    env.hasFinalizer = true ∧
      (env.metadata.deletionTimestamp.isSome = true ↔
        ∃ o ∈ looks s'.history, o.metadata.deletionTimestamp.isSome = true) ∧
      ∀ now, (run settings now ns name).run (Scene.answerer.disturbed act) ⟨c, t, []⟩ =
        (converge env scope now).run (Scene.answerer.disturbed act) s' := by
  have hprepared := (prepare_amid Scene.rely_disturbed (fun _ _ hs => hs.lapse) settings ns name
    (s := ⟨c, t, []⟩) h.kept rfl).along Scene.rely_disturbed act hact
  have hends := hprepared.run
  rw [hrun] at hends
  obtain ⟨-, hready⟩ := hends
  refine ⟨hready.marked, hready.deletion, ?_⟩
  intro now
  rw [run_prepares, Program.run_bind, hrun]
  rfl

def heldCluster : Cluster := submitted (some "alice") ["other.example/hold"]

def askDeletion (call : Call) (s : Scene) : Scene :=
  match call.verb, s.history with
  | .replace, [_] =>
      { s with cluster := (s.cluster.answer midnight (.delete (Environment.address (some "team") "alice"))).2 }
  | _, _ => s

theorem disturbed_askDeletion (call : Call) (s : Scene) : Scene.Disturbed s (askDeletion call s) := by
  unfold askDeletion
  split
  · exact ⟨.single ⟨midnight, .delete (Environment.address (some "team") "alice"), rfl⟩, rfl⟩
  · exact ⟨.refl, rfl⟩

def Decision.isTerminating : Decision → Bool
  | .provision env _ => env.metadata.deletionTimestamp.isSome
  | _ => false

theorem prepare_askDeletion : ∃ env scope s', (prepare {} "team" "alice").run (Scene.answerer.disturbed askDeletion)
    ⟨heldCluster, midnight, []⟩ = (.ok (.provision env scope), s') ∧
      env.metadata.deletionTimestamp.isSome = true := by
  have hterminating : ((prepare {} "team" "alice").run (Scene.answerer.disturbed askDeletion)
      ⟨heldCluster, midnight, []⟩).1.toOption.map Decision.isTerminating = some true := by
    with_unfolding_all rfl
  cases hrun : (prepare {} "team" "alice").run (Scene.answerer.disturbed askDeletion) ⟨heldCluster, midnight, []⟩ with
  | mk r s' =>
      rw [hrun] at hterminating
      cases r with
      | error e => cases hterminating
      | ok decision =>
          cases decision with
          | stop outcome => cases hterminating
          | tearDown env scope => cases hterminating
          | provision env scope => exact ⟨env, scope, s', rfl, Option.some.inj hterminating⟩

theorem prepared_ready_askDeletion : ∃ env scope s',
    (prepare {} "team" "alice").run (Scene.answerer.disturbed askDeletion) ⟨heldCluster, midnight, []⟩ =
      (.ok (.provision env scope), s') ∧
    env.hasFinalizer = true ∧ ∃ o ∈ looks s'.history, o.metadata.deletionTimestamp.isSome = true := by
  obtain ⟨env, scope, s', hrun, hterminating⟩ := prepare_askDeletion
  obtain ⟨hmarked, hdeletion, -⟩ := prepared_ready {} reachable_submitted midnight "team" "alice"
    disturbed_askDeletion hrun
  exact ⟨env, scope, s', hrun, hmarked, hdeletion.1 hterminating⟩

theorem provisions_terminating : ¬∀ (settings : Settings) (c : Cluster) (t : Instant) (ns name : String)
    (act : Call → Scene → Scene) (env : Environment) (scope : Scope) (s' : Scene), Reachable c →
      (∀ call s, Scene.Disturbed s (act call s)) →
      (prepare settings ns name).run (Scene.answerer.disturbed act) ⟨c, t, []⟩ = (.ok (.provision env scope), s') →
      env.metadata.deletionTimestamp.isSome = false ∧ env.hasFinalizer = true := by
  intro h
  obtain ⟨env, scope, s', hrun, hterminating⟩ := prepare_askDeletion
  obtain ⟨hlive, -⟩ := h {} heldCluster midnight "team" "alice" askDeletion env scope s' reachable_submitted
    disturbed_askDeletion hrun
  rw [hterminating] at hlive
  cases hlive

end Disturbed

end Pass

end EnvironmentOperator
