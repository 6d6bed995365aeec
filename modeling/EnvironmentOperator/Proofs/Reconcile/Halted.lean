import EnvironmentOperator.Proofs.Reconcile.Chain
import EnvironmentOperator.Proofs.Reconcile.Frame
import EnvironmentOperator.Proofs.Reconcile.Interrupted

namespace EnvironmentOperator.Pass

open Cluster Environment Declaration Stage

variable {settings : Settings} {now : Instant} {ns name : String} {k : Key} {c c₁ c' : Cluster} {s : Scope}
  {spec : EnvironmentSpec} {o o₁ : Object} {env env₁ : Environment}

inductive Provisions (s : Scope) (spec : EnvironmentSpec) (c : Cluster) :
    Except PassError PassOutcome → Cluster → Prop where
  | converged {c' : Cluster} : Passable ((agenda s spec).map Prod.snd) c →
      (∀ k, k ≠ keyOf s → c'.find? k = (tendAll ((agenda s spec).map Prod.snd) c).find? k) →
      Provisions s spec c (.ok .converged) c'
  | unreported (e : StoreError) (c' : Cluster) : Provisions s spec c (.error (.status s.name e)) c'
  | halted {before after : List (Stage × Declaration)} {stage : Stage} {d : Declaration} {e : StoreError}
      {c' : Cluster} : Halts (agenda s spec) c before stage d after e c' →
      Provisions s spec c (.error (refusal stage d e)) c'

theorem converge_provisions (now : Instant) (s : Scope) (env : Environment) (hk : c.Kept) :
    (converge env s now).Along (answerer now) (fun _ _ => True) (Provisions s env.spec c) c := by
  unfold converge
  rw [provisionAll_eq_chain]
  refine Program.along_bind.2 ((chain_along now lawful_of_mem_agenda agenda_distinct hk).mono (fun _ _ h => h) ?_)
  intro r c₁ h
  cases r with
  | error failure =>
      obtain ⟨before, stage, d, after, e, hhalts, rfl⟩ := h
      exact .halted hhalts
  | ok _ =>
      obtain ⟨hpassable, hc₁⟩ := h
      refine Program.along_bind.2 (Program.along_mapError.2 (Status.along_markReady.2 ⟨trivial, ?_⟩))
      cases hanswer : ((answerer now).answer (.patchStatus (Environment.address (some s.namespace) s.name)
          (Status.readyPatch env s now)) c₁).1 with
      | error e => exact .unreported e _
      | ok _ =>
          refine .converged hpassable ?_
          intro k hne
          rw [← hc₁]
          exact find?_answer_of_ne now c₁ (.patchStatus (Environment.address (some s.namespace) s.name) _) hne

structure Begun (k : Key) (c : Cluster) (o : Object) (env : Environment) (c₁ : Cluster) (o₁ : Object)
    (env₁ : Environment) : Prop where
  marks : Marks k c o env c₁ o₁ env₁
  kept : c₁.Kept
  struck : ∀ verb kind name, kind ≠ Kind.environment.name →
    (c₁.strike verb kind name).1 = (c.strike verb kind name).1

inductive Attempted (suffix : String) (k : Key) (c : Cluster) (o : Object) (env : Environment) :
    Except PassError PassOutcome → Cluster → Prop where
  | unready {e : PassError} {c' : Cluster} : (∀ stage failure, e ≠ .provisioning stage failure) → Spent c c' →
      Attempted suffix k c o env (.error e) c'
  | begun {s : Scope} {c₁ c' : Cluster} {o₁ : Object} {env₁ : Environment} {r : Except PassError PassOutcome} :
      Scope.ofEnvironment env suffix = .ok s → Begun k c o env c₁ o₁ env₁ → Provisions s env.spec c₁ r c' →
      Attempted suffix k c o env r c'

theorem addFinalizer_begins (now : Instant) (hk : c.Kept)
    (hstored : Stored c (Environment.address (some ns) name).key o env) (hname : env.metadata.name = some name)
    (hunmarked : env.hasFinalizer = false) :
    env.addFinalizer.Along (answerer now) (fun _ _ => True) (fun r c₁ => match r with
      | .ok env₁ => ∃ o₁, Begun (Environment.address (some ns) name).key c o env c₁ o₁ env₁
      | .error _ => Spent c c₁) c := by
  have hstruck := (addFinalizer_along now hk hstored hname hunmarked).kept
    (I := fun c₁ => c₁.Kept ∧ ∀ verb kind name, kind ≠ Kind.environment.name →
      (c₁.strike verb kind name).1 = (c.strike verb kind name).1)
    (by
      rintro call c₁ ⟨hk₁, hstruck⟩ ⟨-, hcall⟩
      refine ⟨hk₁.answer now call, ?_⟩
      intro verb kind name' hkind
      have hother : kind ≠ call.address.resource.kind := by
        rcases hcall with rfl | rfl
        · exact hkind
        · exact hkind
      exact (strike_answer_of_kind_ne now c₁ hother verb name').trans (hstruck verb kind name' hkind))
    (fun _ _ h => h) ⟨hk, fun _ _ _ _ => rfl⟩
  refine hstruck.mono (fun _ _ _ => trivial) ?_
  rintro r c₁ ⟨h, hk₁, hstruck⟩
  cases r with
  | error e => exact h.1
  | ok env₁ =>
      obtain ⟨c₀, hspent, rfl, rfl⟩ := h
      exact ⟨_, .put hunmarked hspent, hk₁, hstruck⟩

theorem run_attempts (settings : Settings) (now : Instant) (hk : c.Kept)
    (hstored : Stored c (Environment.address (some ns) name).key o env) (hlive : env.metadata.deletionTimestamp = none) :
    (run settings now ns name).Along (answerer now) (fun _ _ => True)
      (Attempted settings.domainSuffix (Environment.address (some ns) name).key c o env) c := by
  refine run_of_work trivial ?_ (fun c' hspent hmissing => nomatch hmissing.symm.trans hstored.1)
    (fun _ _ hearly hspent => .unready hearly hspent)
  intro o' env' s hstored' hscope
  obtain ⟨rfl, rfl⟩ := hstored.unique hstored'
  obtain ⟨rfl, rfl⟩ := scope_of_stored hk hstored hscope
  unfold work lifecycle
  rw [hlive]
  cases hmarked : env'.hasFinalizer with
  | true =>
      refine (converge_provisions now s env' hk).mono (fun _ _ h => h) ?_
      intro r c' hprovisions
      exact .begun hscope ⟨.already hmarked, hk, fun _ _ _ _ => rfl⟩ hprovisions
  | false =>
      refine Program.along_bind.2 (Program.along_mapError.2 ?_)
      refine (addFinalizer_begins now hk hstored (scope_namespace hscope).1 hmarked).mono (fun _ _ h => h) ?_
      intro r c₁ h
      cases r with
      | error e => exact .unready nofun h
      | ok env₁ =>
          obtain ⟨o₁, hbegun⟩ := h
          refine (converge_provisions now s env₁ hbegun.kept).mono (fun _ _ h => h) ?_
          intro r c' hprovisions
          exact .begun hscope hbegun (hbegun.marks.spec ▸ hprovisions)

section Begun

variable (h : Begun (Environment.address (some ns) name).key c o env c₁ o₁ env₁)

include h

theorem Begun.find? {d : Declaration} (hd : d ∈ (agenda s spec).map Prod.snd) :
    c₁.find? d.address.key = c.find? d.address.key :=
  h.marks.others fun he => kind_of_mem_agenda hd (congrArg Key.kind he)

theorem Begun.verdict {d : Declaration} (hd : d ∈ (agenda s spec).map Prod.snd) : d.verdict c₁ = d.verdict c :=
  verdict_congr (fun verb => h.struck verb _ _ (kind_of_mem_agenda hd)) (h.find? hd)

end Begun

theorem Marks.faults_eq {faults : List Fault} {c₁' : Cluster} {o₁' : Object} {env₁' : Environment}
    (h : Marks k c o env c₁ o₁ env₁) (h' : Marks k { c with faults } o env c₁' o₁' env₁') :
    ∃ faults', c₁' = { c₁ with faults := faults' } := by
  cases h with
  | already hmarked =>
      cases h' with
      | already => exact ⟨faults, rfl⟩
      | put hunmarked => cases hmarked.symm.trans hunmarked
  | put hunmarked hspent =>
      cases h' with
      | already hmarked => cases hmarked.symm.trans hunmarked
      | put _ hspent' =>
          obtain ⟨faults₀, -, rfl⟩ := hspent
          obtain ⟨faults₁, -, rfl⟩ := hspent'
          exact ⟨faults₁, rfl⟩

theorem Marks.statusData (h : Marks k c o env c₁ o₁ env₁) (hstored : Stored c k o env) :
    o₁.data.member? "status" = o.data.member? "status" := by
  cases h with
  | already => rfl
  | @put c₀ =>
      refine (carried_data o (Manifest.toObject env.withFinalizer) rfl "status").trans ?_
      obtain ⟨-, -, hread⟩ := ofObject_eq_ok.1 hstored.2
      rw [if_pos rfl]
      cases hstatus : o.data.member? "status" with
      | some status => rfl
      | none =>
          rw [hstatus] at hread
          have hnone : env.status = none := (Except.ok.inj hread).symm
          simp [Manifest.toObject, Manifest.data, withFinalizer, hnone]

structure Halted (settings : Settings) (now : Instant) (ns name : String) (s : Scope) (o : Object) (env : Environment)
    (c c' : Cluster) (stage : Stage) (failure : Failure) (before : List (Stage × Declaration)) (d : Declaration)
    (after : List (Stage × Declaration)) : Prop where
  order : agenda s env.spec = before ++ (stage, d) :: after
  first : ∀ b ∈ before.map Prod.snd, ∃ outcome, (b.ensure.run (answerer now) c).1 = .ok outcome
  named : ∃ e, (d.ensure.run (answerer now) c).1 = .error e ∧ (PassError.provisioning stage failure).message =
    "provisioning stage '" ++ stage.name ++ "' failed: failed to ensure " ++ d.address.display ++ ": " ++
      ": ".intercalate e.chain
  made : ∀ b ∈ before.map Prod.snd, ∃ left, c'.find? b.address.key = some left ∧
    b.Made (c.find? b.address.key) left
  complete : ∀ faults, ((run settings now ns name).run (answerer now) { c with faults }).1 = .ok .converged →
    ∀ b ∈ before.map Prod.snd, c'.find? b.address.key =
      ((run settings now ns name).run (answerer now) { c with faults }).2.find? b.address.key
  later : ∀ b ∈ d :: after.map Prod.snd, c'.find? b.address.key = c.find? b.address.key
  environment : ∃ o' env', Stored c' (Environment.address (some ns) name).key o' env' ∧ env'.status = env.status ∧
    o'.data.member? "status" = o.data.member? "status"

section Halt

variable {before after : List (Stage × Declaration)} {stage : Stage} {d : Declaration} {e : StoreError}

theorem message_refusal : (refusal stage d e).message = "provisioning stage '" ++ stage.name ++
    "' failed: failed to ensure " ++ d.address.display ++ ": " ++ ": ".intercalate e.chain := by
  show "provisioning stage '" ++ stage.name ++ "' failed: " ++
    (Failure.during ("failed to ensure " ++ d.address.display) e).text = _
  have hjoined : "' failed: " ++ "failed to ensure " = "' failed: failed to ensure " := by decide
  rw [text_during, ← hjoined]
  simp only [String.append_assoc]

theorem complete_of_halts (h : Reachable c) (hstored : Stored c (Environment.address (some ns) name).key o env)
    (hlive : env.metadata.deletionTimestamp = none) (hscope : Scope.ofEnvironment env settings.domainSuffix = .ok s)
    (hbegun : Begun (Environment.address (some ns) name).key c o env c₁ o₁ env₁)
    (hhalts : Halts (agenda s env.spec) c₁ before stage d after e c') {faults : List Fault}
    (hrun : ((run settings now ns name).run (answerer now) { c with faults }).1 = .ok .converged) {b : Declaration}
    (hb : b ∈ before.map Prod.snd) : c'.find? b.address.key =
      ((run settings now ns name).run (answerer now) { c with faults }).2.find? b.address.key := by
  have hkept : Kept { c with faults } := h.kept
  have hattempted := (run_attempts settings now hkept hstored hlive).run
  generalize (run settings now ns name).run (answerer now) { c with faults } = ended at hrun hattempted ⊢
  obtain ⟨r, c''⟩ := ended
  cases hattempted with
  | unready => cases hrun
  | @begun s' c₁' _ _ _ _ hscope' hbegun' hprovisions =>
      cases hscope.symm.trans hscope'
      cases hprovisions with
      | unreported => cases hrun
      | halted => cases hrun
      | converged hpassable hothers =>
          have hne : b.address.key ≠ keyOf s := ne_keyOf (kind_of_mem_agenda (hhalts.mem (.inl hb))) s
          obtain ⟨faults', rfl⟩ := hbegun.marks.faults_eq hbegun'.marks
          rw [hhalts.split] at hpassable hothers
          calc c'.find? b.address.key
            _ = (tendAll (before.map Prod.snd) c₁).find? b.address.key := hhalts.left.find? _
            _ = (tendAll (before.map Prod.snd) { c₁ with faults := faults' }).find? b.address.key := by
                rw [tendAll_faults (before.map Prod.snd) c₁ faults']
                rfl
            _ = (tendAll (before.map Prod.snd ++ d :: after.map Prod.snd) { c₁ with faults := faults' }).find?
                b.address.key :=
                (find?_tendAll_append hhalts.lawful hhalts.distinct hbegun'.kept hpassable hb).symm
            _ = c''.find? b.address.key := (hothers _ hne).symm

theorem halted_of_halts (h : Reachable c) (hstored : Stored c (Environment.address (some ns) name).key o env)
    (hlive : env.metadata.deletionTimestamp = none) (hscope : Scope.ofEnvironment env settings.domainSuffix = .ok s)
    (hbegun : Begun (Environment.address (some ns) name).key c o env c₁ o₁ env₁)
    (hhalts : Halts (agenda s env.spec) c₁ before stage d after e c') :
    Halted settings now ns name s o env c c' stage (.during ("failed to ensure " ++ d.address.display) e) before d
      after := by
  have hprovisioned := hhalts.provisioned hbegun.kept
  have hverdict {b : Declaration} (hb : b ∈ before.map Prod.snd ∨ b ∈ d :: after.map Prod.snd) :
      (b.ensure.run (answerer now) c).1 = b.verdict c₁ := by
    rw [hbegun.verdict (hhalts.mem hb)]
    exact run_ensure now (hhalts.lawful b (List.mem_append.2 hb)) h.kept
  have hmarked := hbegun.marks.stored hstored
  refine ⟨hhalts.order, ?_, ⟨e, (hverdict (.inr (List.mem_cons_self ..))).trans hhalts.refused, message_refusal⟩, ?_,
    fun faults hrun b hb => complete_of_halts h hstored hlive hscope hbegun hhalts hrun hb, ?_, ?_⟩
  · intro b hb
    rw [hverdict (.inl hb)]
    exact hhalts.passable b hb
  · intro b hb
    obtain ⟨left, hleft, hmade⟩ := hprovisioned.made b hb
    rw [hbegun.find? (hhalts.mem (.inl hb))] at hmade
    exact ⟨left, (hhalts.left.find? _).trans hleft, hmade⟩
  · intro b hb
    exact (hhalts.left.find? _).trans
      ((hprovisioned.find?_later hhalts.distinct hb).trans (hbegun.find? (hhalts.mem (.inr hb))))
  · refine ⟨o₁, env₁, ⟨(hhalts.left.find? _).trans ((hprovisioned.others _ ?_).trans hmarked.1), hmarked.2⟩,
      hbegun.marks.status, hbegun.marks.statusData hstored⟩
    intro b hb he
    exact kind_of_mem_agenda (hhalts.mem (.inl hb)) (congrArg Key.kind he).symm

end Halt

/-- A pass that fails in a stage has stopped at the first of its objects that could not be ensured, and says so. One
that cannot put the finalizer on changes nothing. -/
theorem run_halts (settings : Settings) (now : Instant) (h : Reachable c)
    (hstored : Stored c (Environment.address (some ns) name).key o env)
    (hlive : env.metadata.deletionTimestamp = none) :
    (∀ stage failure, ((run settings now ns name).run (answerer now) c).1 = .error (.provisioning stage failure) →
      ∃ s before d after, Scope.ofEnvironment env settings.domainSuffix = .ok s ∧
        Halted settings now ns name s o env c ((run settings now ns name).run (answerer now) c).2 stage failure before d
          after) ∧
    ∀ name' e, ((run settings now ns name).run (answerer now) c).1 = .error (.finalizer name' e) →
      ∀ k, ((run settings now ns name).run (answerer now) c).2.find? k = c.find? k := by
  have hattempted := (run_attempts settings now h.kept hstored hlive).run
  generalize (run settings now ns name).run (answerer now) c = ended at hattempted ⊢
  obtain ⟨r, c'⟩ := ended
  constructor
  · intro stage failure hfailed
    cases hattempted with
    | unready hearly => exact absurd (Except.error.inj hfailed) (hearly stage failure)
    | @begun s c₁ _ o₁ env₁ _ hscope hbegun hprovisions =>
        cases hprovisions with
        | converged => cases hfailed
        | unreported => cases hfailed
        | @halted before after _ d e _ hhalts =>
            cases hfailed
            exact ⟨s, before, d, after, hscope, halted_of_halts h hstored hlive hscope hbegun hhalts⟩
  · intro name' e hfailed k
    cases hattempted with
    | unready _ hspent => exact hspent.find? k
    | begun hscope hbegun hprovisions =>
        cases hprovisions with
        | converged => cases hfailed
        | unreported => cases hfailed
        | halted => cases hfailed

section Withheld

def withheld : Cluster := (submitted (some "alice") []).plant ⟨.create, "Secret", "alice-vscode-password", .refuse⟩

theorem reachable_withheld : Reachable withheld := .plant _ reachable_submitted

theorem stored_withheld : Stored withheld (Environment.address (some "team") "alice").key
    (({} : Cluster).admitted (submission (some "alice") [])) (submittedEnvironment (some "alice") []) :=
  stored_submitted

theorem run_halts_withheld : ∃ failure s before d after,
    ((run {} midnight "team" "alice").run (answerer midnight) withheld).1 = .error (.provisioning .ide failure) ∧
      Halted {} midnight "team" "alice" s (({} : Cluster).admitted (submission (some "alice") []))
        (submittedEnvironment (some "alice") []) withheld
        ((run {} midnight "team" "alice").run (answerer midnight) withheld).2 .ide failure before d after := by
  have hfailed : ((run {} midnight "team" "alice").run (answerer midnight) withheld).1 =
      .error (.provisioning .ide (.during "failed to ensure Secret team/alice-vscode-password"
        (.rejected "create" "Secret" "alice-vscode-password" "injected fault"))) := by
    with_unfolding_all rfl
  obtain ⟨hhalts, -⟩ := run_halts {} midnight reachable_withheld stored_withheld rfl
  obtain ⟨s, before, d, after, -, hhalted⟩ := hhalts _ _ hfailed
  exact ⟨_, s, before, d, after, hfailed, hhalted⟩

end Withheld

end EnvironmentOperator.Pass
