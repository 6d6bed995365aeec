import EnvironmentOperator.Proofs.Cluster.Moves
import EnvironmentOperator.Proofs.Reconcile.Ensure
import EnvironmentOperator.Proofs.Reconcile.Finalizer
import EnvironmentOperator.Proofs.Reconcile.Pass
import EnvironmentOperator.Proofs.Reconcile.Stage
import EnvironmentOperator.Scenario
/-!
Programs that others overtake. Whatever is done to the cluster between two calls, a replace is accepted only while the
object that it was computed from is still the one that is stored; when anything has been written there since it was
read, the replace is refused and what was written stays.
-/
namespace EnvironmentOperator

open Cluster Environment

/-- An answerer with a cluster that others work on too: a call comes upon what they have made of it since the last. -/
structure Contested (σ : Type) extends Answerer σ where
  cluster : σ → Cluster
  now : σ → Instant
  moment : Call → σ → Cluster
  moves : ∀ call s, Moves (cluster s) (moment call s)
  answer_fst : ∀ call s, (answer call s).1 = ((moment call s).answer (now s) call).1
  answer_snd : ∀ call s, cluster (answer call s).2 = ((moment call s).answer (now s) call).2

namespace Contested

variable {σ : Type} (w : Contested σ)

def Read (s : σ) (k : Key) (o : Object) : Prop := ∃ a s₀, a.key = k ∧ w.answer (.get a) s₀ = (.ok o, s)

/-- The replace is computed from an object that was read in the cluster `seen`. It is accepted only if this object is
stored at the very moment, and refused if anything was written there since, which then stays as it is. -/
structure Careful (s : σ) (resource : Resource) (next : Object) (seen : Cluster) (live : Object) : Prop where
  read : seen.find? (Call.addressOf resource next).key = some live
  accepted : ∀ o, (w.answer (.replace resource next) s).1 = .ok o →
    (w.moment (.replace resource next) s).find? (Call.addressOf resource next).key = some live
  refused : Overwritten (Call.addressOf resource next).key seen (w.moment (.replace resource next) s) →
    ∃ e, (w.answer (.replace resource next) s).1 = .error e ∧
      ((w.moment (.replace resource next) s).Calm (.replace resource next) →
        match (w.moment (.replace resource next) s).find? (Call.addressOf resource next).key with
        | none => e.isNotFound = true
        | some _ => e.isConflict = true)
  survives : Overwritten (Call.addressOf resource next).key seen (w.moment (.replace resource next) s) →
    Spent (w.moment (.replace resource next) s) (w.cluster (w.answer (.replace resource next) s).2)

variable {w} {s : σ} {resource : Resource} {next live o : Object} {seen : Cluster} {k : Key}

theorem kept_answer (hk : (w.cluster s).Kept) (call : Call) : (w.cluster (w.answer call s).2).Kept := by
  rw [w.answer_snd]
  exact ((w.moves call s).kept hk).answer (w.now s) call

theorem Read.find? (h : w.Read s k o) : (w.cluster s).find? k = some o := by
  obtain ⟨a, s₀, rfl, hread⟩ := h
  have hanswer := w.answer_fst (.get a) s₀
  have hcluster := w.answer_snd (.get a) s₀
  rw [hread] at hanswer hcluster
  dsimp only at hanswer hcluster
  rw [hcluster, find?_look]
  exact find?_of_look hanswer.symm

theorem careful_of_based (h : Based resource next seen live) (hk : seen.Kept) (hmoves : Moves seen (w.cluster s)) :
    w.Careful s resource next seen live := by
  have hmoment : Moves seen (w.moment (.replace resource next) s) := hmoves.trans (w.moves _ s)
  refine ⟨h.read, ?_, ?_, ?_⟩
  · intro o ho
    rw [w.answer_fst] at ho
    exact h.accepted hk hmoment.later ho
  · intro hwritten
    rw [w.answer_fst]
    exact (h.refused hk hwritten).error
  · intro hwritten
    rw [w.answer_snd]
    exact (h.refused hk hwritten).survives

section Ensure

variable {d : Declaration}

def Revises (w : Contested σ) (d : Declaration) : Call → σ → Prop
  | .replace resource next, s => ∃ live, d.revision live = .ok (some next) ∧
      w.Read s (Call.addressOf resource next).key live ∧ w.Careful s resource next (w.cluster s) live
  | _, _ => True

theorem revise_overtaken (hd : d.Lawful) (hk : (w.cluster s).Kept) (hread : w.Read s d.address.key live) :
    (d.revise live).Along w.toAnswerer (w.Revises d) (fun _ _ => True) s := by
  unfold Declaration.revise
  cases hrevision : d.revision live with
  | error e => trivial
  | ok revision =>
      cases revision with
      | none => trivial
      | some next =>
          refine Program.along_request_bind.2 ⟨?_, by split <;> trivial⟩
          have hkey := Declaration.key_of_revision hd hk hread.find? hrevision
          have hbased : Based d.kind.resource next (w.cluster s) live := by
            refine ⟨hkey ▸ hread.find?, ?_⟩
            rw [hd.metadata hrevision]
            rfl
          exact ⟨live, hrevision, hkey ▸ hread, careful_of_based hbased hk .refl⟩

theorem look_overtaken (hd : d.Lawful) (hk : (w.cluster s).Kept) (h : (w.answer (.get d.address) s).1 = .ok live) :
    (d.revise live).Along w.toAnswerer (w.Revises d) (fun _ _ => True) (w.answer (.get d.address) s).2 :=
  revise_overtaken hd (kept_answer hk _) ⟨d.address, s, rfl, Prod.ext h rfl⟩

theorem create_overtaken (hd : d.Lawful) (hk : (w.cluster s).Kept) :
    d.createOrRevise.Along w.toAnswerer (w.Revises d) (fun _ _ => True) s := by
  refine Program.along_attempt_bind.2 ⟨trivial, ?_⟩
  cases hcreated : (w.answer (.create d.kind.resource d.desired) s).1 with
  | ok _ => trivial
  | error e =>
      dsimp only
      split
      · refine Program.along_request_bind.2 ⟨trivial, ?_⟩
        split
        · rename_i live hlive
          exact look_overtaken hd (kept_answer hk (.create d.kind.resource d.desired)) hlive
        · trivial
      · trivial

theorem ensure_overtaken (hd : d.Lawful) (hk : (w.cluster s).Kept) :
    d.ensure.Along w.toAnswerer (w.Revises d) (fun _ _ => True) s := by
  have hconverge : d.converge.Along w.toAnswerer (w.Revises d) (fun _ _ => True) s := by
    refine Program.along_attempt_bind.2 ⟨trivial, ?_⟩
    cases hfound : (w.answer (.get d.address) s).1 with
    | ok live => exact look_overtaken hd hk hfound
    | error e =>
        dsimp only
        split
        · exact create_overtaken hd (kept_answer hk _)
        · trivial
  refine Program.along_bind.2 (hconverge.mono (fun _ _ h => h) ?_)
  intro r s' _
  cases r <;> trivial

end Ensure

section Finalizer

variable {ns : Option String} {name : String} {env : Environment}

def Marks (w : Contested σ) (seen : Cluster) (o : Object) : Call → σ → Prop
  | .replace resource next, s => ∃ (c : Cluster) (live : Object) (env : Environment),
      Manifest.ofObject live = .ok env ∧ next = Manifest.toObject env.withFinalizer ∧
      (c = seen ∧ live = o ∨ c = w.cluster s ∧ w.Read s (Call.addressOf resource next).key live) ∧
      w.Careful s resource next c live
  | _, _ => True

def Unmarks (w : Contested σ) (seen : Cluster) (o : Object) : Call → σ → Prop
  | .replace resource next, s => ∃ env : Environment, Manifest.ofObject o = .ok env ∧
      next = Manifest.toObject env.withoutFinalizer ∧ w.Careful s resource next seen o
  | _, _ => True

theorem careful_withFinalizers (finalizers : List String) (hk : seen.Kept)
    (hstored : Stored seen (Environment.address ns name).key o env) (hmoves : Moves seen (w.cluster s)) :
    w.Careful s Kind.environment.resource (Manifest.toObject (env.withFinalizers finalizers)) seen o := by
  refine careful_of_based ⟨?_, ?_⟩ hk hmoves
  · rw [key_withFinalizers finalizers hk hstored]
    exact hstored.1
  · show env.metadata.resourceVersion = _
    rw [hstored.metadata]
    rfl

theorem write_overtaken {C : Call → σ → Prop}
    (h : C (.replace Kind.environment.resource (Manifest.toObject env)) s) :
    env.write.Along w.toAnswerer C (fun _ _ => True) s := by
  refine Program.along_request_bind.2 ⟨h, ?_⟩
  split
  · exact Program.along_ofExcept.2 trivial
  · trivial

theorem addFinalizerAnew_overtaken (o : Object) (env : Environment) (hk : (w.cluster s).Kept) :
    env.addFinalizerAnew.Along w.toAnswerer (w.Marks seen o) (fun _ _ => True) s := by
  refine Program.along_bind.2 (Program.along_request_bind.2 ⟨trivial, ?_⟩)
  split
  · rename_i live hlive
    have hread : w.Read _ _ live := ⟨_, s, rfl, Prod.ext hlive rfl⟩
    have hk₁ := kept_answer hk (.get (Environment.address env.metadata.namespace env.metadata.anyName))
    refine Program.along_ofExcept.2 ?_
    cases hlatest : (Manifest.ofObject live : Except DecodeError Environment) with
    | error e => simp only [Object.typed, hlatest, Except.mapError]
    | ok latest =>
        have hstored := And.intro hread.find? hlatest
        have hkey := key_withFinalizers latest.marking hk₁ hstored
        rw [typed_of_ok hlatest]
        dsimp only
        split
        · trivial
        · exact write_overtaken ⟨_, live, latest, hlatest, rfl, .inr ⟨rfl, hkey ▸ hread⟩,
            careful_withFinalizers latest.marking hk₁ hstored .refl⟩
  · trivial

theorem addFinalizer_overtaken (hk : seen.Kept) (hstored : Stored seen (Environment.address ns name).key o env)
    (hmoves : Moves seen (w.cluster s)) :
    env.addFinalizer.Along w.toAnswerer (w.Marks seen o) (fun _ _ => True) s := by
  have hmarks : w.Marks seen o (.replace Kind.environment.resource (Manifest.toObject env.withFinalizer)) s :=
    ⟨seen, o, env, hstored.2, rfl, .inl ⟨rfl, rfl⟩, careful_withFinalizers env.marking hk hstored hmoves⟩
  have hlater (e : StoreError) : Program.Along w.toAnswerer (w.Marks seen o) (fun _ _ => True)
      (if e.isConflict then env.addFinalizerAnew else .fail e)
      (w.answer (.replace Kind.environment.resource (Manifest.toObject env.withFinalizer)) s).2 := by
    split
    · exact addFinalizerAnew_overtaken o env (kept_answer (hmoves.kept hk) _)
    · trivial
  refine Program.along_bind.2 (Program.along_result.2 (Program.along_request_bind.2 ⟨hmarks, ?_⟩))
  split
  · rename_i written _
    refine Program.along_ofExcept.2 ?_
    cases written.typed Environment with
    | ok _ => trivial
    | error e => exact hlater e
  · rename_i e _
    exact hlater e

theorem removeFinalizer_overtaken (hk : seen.Kept) (hstored : Stored seen (Environment.address ns name).key o env)
    (hmoves : Moves seen (w.cluster s)) :
    env.removeFinalizer.Along w.toAnswerer (w.Unmarks seen o) (fun _ _ => True) s := by
  refine Program.along_request_bind.2 ⟨⟨env, hstored.2, rfl, ?_⟩, by split <;> trivial⟩
  exact careful_withFinalizers env.unmarking hk hstored hmoves

end Finalizer

/-- Nothing that others write is lost, whatever they do between the calls of one ensuring of an object or of one change
of the finalizer: every replace is careful. -/
theorem no_lost_update (w : Contested σ) (s : σ) {seen : Cluster} (h : Reachable seen)
    (hmoves : Moves seen (w.cluster s)) :
    (∀ scope spec, ∀ d ∈ Stage.declared scope spec,
      d.ensure.Along w.toAnswerer (w.Revises d) (fun _ _ => True) s) ∧
      ∀ ns name o env, Stored seen (Environment.address ns name).key o env →
        env.addFinalizer.Along w.toAnswerer (w.Marks seen o) (fun _ _ => True) s ∧
          env.removeFinalizer.Along w.toAnswerer (w.Unmarks seen o) (fun _ _ => True) s := by
  refine ⟨?_, ?_⟩
  · intro scope spec d hd
    exact ensure_overtaken (Stage.lawful_of_mem_declared hd) (hmoves.kept h.kept)
  · intro ns name o env hstored
    exact ⟨addFinalizer_overtaken h.kept hstored hmoves, removeFinalizer_overtaken h.kept hstored hmoves⟩

end Contested

namespace Scenario

variable {ρ : Type} {s : Scenario ρ}

def Honest (s : Scenario ρ) : Prop := ∀ i ∈ s.intrusions, ∀ c, Moves c (i.act c).2

theorem now_intrude (call : Call) : (s.intrude call).now = s.now := by
  unfold intrude
  split <;> rfl

theorem Honest.intrude (h : s.Honest) (call : Call) : (s.intrude call).Honest := by
  unfold Scenario.intrude
  split
  · exact h
  · intro i hi
    exact h i (List.mem_of_mem_eraseP hi)

theorem Honest.moves (h : s.Honest) (call : Call) : Moves s.cluster (s.intrude call).cluster := by
  unfold Scenario.intrude
  split
  · exact .refl
  · rename_i i hi
    exact h i (List.mem_of_find?_eq_some hi) s.cluster

def contested (ρ : Type) : Contested {s : Scenario ρ // s.Honest} where
  answer call s := ((s.1.answer call).1, ⟨(s.1.answer call).2, s.2.intrude call⟩)
  note m s := ⟨answerer.note m s.1, s.2⟩
  cluster s := s.1.cluster
  now s := s.1.now
  moment call s := (s.1.intrude call).cluster
  moves call s := s.2.moves call
  answer_fst call s := by
    rw [← now_intrude call]
    rfl
  answer_snd call s := by
    rw [← now_intrude call]
    rfl

section Race

def bareTools : Object := Pass.bare { name := some "alice-dev-tools-scripts", «namespace» := some "team" }

def bareToolsAddress : Address := .ofKind .configMap (some "team") "alice-dev-tools-scripts"

def remaking : Intrusion Unit where
  verb := .replace
  kind := "ConfigMap"
  name := "alice-dev-tools-scripts"
  act c :=
    let deleted := (c.answer Pass.midnight (.delete bareToolsAddress)).2
    ((), (deleted.answer Pass.midnight (.create Kind.configMap.resource bareTools)).2)

def race : Scenario Unit where
  cluster := (Cluster.answer Pass.midnight {} (.create Kind.configMap.resource bareTools)).2
  now := Pass.midnight
  intrusions := [remaking]

theorem honest_race : race.Honest := by
  intro i hi c
  cases List.mem_singleton.1 hi
  have hdelete : Move c (c.answer Pass.midnight (.delete bareToolsAddress)).2 :=
    ⟨Pass.midnight, .delete bareToolsAddress, rfl⟩
  have hcreate : Move (c.answer Pass.midnight (.delete bareToolsAddress)).2 (remaking.act c).2 :=
    ⟨Pass.midnight, .create Kind.configMap.resource bareTools, rfl⟩
  exact .tail (.single hdelete) hcreate

def racingTools : Declaration :=
  .overwrite Overlay.configMap (Desired.toolsConfigMap Pass.submittedScope { language := "go" })

theorem no_lost_update_race :
    racingTools.ensure.Along (contested Unit).toAnswerer ((contested Unit).Revises racingTools) (fun _ _ => True)
        ⟨race, honest_race⟩ ∧
      (racingTools.ensure.run (contested Unit).toAnswerer ⟨race, honest_race⟩).1 = .error
        (.conflict "ConfigMap" "alice-dev-tools-scripts" "resourceVersion 1 is stale (current 2)") := by
  have hdeclared : racingTools ∈ Stage.declared Pass.submittedScope { language := "go" } := by
    simp [Stage.declared, Stage.all, Stage.declarations, racingTools]
  refine ⟨?_, by with_unfolding_all rfl⟩
  have hreachable : Reachable race.cluster := .answer _ _ .empty
  have hsafe := (contested Unit).no_lost_update ⟨race, honest_race⟩ hreachable .refl
  exact hsafe.1 Pass.submittedScope _ racingTools hdeclared

end Race

end Scenario

end EnvironmentOperator
