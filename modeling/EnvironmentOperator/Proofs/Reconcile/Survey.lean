import EnvironmentOperator.Proofs.Reconcile.Beside
import EnvironmentOperator.Proofs.Reconcile.Halted
/-!
What can be told of a pass before it begins, where no fault is planted: which declarations it makes, and how it ends.
-/
namespace EnvironmentOperator

open Cluster Environment Declaration Stage

namespace Stage

variable {items before after : List (Stage × Declaration)} {item : Stage × Declaration} {c c' : Cluster} {stage : Stage}
  {d : Declaration} {e : StoreError}

def survey : List (Stage × Declaration) → Cluster → List Declaration × Except PassError Unit
  | [], _ => ([], .ok ())
  | (stage, d) :: rest, c =>
      match d.verdict c with
      | .ok _ => (d :: (survey rest c).1, (survey rest c).2)
      | .error e => ([], .error (refusal stage d e))

theorem survey_cons_ok {outcome : EnsureOutcome} (h : item.2.verdict c = .ok outcome) :
    survey (item :: items) c = (item.2 :: (survey items c).1, (survey items c).2) := by
  simp only [survey, h]

theorem survey_cons_error (h : item.2.verdict c = .error e) :
    survey (item :: items) c = ([], .error (refusal item.1 item.2 e)) := by
  simp only [survey, h]

theorem survey_of_passable (h : Passable (items.map Prod.snd) c) : survey items c = (items.map Prod.snd, .ok ()) := by
  induction items with
  | nil => rfl
  | cons item items ih =>
      obtain ⟨outcome, hverdict⟩ := h item.2 (List.mem_cons_self ..)
      rw [survey_cons_ok hverdict, ih fun d hd => h d (List.mem_cons_of_mem _ hd)]
      rfl

theorem survey_of_refused (h : Passable (before.map Prod.snd) c) (hrefused : d.verdict c = .error e) :
    survey (before ++ (stage, d) :: after) c = (before.map Prod.snd, .error (refusal stage d e)) := by
  induction before with
  | nil => exact survey_cons_error hrefused
  | cons item before ih =>
      obtain ⟨outcome, hverdict⟩ := h item.2 (List.mem_cons_self ..)
      rw [List.cons_append, survey_cons_ok hverdict, ih fun d hd => h d (List.mem_cons_of_mem _ hd)]
      rfl

theorem mem_of_mem_survey (h : d ∈ (survey items c).1) : d ∈ items.map Prod.snd := by
  induction items with
  | nil => cases h
  | cons item items ih =>
      cases hverdict : item.2.verdict c with
      | error e =>
          rw [survey_cons_error hverdict] at h
          cases h
      | ok outcome =>
          rw [survey_cons_ok hverdict] at h
          rcases List.mem_cons.1 h with rfl | h
          · exact List.mem_cons_self ..
          · exact List.mem_cons_of_mem _ (ih h)

theorem Chained.surveyed {r : Except PassError Unit} (h : Chained items c r c')
    (hlawful : ∀ d ∈ items.map Prod.snd, d.Lawful) (hdistinct : Distinct (items.map Prod.snd)) (hk : c.Kept) :
    r = (survey items c).2 ∧ ∃ c₁, Provisioned (survey items c).1 c c₁ ∧ Spent c₁ c' := by
  cases r with
  | ok _ =>
      obtain ⟨hpassable, rfl⟩ := h
      rw [survey_of_passable hpassable]
      exact ⟨rfl, _, tendAll_provisions hlawful hdistinct hk hpassable, .refl _⟩
  | error failure =>
      obtain ⟨before, stage, d, after, e, hhalts, rfl⟩ := h
      rw [hhalts.order, List.map_append] at hlawful hdistinct
      rw [hhalts.order, survey_of_refused hhalts.passable hhalts.refused]
      exact ⟨rfl, _, tendAll_provisions (fun d hd => hlawful d (List.mem_append_left _ hd)) (distinct_left hdistinct) hk
        hhalts.passable, hhalts.left⟩

theorem struck_of_calm (d : Declaration) (h : c.faults = []) (verb : Verb) : d.struck c verb = none := by
  rw [struck, strike, h]
  rfl

end Stage

namespace Pass

variable {settings : Settings} {now : Instant} {ns name : String} {items : List (Stage × Declaration)} {own : Key}
  {c e : Cluster} {s : Scope} {o : Object} {env : Environment} {r : Except PassError PassOutcome}

/-- How a pass that nothing hinders ends, and what it leaves under the keys other than that of its environment. -/
structure Foreseen (own : Key) (items : List (Stage × Declaration)) (c : Cluster) (r : Except PassError PassOutcome)
    (e : Cluster) : Prop where
  result : r = (survey items c).2.map fun _ => .converged
  made : ∀ d ∈ (survey items c).1, ∃ left, e.find? d.address.key = some left ∧ d.Made (c.find? d.address.key) left
  others : ∀ k, k ≠ own → (∀ d ∈ (survey items c).1, k ≠ d.address.key) → e.find? k = c.find? k

theorem patchStatus_of_find? {a : Address} (h : c.find? a.key = some o) (patch : Json) :
    (c.patchStatus a patch).1 = .ok () := by
  unfold patchStatus
  rw [h]
  dsimp only
  split <;> rfl

theorem Foreseen.of_provisioned {c₁ : Cluster} (hr : r = (survey items c).2.map fun _ => .converged)
    (h : Provisioned (survey items c).1 c c₁) (hown : ∀ d ∈ (survey items c).1, d.address.key ≠ own)
    (hrest : ∀ k, k ≠ own → e.find? k = c₁.find? k) : Foreseen own items c r e where
  result := hr
  made d hd := by
    obtain ⟨left, hleft, hmade⟩ := h.made d hd
    exact ⟨left, (hrest _ (hown d hd)).trans hleft, hmade⟩
  others k hk hne := (hrest k hk).trans (h.others k hne)

theorem converge_foreseen (now : Instant) (hk : c.Kept) (hcalm : c.faults = []) (hfind : c.find? (keyOf s) = some o) :
    (converge env s now).Along (answerer now) (fun _ _ => True) (Foreseen (keyOf s) (agenda s env.spec) c) c := by
  unfold converge
  rw [provisionAll_eq_chain]
  refine Program.along_bind.2 ((chain_along now lawful_of_mem_agenda agenda_distinct hk).mono (fun _ _ h => h) ?_)
  intro r c' hchained
  obtain ⟨hr, c₁, hprovisioned, hspent⟩ := hchained.surveyed lawful_of_mem_agenda agenda_distinct hk
  have hown : ∀ d ∈ (survey (agenda s env.spec) c).1, d.address.key ≠ keyOf s := fun d hd =>
    ne_keyOf (kind_of_mem_agenda (mem_of_mem_survey hd)) s
  cases r with
  | error failure =>
      refine .of_provisioned ?_ hprovisioned hown fun k _ => hspent.find? k
      rw [← hr]
      rfl
  | ok _ =>
      have hcalm' : c'.faults = [] := faults_eq_nil (hspent.faults.trans hprovisioned.faults) hcalm
      have hfind' : c'.find? (keyOf s) = some o :=
        (hspent.find? _).trans ((hprovisioned.others _ fun d hd => (hown d hd).symm).trans hfind)
      refine Program.along_bind.2 (Program.along_mapError.2 (Status.along_markReady.2 ⟨trivial, ?_⟩))
      have hanswer : ((answerer now).answer (.patchStatus (Environment.address (some s.namespace) s.name)
          (Status.readyPatch env s now)) c').1 = .ok () :=
        (congrArg Prod.fst (answer_of_faults now hcalm' _)).trans (patchStatus_of_find? hfind' _)
      rw [hanswer]
      refine .of_provisioned ?_ hprovisioned hown fun k hne => ?_
      · rw [← hr]
        rfl
      · exact (find?_answer_of_ne now c' _ hne).trans (hspent.find? k)

theorem work_foreseen (now : Instant) (hk : c.Kept) (hcalm : c.faults = []) (hstored : Stored c (keyOf s) o env)
    (hname : env.metadata.name = some s.name) (hlive : env.metadata.deletionTimestamp.isSome = false) :
    (work env s now).Along (answerer now) (fun _ _ => True) (fun r e => ∃ c₁, c₁.faults = [] ∧
      (∀ k, k ≠ keyOf s → c₁.find? k = c.find? k) ∧ Foreseen (keyOf s) (agenda s env.spec) c₁ r e) c := by
  unfold work lifecycle
  rw [hlive]
  cases hmarked : env.hasFinalizer with
  | true =>
      refine (converge_foreseen now hk hcalm hstored.1).mono (fun _ _ h => h) ?_
      exact fun _ _ hforeseen => ⟨c, hcalm, fun _ _ => rfl, hforeseen⟩
  | false =>
      refine Program.along_bind.2 (Program.along_mapError.2 ?_)
      refine ((addFinalizer_along now hk hstored hname hmarked).and
        (addFinalizer_begins now hk hstored hname hmarked)).mono (fun _ _ _ => trivial) ?_
      rintro r c₁ ⟨hadded, hbegins⟩
      cases r with
      | error e => exact absurd hcalm hadded.2
      | ok env₁ =>
          obtain ⟨o₁, hbegun⟩ := hbegins
          have hcalm₁ := faults_eq_nil hbegun.marks.faults hcalm
          have hstored₁ := hbegun.marks.stored hstored
          refine (converge_foreseen now hbegun.kept hcalm₁ hstored₁.1).mono (fun _ _ h => h) ?_
          intro r e hforeseen
          exact ⟨c₁, hcalm₁, fun _ hne => hbegun.marks.others hne, hbegun.marks.spec ▸ hforeseen⟩

theorem work_of_released (hterminating : env.metadata.deletionTimestamp.isSome = true)
    (hunmarked : env.hasFinalizer = false) : work env s now = .done .gone := by
  unfold work lifecycle
  rw [hterminating, hunmarked]
  rfl

theorem run_of_found (settings : Settings) (now : Instant) (hcalm : c.faults = [])
    (hfind : c.find? (Environment.address (some ns) name).key = some o) :
    (run settings now ns name).run (answerer now) c =
      match o.typed Environment with
      | .error e => (.error (.fetch name e), c)
      | .ok env =>
          match Scope.ofEnvironment env settings.domainSuffix with
          | .error member => (.error (.incomplete member), c)
          | .ok s => (work env s now).run (answerer now) c := by
  have hget : (Program.request (.get (Environment.address (some ns) name))).run (answerer now) c = (.ok o, c) := by
    have hanswer : (answerer now).answer (.get (Environment.address (some ns) name)) c = (.ok o, c) :=
      (answer_of_faults now hcalm _).trans (congrArg (·, c) (get_of_find? hfind))
    show Program.run _ (Program.ofExcept ((answerer now).answer _ c).1) ((answerer now).answer _ c).2 = _
    rw [hanswer]
    rfl
  have hfetch : (Environment.fetch (some ns) name).run (answerer now) c = (o.typed Environment, c) := by
    refine (Program.run_bind (answerer now) (.request (.get (Environment.address (some ns) name)))
      (fun o => .ofExcept (o.typed Environment)) c).trans ?_
    rw [hget]
    dsimp only
    cases o.typed Environment <;> rfl
  rw [run, Program.bind_eq, Program.run_bind, Program.run_result, hfetch]
  cases hread : (Manifest.ofObject o : Decoded Environment) with
  | error e =>
      rw [Object.typed, hread]
      rfl
  | ok env =>
      rw [typed_of_ok hread]
      dsimp only
      cases Scope.ofEnvironment env settings.domainSuffix <;> rfl

theorem run_of_stored (settings : Settings) (now : Instant) (hcalm : c.faults = [])
    (hstored : Stored c (Environment.address (some ns) name).key o env)
    (hscope : Scope.ofEnvironment env settings.domainSuffix = .ok s) :
    (run settings now ns name).run (answerer now) c = (work env s now).run (answerer now) c := by
  rw [run_of_found settings now hcalm hstored.1, typed_of_ok hstored.2]
  dsimp only
  rw [hscope]

end Pass

end EnvironmentOperator
