import EnvironmentOperator.Proofs.Reconcile.Beside

namespace EnvironmentOperator

open Cluster

theorem Cluster.answer_of_strike (now : Instant) (c : Cluster) (call : Call) :
    (c.strike call.verb call.address.resource.kind call.address.name).1 = none ∧ c.answer now call = c.perform now call ∨
      ∃ e c', (c.strike call.verb call.address.resource.kind call.address.name).1 = some e ∧
        c.answer now call = (.error e, c') ∧ Spent c c' ∧ Injected e := by
  rcases strike_cases c call with hcalm | ⟨-, e, c', hstrike, hspent, he⟩
  · exact .inl ⟨congrArg Prod.fst (strike_of_calm hcalm), answer_of_calm now hcalm⟩
  · exact .inr ⟨e, c', congrArg Prod.fst hstrike, by rw [answer, hstrike], hspent, he⟩

theorem find?_eraseP {α : Type} {p q : α → Bool} (h : ∀ a, p a = true → q a = false) (l : List α) :
    (l.eraseP q).find? p = l.find? p := by
  induction l with
  | nil => rfl
  | cons a l ih =>
      cases hq : q a with
      | true =>
          have hp : p a = false := by
            cases hp : p a with
            | false => rfl
            | true => exact hq.symm.trans (h a hp)
          simp [hq, hp]
      | false => cases hp : p a <;> simp [hq, hp, ih]

theorem Cluster.faults_answer_cases (now : Instant) (c : Cluster) (call : Call) :
    (c.answer now call).2.faults = c.faults ∨ (c.answer now call).2.faults =
      c.faults.eraseP (fun f => decide (Concerns f call.verb call.address.resource.kind call.address.name)) := by
  unfold answer strike
  split <;> rename_i hstrike
  · split at hstrike
    · cases hstrike
    · split at hstrike <;> cases hstrike
      · exact .inl rfl
      · exact .inr rfl
  · split at hstrike
    · cases hstrike
      exact .inl (faults_perform ..)
    · split at hstrike <;> cases hstrike

theorem Cluster.strike_answer_of_kind_ne (now : Instant) (c : Cluster) {call : Call} {kind : String}
    (h : kind ≠ call.address.resource.kind) (verb : Verb) (name : String) :
    ((c.answer now call).2.strike verb kind name).1 = (c.strike verb kind name).1 := by
  have hfind : (c.answer now call).2.faults.find? (fun f => decide (Concerns f verb kind name)) =
      c.faults.find? (fun f => decide (Concerns f verb kind name)) := by
    rcases faults_answer_cases now c call with hsame | herased
    · rw [hsame]
    · rw [herased]
      apply find?_eraseP
      intro f hf
      have hkind : f.kind = kind := (of_decide_eq_true hf).2.1
      apply decide_eq_false
      intro hconcerns
      exact h (hkind.symm.trans hconcerns.2.1)
  unfold strike
  rw [hfind]
  split
  · rfl
  · split <;> rfl

namespace Declaration

variable {d : Declaration} {c c' : Cluster} {live next : Object}

def struck (d : Declaration) (c : Cluster) (verb : Verb) : Option StoreError :=
  (c.strike verb d.address.resource.kind d.address.name).1

def verdict (d : Declaration) (c : Cluster) : Except StoreError EnsureOutcome :=
  match d.struck c .get, c.find? d.address.key with
  | some e, _ => .error e
  | none, none => (d.struck c .create).elim (.ok .created) .error
  | none, some live =>
      match d.revision live with
      | .error e => .error e
      | .ok none => .ok .unchanged
      | .ok (some _) => (d.struck c .replace).elim (.ok .updated) .error

def tended (d : Declaration) (c : Cluster) : Cluster :=
  match c.find? d.address.key with
  | none => c.commit (Dict.put c.objects d.address.key (c.admitted d.desired))
  | some live =>
      match d.revision live with
      | .ok (some next) => c.commit (Dict.put c.objects d.address.key (c.revised live (carried live next)))
      | _ => c

theorem verdict_congr (hstruck : ∀ verb, d.struck c' verb = d.struck c verb)
    (hfind : c'.find? d.address.key = c.find? d.address.key) : d.verdict c' = d.verdict c := by
  simp only [verdict, hstruck, hfind]

theorem struck_of_faults (h : c'.faults = c.faults) (verb : Verb) : d.struck c' verb = d.struck c verb :=
  strike_congr h ..

theorem faults_tended : (d.tended c).faults = c.faults := by
  unfold tended
  split
  · rfl
  · split <;> rfl

theorem tended_faults (faults : List Fault) : d.tended { c with faults } = { d.tended c with faults } := by
  have hfind : Cluster.find? { c with faults } d.address.key = c.find? d.address.key := rfl
  unfold tended
  rw [hfind]
  split
  · rfl
  · split <;> rfl

def Decided (d : Declaration) (c : Cluster) (r : Except StoreError EnsureOutcome) (c' : Cluster) : Prop :=
  r = d.verdict c ∧ match r with
    | .ok _ => c' = d.tended c
    | .error _ => Spent c c'

theorem revise_decided (now : Instant) (hd : d.Lawful) (hk : c.Kept) (hstruck : d.struck c .get = none)
    (hlive : c.find? d.address.key = some live) :
    (d.revise live).Along (answerer now) (fun _ _ => True) (d.Decided c) c := by
  unfold revise
  cases hrevision : d.revision live with
  | error e =>
      refine ⟨?_, Spent.refl c⟩
      simp only [verdict, hstruck, hlive, hrevision]
  | ok revision =>
      cases revision with
      | none =>
          refine ⟨?_, ?_⟩
          · simp only [verdict, hstruck, hlive, hrevision]
          · simp only [tended, hlive, hrevision]
      | some next =>
          refine Program.along_request_bind.2 ⟨trivial, ?_⟩
          have hname : next.metadata.nameText = d.address.name :=
            congrArg Key.name (key_of_revision hd hk hlive hrevision)
          have hsame : (c.strike .replace d.kind.resource.kind next.metadata.nameText).1 = d.struck c .replace := by
            rw [hname]
            rfl
          rcases answer_of_strike now c (.replace d.kind.resource next) with ⟨hcalm, ha⟩ | ⟨e, c', hstrike, ha, hspent, -⟩
          · have hcalm : d.struck c .replace = none := hsame.symm.trans hcalm
            simp only [answerer, ha, perform, replace_of_revision hd hk hlive hrevision]
            refine ⟨?_, ?_⟩
            · simp only [verdict, hstruck, hlive, hrevision, hcalm, Option.elim]
            · simp only [tended, hlive, hrevision]
          · have hstrike : d.struck c .replace = some e := hsame.symm.trans hstrike
            simp only [answerer, ha]
            refine ⟨?_, hspent⟩
            simp only [verdict, hstruck, hlive, hrevision, hstrike, Option.elim]

theorem create_decided (now : Instant) (hstruck : d.struck c .get = none) (hmissing : c.find? d.address.key = none) :
    d.createOrRevise.Along (answerer now) (fun _ _ => True) (d.Decided c) c := by
  refine Program.along_attempt_bind.2 ⟨trivial, ?_⟩
  rcases answer_of_strike now c (.create d.kind.resource d.desired) with ⟨hcalm, ha⟩ | ⟨e, c', hstrike, ha, hspent, he⟩
  · have hcalm : d.struck c .create = none := hcalm
    simp only [answerer, ha, perform, create_of_missing hmissing]
    refine ⟨?_, ?_⟩
    · simp only [verdict, hstruck, hmissing, hcalm, Option.elim]
    · simp only [tended, hmissing]
      rfl
  · have hstrike : d.struck c .create = some e := hstrike
    simp only [answerer, ha, he.not_alreadyExists]
    refine ⟨?_, hspent⟩
    simp only [verdict, hstruck, hmissing, hstrike, Option.elim]

theorem converge_decided (now : Instant) (hd : d.Lawful) (hk : c.Kept) :
    d.converge.Along (answerer now) (fun _ _ => True) (d.Decided c) c := by
  refine Program.along_attempt_bind.2 ⟨trivial, ?_⟩
  rcases answer_of_strike now c (.get d.address) with ⟨hcalm, ha⟩ | ⟨e, c', hstrike, ha, hspent, he⟩
  · have hcalm : d.struck c .get = none := hcalm
    simp only [answerer, ha, perform]
    cases hfind : c.find? d.address.key with
    | none =>
        rw [get_of_missing hfind]
        exact create_decided now hcalm hfind
    | some live =>
        rw [get_of_find? hfind]
        exact revise_decided now hd hk hcalm hfind
  · have hstrike : d.struck c .get = some e := hstrike
    simp only [answerer, ha, he.not_notFound]
    refine ⟨?_, hspent⟩
    simp only [verdict, hstrike]

theorem ensure_decided (now : Instant) (hd : d.Lawful) (hk : c.Kept) :
    d.ensure.Along (answerer now) (fun _ _ => True) (d.Decided c) c := by
  refine Program.along_bind.2 ((converge_decided now hd hk).mono (fun _ _ h => h) ?_)
  intro r c' h
  cases r with
  | ok outcome => exact h
  | error e => exact h

theorem run_ensure (now : Instant) (hd : d.Lawful) (hk : c.Kept) :
    (d.ensure.run (answerer now) c).1 = d.verdict c := (ensure_decided now hd hk).run.1

theorem tended_provisions (hd : d.Lawful) (hk : c.Kept) {outcome : EnsureOutcome} (h : d.verdict c = .ok outcome) :
    Stage.Provisioned [d] c (d.tended c) := by
  -- The time counts for nothing here: no call of the program deletes.
  have hrun := ((ensure_decided ⟨0, 0⟩ hd hk).and (Stage.ensure_provisions ⟨0, 0⟩ hd hk)).run
  generalize d.ensure.run (answerer ⟨0, 0⟩) c = ended at hrun
  obtain ⟨r, c'⟩ := ended
  obtain ⟨⟨hr, hc'⟩, hprovisioned⟩ := hrun
  cases r with
  | ok _ => exact hc' ▸ hprovisioned
  | error e => cases hr.trans h

end Declaration

end EnvironmentOperator
