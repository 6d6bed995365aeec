import EnvironmentOperator.Proofs.Reconcile.Preparation
import EnvironmentOperator.Proofs.Reconcile.Verdict
/-!
The stages as one chain of declarations. It is decided beforehand where the chain stops: at the first object that
cannot be ensured. Those before it are made, and nothing else changes.
-/
namespace EnvironmentOperator

open Cluster Declaration

namespace Program

variable {ε ε' ε'' α β : Type}

theorem mapError_bind (g : ε → ε') (p : Program ε α) (f : α → Program ε β) :
    (p.bind f).mapError g = (p.mapError g).bind fun a => (f a).mapError g := by
  induction p with
  | done a => rfl
  | fail e => rfl
  | measure m rest ih => exact congrArg (measure m) ih
  | call c next ih => exact congrArg (call c) (funext ih)

theorem mapError_mapError (f : ε → ε') (g : ε' → ε'') (p : Program ε α) :
    (p.mapError f).mapError g = p.mapError fun e => g (f e) := by
  induction p with
  | done a => rfl
  | fail e => rfl
  | measure m rest ih => exact congrArg (measure m) ih
  | call c next ih => exact congrArg (call c) (funext ih)

end Program

namespace Stage

section Agenda

variable {s : Scope} {spec : EnvironmentSpec}

def entries (s : Scope) (spec : EnvironmentSpec) (stage : Stage) : List (Stage × Declaration) :=
  (stage.declarations s spec).map (stage, ·)

def agenda (s : Scope) (spec : EnvironmentSpec) : List (Stage × Declaration) := all.flatMap (entries s spec)

theorem agenda_declarations : (agenda s spec).map Prod.snd = declared s spec := by
  simp only [agenda, entries, List.map_flatMap, List.map_map, declared]
  exact congrArg (List.flatMap · all) (funext fun stage => List.map_id _)

theorem lawful_of_mem_agenda : ∀ d ∈ (agenda s spec).map Prod.snd, d.Lawful := by
  rw [agenda_declarations]
  exact fun _ hd => lawful_of_mem_declared hd

theorem kind_of_mem_agenda {d : Declaration} (h : d ∈ (agenda s spec).map Prod.snd) :
    d.address.key.kind ≠ Kind.environment.name := by
  rw [agenda_declarations] at h
  exact kind_of_mem_declared h

theorem agenda_distinct : Distinct ((agenda s spec).map Prod.snd) := by
  rw [agenda_declarations]
  exact declared_keys_nodup s spec

def refusal (stage : Stage) (d : Declaration) (e : StoreError) : PassError :=
  .provisioning stage (.during ("failed to ensure " ++ d.address.display) e)

def chain : List (Stage × Declaration) → Program PassError Unit
  | [] => .done ()
  | (stage, d) :: rest => (d.ensure.mapError (refusal stage d)).bind fun _ => chain rest

theorem chain_append (items items' : List (Stage × Declaration)) :
    chain (items ++ items') = (chain items).bind fun _ => chain items' := by
  induction items with
  | nil => rfl
  | cons item items ih =>
      simp only [List.cons_append, chain, ih]
      exact (Program.bind_assoc ..).symm

theorem chain_entries (stage : Stage) (ds : List Declaration) :
    chain (ds.map (stage, ·)) = (ensureAll ds).mapError (.provisioning stage) := by
  induction ds with
  | nil => rfl
  | cons d ds ih =>
      simp only [List.map_cons, chain, ensureAll, Program.bind_eq, Program.mapError_bind, Program.mapError_mapError, ih]
      rfl

theorem provisionAll_eq_chain (stages : List Stage) :
    provisionAll s spec stages = chain (stages.flatMap (entries s spec)) := by
  induction stages with
  | nil => rfl
  | cons stage stages ih =>
      rw [List.flatMap_cons, chain_append, entries, chain_entries, ← ih]
      rfl

end Agenda

variable {items before after : List (Stage × Declaration)} {ds ds' : List Declaration} {c c' : Cluster} {d : Declaration}

def tendAll (ds : List Declaration) (c : Cluster) : Cluster := ds.foldl (fun c d => d.tended c) c

theorem faults_tendAll (ds : List Declaration) (c : Cluster) : (tendAll ds c).faults = c.faults := by
  induction ds generalizing c with
  | nil => rfl
  | cons d ds ih => exact (ih (d.tended c)).trans faults_tended

theorem tendAll_faults (ds : List Declaration) (c : Cluster) (faults : List Fault) :
    tendAll ds { c with faults } = { tendAll ds c with faults } := by
  induction ds generalizing c with
  | nil => rfl
  | cons d ds ih =>
      show tendAll ds (d.tended { c with faults }) = _
      rw [tended_faults]
      exact ih (d.tended c)

def Passable (ds : List Declaration) (c : Cluster) : Prop := ∀ d ∈ ds, ∃ outcome, d.verdict c = .ok outcome

/-- What comes of a declaration does not depend on whether others have been ensured before. -/
theorem verdict_later (hdistinct : Distinct (ds ++ ds')) (h : Provisioned ds c c') (hfaults : c'.faults = c.faults)
    (hd : d ∈ ds') : d.verdict c' = d.verdict c :=
  verdict_congr (struck_of_faults hfaults) (h.find?_later hdistinct hd)

theorem tendAll_provisions (hlawful : ∀ d ∈ ds, d.Lawful) (hdistinct : Distinct ds) (hk : c.Kept)
    (h : Passable ds c) : Provisioned ds c (tendAll ds c) := by
  induction ds generalizing c with
  | nil => exact .nil hk
  | cons d ds ih =>
      have hdistinct : Distinct ([d] ++ ds) := hdistinct
      have hd := hlawful d (List.mem_cons_self ..)
      obtain ⟨outcome, hverdict⟩ := h d (List.mem_cons_self ..)
      have hfirst := tended_provisions hd hk hverdict
      refine hfirst.append hdistinct (ih (fun d hd => hlawful d (List.mem_cons_of_mem _ hd))
        (distinct_right hdistinct) hfirst.kept ?_)
      intro d' hd'
      rw [verdict_later hdistinct hfirst faults_tended hd']
      exact h d' (List.mem_cons_of_mem _ hd')

theorem find?_tendAll_append (hlawful : ∀ d ∈ ds ++ ds', d.Lawful) (hdistinct : Distinct (ds ++ ds')) (hk : c.Kept)
    (h : Passable (ds ++ ds') c) (hd : d ∈ ds) :
    (tendAll (ds ++ ds') c).find? d.address.key = (tendAll ds c).find? d.address.key := by
  have hfirst := tendAll_provisions (fun d hd => hlawful d (List.mem_append_left _ hd)) (distinct_left hdistinct) hk
    fun d hd => h d (List.mem_append_left _ hd)
  have hpassable : Passable ds' (tendAll ds c) := by
    intro d' hd'
    rw [verdict_later hdistinct hfirst (faults_tendAll ds c) hd']
    exact h d' (List.mem_append_right _ hd')
  have hlater := tendAll_provisions (fun d hd => hlawful d (List.mem_append_right _ hd)) (distinct_right hdistinct)
    hfirst.kept hpassable
  rw [tendAll, List.foldl_append]
  exact hlater.others _ fun d' hd' => Provisioned.key_ne hdistinct hd hd'

structure Halts (items : List (Stage × Declaration)) (c : Cluster) (before : List (Stage × Declaration)) (stage : Stage)
    (d : Declaration) (after : List (Stage × Declaration)) (e : StoreError) (c' : Cluster) : Prop where
  order : items = before ++ (stage, d) :: after
  passable : Passable (before.map Prod.snd) c
  refused : d.verdict c = .error e
  left : Spent (tendAll (before.map Prod.snd) c) c'

def Chained (items : List (Stage × Declaration)) (c : Cluster) (r : Except PassError Unit) (c' : Cluster) : Prop :=
  match r with
  | .ok _ => Passable (items.map Prod.snd) c ∧ c' = tendAll (items.map Prod.snd) c
  | .error failure => ∃ before stage d after e, Halts items c before stage d after e c' ∧ failure = refusal stage d e

theorem Passable.cons {outcome : EnsureOutcome} (h : d.verdict c = .ok outcome)
    (hsame : ∀ d' ∈ ds, d'.verdict (d.tended c) = d'.verdict c) (hrest : Passable ds (d.tended c)) :
    Passable (d :: ds) c := by
  intro d' hd'
  rcases List.mem_cons.1 hd' with rfl | hd'
  · exact ⟨outcome, h⟩
  · exact hsame d' hd' ▸ hrest d' hd'

theorem Chained.cons {stage : Stage} {outcome : EnsureOutcome} {r : Except PassError Unit}
    (h : d.verdict c = .ok outcome) (hsame : ∀ d' ∈ items.map Prod.snd, d'.verdict (d.tended c) = d'.verdict c)
    (hrest : Chained items (d.tended c) r c') : Chained ((stage, d) :: items) c r c' := by
  cases r with
  | ok _ => exact ⟨hrest.1.cons h hsame, hrest.2⟩
  | error failure =>
      obtain ⟨before, stage', d', after, e, hhalts, hfailure⟩ := hrest
      have hbefore : ∀ d₁ ∈ before.map Prod.snd, d₁ ∈ items.map Prod.snd := by
        rw [hhalts.order, List.map_append]
        exact fun _ hd₁ => List.mem_append_left _ hd₁
      have hd' : d' ∈ items.map Prod.snd := by
        rw [hhalts.order]
        simp
      exact ⟨(stage, d) :: before, stage', d', after, e,
        ⟨congrArg ((stage, d) :: ·) hhalts.order,
          hhalts.passable.cons h fun d₁ hd₁ => hsame d₁ (hbefore d₁ hd₁),
          (hsame d' hd').symm.trans hhalts.refused, hhalts.left⟩, hfailure⟩

theorem chain_along (now : Instant) (hlawful : ∀ d ∈ items.map Prod.snd, d.Lawful)
    (hdistinct : Distinct (items.map Prod.snd)) (hk : c.Kept) :
    (chain items).Along (answerer now) (fun _ _ => True) (Chained items c) c := by
  induction items generalizing c with
  | nil => exact ⟨fun _ h => (nomatch h), rfl⟩
  | cons item items ih =>
      obtain ⟨stage, d⟩ := item
      have hdistinct : Distinct ([d] ++ items.map Prod.snd) := hdistinct
      have hd : d.Lawful := hlawful d (List.mem_cons_self ..)
      refine Program.along_bind.2 (Program.along_mapError.2 ((ensure_decided now hd hk).mono (fun _ _ h => h) ?_))
      rintro r c₁ ⟨hr, hc₁⟩
      cases r with
      | error e => exact ⟨[], stage, d, items, e, ⟨rfl, fun _ h => (nomatch h), hr.symm, hc₁⟩, rfl⟩
      | ok outcome =>
          obtain rfl : c₁ = d.tended c := hc₁
          have hfirst := tended_provisions hd hk hr.symm
          refine (ih (fun d hd => hlawful d (List.mem_cons_of_mem _ hd)) (distinct_right hdistinct)
            hfirst.kept).mono (fun _ _ h => h) ?_
          intro r c' hrest
          exact hrest.cons hr.symm fun d' hd' => verdict_later hdistinct hfirst faults_tended hd'

section Halts

variable {s : Scope} {spec : EnvironmentSpec} {stage : Stage} {e : StoreError}

variable (hhalts : Halts (agenda s spec) c before stage d after e c')

include hhalts

theorem Halts.split : (agenda s spec).map Prod.snd = before.map Prod.snd ++ d :: after.map Prod.snd := by
  rw [hhalts.order, List.map_append]
  rfl

theorem Halts.lawful : ∀ b ∈ before.map Prod.snd ++ d :: after.map Prod.snd, b.Lawful :=
  hhalts.split ▸ lawful_of_mem_agenda

theorem Halts.distinct : Distinct (before.map Prod.snd ++ d :: after.map Prod.snd) := hhalts.split ▸ agenda_distinct

theorem Halts.mem {b : Declaration} (hb : b ∈ before.map Prod.snd ∨ b ∈ d :: after.map Prod.snd) :
    b ∈ (agenda s spec).map Prod.snd := hhalts.split ▸ List.mem_append.2 hb

theorem Halts.provisioned (hk : c.Kept) : Provisioned (before.map Prod.snd) c (tendAll (before.map Prod.snd) c) :=
  tendAll_provisions (fun b hb => hhalts.lawful b (List.mem_append_left _ hb)) (distinct_left hhalts.distinct) hk
    hhalts.passable

end Halts

end Stage

end EnvironmentOperator
