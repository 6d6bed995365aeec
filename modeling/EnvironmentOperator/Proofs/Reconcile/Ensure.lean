import EnvironmentOperator.Proofs.Cluster.Kept
import EnvironmentOperator.Proofs.Reconcile.Declaration
/-!
Ensuring one object. It comes out as it was made by its declaration, whatever was there before, and all else stays; it
fails only when a fault strikes or when what is there cannot be read. Once made, the object is only looked at.
-/
namespace EnvironmentOperator.Declaration

open Cluster

/-- How the object of a declaration comes about: it is created, left as it is, or revised. -/
inductive Made (d : Declaration) : Option Object → Object → Prop where
  | created (c : Cluster) : Made d none (c.admitted d.desired)
  | left {live : Object} : d.revision live = .ok none → Made d (some live) live
  | revised {live next : Object} (c : Cluster) : d.revision live = .ok (some next) →
      Made d (some live) (c.revised live (carried live next))

inductive Tends (d : Declaration) (c : Cluster) : Call → Prop where
  | look : Tends d c (.get d.address)
  | create : c.find? d.address.key = none → Tends d c (.create d.kind.resource d.desired)
  | revise {live next : Object} : c.find? d.address.key = some live → d.revision live = .ok (some next) →
      Tends d c (.replace d.kind.resource next)

structure Ensured (d : Declaration) (c c' : Cluster) : Prop where
  made : ∃ o, c'.find? d.address.key = some o ∧ d.Made (c.find? d.address.key) o
  others : ∀ k, k ≠ d.address.key → c'.find? k = c.find? k
  faults : c'.faults.Sublist c.faults
  calm : c.Calm (.get d.address)

def Hindered (d : Declaration) (c : Cluster) : Prop :=
  c.faults ≠ [] ∨ ∃ live e, c.find? d.address.key = some live ∧ d.revision live = .error e

theorem Made.settled {d : Declaration} (hd : d.Lawful) {before : Option Object} {o : Object} (h : d.Made before o) :
    d.revision o = .ok none := by
  cases h with
  | created c => exact hd.fresh rfl rfl rfl
  | left h => exact h
  | revised c h => exact hd.settles h rfl rfl rfl

theorem Hindered.of_not_calm {d : Declaration} {c : Cluster} {call : Call} (h : ¬c.Calm call) : d.Hindered c :=
  .inl fun hnil => h (calm_of_nil hnil call)

theorem Hindered.before {d : Declaration} {c c' : Cluster} (h : d.Hindered c')
    (hfaults : c'.faults.Sublist c.faults) (hfind : c'.find? d.address.key = c.find? d.address.key) :
    d.Hindered c := by
  rcases h with hstruck | ⟨live, e, hlive, he⟩
  · exact .inl fun hnil => hstruck (faults_eq_nil hfaults hnil)
  · exact .inr ⟨live, e, hfind ▸ hlive, he⟩

section Revise

variable {d : Declaration} {c : Cluster} {live next : Object}

theorem key_of_revision (hd : d.Lawful) (hk : c.Kept) (hlive : c.find? d.address.key = some live)
    (hnext : d.revision live = .ok (some next)) : (Call.addressOf d.kind.resource next).key = d.address.key := by
  have hplaced := hk _ _ hlive
  have hmetadata := hd.metadata hnext
  have hname : next.metadata.nameText = d.address.name := by
    rw [hmetadata]
    exact hplaced.name
  have hnamespace : next.metadata.namespace = d.address.namespace := by
    rw [hmetadata]
    exact hplaced.namespace
  rw [Call.addressOf, hname, hnamespace]
  rfl

theorem isStale_of_revision (hd : d.Lawful) (hnext : d.revision live = .ok (some next)) :
    isStale live next = false := by
  refine isStale_of_version_eq ?_
  rw [hd.metadata hnext]
  rfl

theorem isReleased_of_revision (hd : d.Lawful) (hk : c.Kept) (hlive : c.find? d.address.key = some live)
    (hnext : d.revision live = .ok (some next)) : isReleased (c.revised live (carried live next)) = false := by
  have hfinalizers : next.metadata.finalizers = live.metadata.finalizers := by
    rw [hd.metadata hnext]
    rfl
  have hreleased : isReleased (c.revised live (carried live next)) = isReleased live := by
    simp only [isReleased, revised, carried, Metadata.hasFinalizers, Metadata.finalizerList, hfinalizers]
  rw [hreleased]
  exact (hk _ _ hlive).released

theorem replace_of_revision (hd : d.Lawful) (hk : c.Kept) (hlive : c.find? d.address.key = some live)
    (hnext : d.revision live = .ok (some next)) :
    c.replace d.kind.resource next = (.ok (c.revised live (carried live next)),
      c.commit (Dict.put c.objects d.address.key (c.revised live (carried live next)))) := by
  have hkey := key_of_revision hd hk hlive hnext
  rw [← hkey] at hlive
  rw [replace_of_find? hlive (isStale_of_revision hd hnext) (hd.changes hnext), hkey,
    isReleased_of_revision hd hk (hkey ▸ hlive) hnext]
  rfl

theorem ensured_commit_put {o : Object} (hcalm : c.Calm (.get d.address)) (ho : d.Made (c.find? d.address.key) o) :
    d.Ensured c (c.commit (Dict.put c.objects d.address.key o)) where
  made := ⟨o, (find?_commit_put ..).trans (if_pos rfl), ho⟩
  others _ hk := (find?_commit_put ..).trans (if_neg hk)
  faults := List.Sublist.refl _
  calm := hcalm

theorem revise_along (now : Instant) (hd : d.Lawful) (hk : c.Kept) (hcalm : c.Calm (.get d.address))
    (hlive : c.find? d.address.key = some live) :
    (d.revise live).Along (answerer now) (fun call c => d.Tends c call) (fun r c' => match r with
      | .ok _ => d.Ensured c c'
      | .error _ => d.Hindered c) c := by
  unfold revise
  cases hrevision : d.revision live with
  | error e => exact .inr ⟨live, e, hlive, hrevision⟩
  | ok revision =>
      cases revision with
      | none => exact ⟨⟨live, hlive, hlive ▸ .left hrevision⟩, fun _ _ => rfl, List.Sublist.refl _, hcalm⟩
      | some next =>
          simp only [Program.bind_eq, Program.along_bind, Program.along_request]
          refine ⟨.revise hlive hrevision, ?_⟩
          rcases answer_cases now c (.replace d.kind.resource next) with ⟨-, ha⟩ | ⟨hstruck, e, c', ha, -, -⟩
          · simp only [answerer, ha, perform, replace_of_revision hd hk hlive hrevision]
            exact ensured_commit_put hcalm (hlive ▸ .revised c hrevision)
          · simp only [answerer, ha]
            exact .of_not_calm hstruck

end Revise

theorem create_along (d : Declaration) (now : Instant) {c : Cluster} (hcalm : c.Calm (.get d.address))
    (h : c.find? d.address.key = none) :
    d.createOrRevise.Along (answerer now) (fun call c => d.Tends c call) (fun r c' => match r with
      | .ok _ => d.Ensured c c'
      | .error _ => d.Hindered c) c := by
  refine Program.along_attempt_bind.2 ⟨.create h, ?_⟩
  rcases answer_cases now c (.create d.kind.resource d.desired) with ⟨-, ha⟩ | ⟨hstruck, e, c', ha, -, he⟩
  · simp only [answerer, ha, perform, create_of_missing h]
    exact ensured_commit_put hcalm (h ▸ .created c)
  · simp only [answerer, ha, he.not_alreadyExists]
    exact Hindered.of_not_calm hstruck

theorem converge_along {d : Declaration} (hd : d.Lawful) (now : Instant) {c : Cluster} (hk : c.Kept) :
    d.converge.Along (answerer now) (fun call c => d.Tends c call) (fun r c' => match r with
      | .ok _ => d.Ensured c c'
      | .error _ => d.Hindered c) c := by
  refine Program.along_attempt_bind.2 ⟨.look, ?_⟩
  rcases answer_cases now c (.get d.address) with ⟨hcalm, ha⟩ | ⟨hstruck, e, c', ha, -, he⟩
  · simp only [answerer, ha, perform]
    cases hfind : c.find? d.address.key with
    | none =>
        rw [get_of_missing hfind]
        exact create_along d now hcalm hfind
    | some live =>
        rw [get_of_find? hfind]
        exact revise_along now hd hk hcalm hfind
  · simp only [answerer, ha, he.not_notFound]
    exact Hindered.of_not_calm hstruck

theorem ensure_along {d : Declaration} (hd : d.Lawful) (now : Instant) {c : Cluster} (hk : c.Kept) :
    d.ensure.Along (answerer now) (fun call c => d.Tends c call) (fun r c' => match r with
      | .ok _ => d.Ensured c c'
      | .error _ => d.Hindered c) c := by
  refine Program.along_bind.2 ((converge_along hd now hk).mono (fun _ _ h => h) ?_)
  intro r c' h
  cases r with
  | ok outcome => exact h
  | error e => exact h

theorem ensure_settled {d : Declaration} (now : Instant) {c : Cluster} {o : Object}
    (hcalm : c.Calm (.get d.address)) (ho : c.find? d.address.key = some o) (hsettled : d.revision o = .ok none) :
    d.ensure.Along (answerer now) (fun call c' => c' = c ∧ call = .get d.address)
      (fun r c' => c' = c ∧ r = .ok .unchanged) c := by
  refine Program.along_bind.2 (Program.along_attempt_bind.2 ⟨⟨rfl, rfl⟩, ?_⟩)
  simp only [answerer, answer_of_calm now hcalm, perform, get_of_find? ho, revise, hsettled]
  exact ⟨rfl, rfl⟩

end EnvironmentOperator.Declaration
