import EnvironmentOperator.Proofs.Cluster.Kept
import EnvironmentOperator.Proofs.Reconcile.Stage
/-!
Deleting the objects of an environment. A delete that succeeds leaves an object behind if it has finalizers, and a
teardown takes the success for a deletion. What a delete has come to is settled: to delete it again changes nothing,
so a teardown that starts over goes on from where the last was refused.
-/
namespace EnvironmentOperator.Teardown

open Cluster

def Guarded (c : Cluster) (k : Key) : Prop := ∃ o, c.find? k = some o ∧ o.metadata.hasFinalizers = true

theorem guarded_congr {c c' : Cluster} {k : Key} (h : c'.find? k = c.find? k) : Guarded c' k ↔ Guarded c k := by
  rw [Guarded, Guarded, h]

structure TornDown (as : List Address) (c c' : Cluster) : Prop where
  gone : ∀ a ∈ as, c'.find? a.key = none ↔ ¬Guarded c a.key
  left : ∀ a ∈ as, ∀ o, c'.find? a.key = some o → o.metadata.hasFinalizers = true
  others : ∀ k, (∀ a ∈ as, k ≠ a.key) → c'.find? k = c.find? k
  kept : c'.Kept

theorem not_guarded_of_missing {c : Cluster} {k : Key} (h : c.find? k = none) : ¬Guarded c k := by
  rintro ⟨o, ho, -⟩
  rw [h] at ho
  cases ho

theorem delete_of_missing (now : Instant) {c : Cluster} {a : Address} (h : c.find? a.key = none) :
    c.delete now a = (.error (.notFound a.resource.kind a.name), c) := by
  simp only [delete, h]

theorem delete_of_unguarded (now : Instant) {c : Cluster} {a : Address} {o : Object} (h : c.find? a.key = some o)
    (ho : o.metadata.hasFinalizers = false) :
    c.delete now a =
      (.ok (), { c with objects := Dict.without c.objects a.key, mutations := c.mutations + 1 }) := by
  simp only [delete, h, ho, Bool.not_false, if_true]

theorem delete_of_guarded (now : Instant) {c : Cluster} {a : Address} {o : Object} (h : c.find? a.key = some o)
    (ho : o.metadata.hasFinalizers = true) :
    c.delete now a = (.ok (), if o.metadata.deletionTimestamp.isSome = true then c
      else c.commit (Dict.put c.objects a.key (Cluster.marked now c o))) := by
  simp only [delete, h, ho, Bool.not_true, Bool.false_eq_true, if_false]
  split <;> rfl

theorem delete_counts (now : Instant) (c : Cluster) (a : Address) :
    (c.delete now a).1 = .ok () ∨ ∃ e, (c.delete now a).1 = .error e ∧ e.isNotFound = true := by
  cases h : c.find? a.key with
  | none => exact .inr ⟨_, by rw [delete_of_missing now h], rfl⟩
  | some o =>
      cases ho : o.metadata.hasFinalizers with
      | false => exact .inl (by rw [delete_of_unguarded now h ho])
      | true => exact .inl (by rw [delete_of_guarded now h ho])

theorem find?_delete (now : Instant) (c : Cluster) (a : Address) :
    (c.delete now a).2.find? a.key = none ↔ ¬Guarded c a.key := by
  cases h : c.find? a.key with
  | none =>
      rw [delete_of_missing now h]
      exact ⟨fun _ => not_guarded_of_missing h, fun _ => h⟩
  | some o =>
      cases ho : o.metadata.hasFinalizers with
      | false =>
          rw [delete_of_unguarded now h ho]
          constructor
          · rintro - ⟨o', ho', hguarded⟩
            cases h.symm.trans ho'
            rw [ho] at hguarded
            cases hguarded
          · intro _
            exact (Dict.at?_without ..).trans (if_pos rfl)
      | true =>
          rw [delete_of_guarded now h ho]
          constructor
          · intro hnone
            dsimp only at hnone
            split at hnone
            · cases h.symm.trans hnone
            · rw [find?_commit_put, if_pos rfl] at hnone
              cases hnone
          · intro hnot
            exact absurd ⟨o, h, ho⟩ hnot

def sweep (now : Instant) (as : List Address) (c : Cluster) : Cluster := as.foldl (fun c a => (c.delete now a).2) c

/-- A delete has nothing left to do: the object is gone, or it is guarded and marked. -/
def Settled (c : Cluster) (k : Key) : Prop :=
  ∀ left, c.find? k = some left → left.metadata.hasFinalizers = true ∧ left.metadata.deletionTimestamp.isSome = true

def Refused (now : Instant) (c : Cluster) (a : Address) (e : StoreError) : Prop :=
  (c.answer now (.delete a)).1 = .error e ∧ e.isNotFound = false

section Delete

variable {c : Cluster} {a : Address} {k : Key}

theorem faults_delete (now : Instant) (c : Cluster) (a : Address) : (c.delete now a).2.faults = c.faults := by
  unfold delete
  split
  · rfl
  · split
    · rfl
    · split <;> rfl

theorem delete_faults (now : Instant) (c : Cluster) (a : Address) (faults : List Fault) :
    (delete now { c with faults } a).2 = { (c.delete now a).2 with faults } := by
  unfold delete
  rw [show find? { c with faults } a.key = c.find? a.key from rfl]
  split
  · rfl
  · split
    · rfl
    · split <;> rfl

theorem delete_of_settled (now : Instant) (h : Settled c a.key) : (c.delete now a).2 = c := by
  cases hfind : c.find? a.key with
  | none => rw [delete_of_missing now hfind]
  | some left =>
      obtain ⟨hguarded, hmarked⟩ := h left hfind
      rw [delete_of_guarded now hfind hguarded, if_pos hmarked]

theorem settled_delete (now : Instant) (c : Cluster) (a : Address) : Settled (c.delete now a).2 a.key := by
  intro left hleft
  cases hfind : c.find? a.key with
  | none =>
      rw [delete_of_missing now hfind] at hleft
      cases hfind.symm.trans hleft
  | some o =>
      cases hguarded : o.metadata.hasFinalizers with
      | false =>
          rw [delete_of_unguarded now hfind hguarded] at hleft
          cases hleft.symm.trans ((Dict.at?_without ..).trans (if_pos rfl))
      | true =>
          rw [delete_of_guarded now hfind hguarded] at hleft
          dsimp only at hleft
          split at hleft
          · rename_i hmarked
            cases hfind.symm.trans hleft
            exact ⟨hguarded, hmarked⟩
          · rw [find?_commit_put, if_pos rfl] at hleft
            cases hleft
            exact ⟨hguarded, rfl⟩

theorem Settled.delete (h : Settled c k) (now : Instant) (b : Address) : Settled (c.delete now b).2 k := by
  by_cases hk : k = b.key
  · subst hk
    rw [delete_of_settled now h]
    exact h
  · intro left hleft
    rw [show (c.delete now b).2.find? k = c.find? k from find?_perform_of_ne now c (.delete b) hk] at hleft
    exact h left hleft

theorem guarded_delete (now : Instant) (c : Cluster) (b : Address) (k : Key) :
    Guarded (c.delete now b).2 k ↔ Guarded c k := by
  by_cases hk : k = b.key
  · subst hk
    constructor
    · rintro ⟨left, hleft, -⟩
      refine Classical.byContradiction ?_
      intro hnot
      cases hleft.symm.trans ((find?_delete now c b).2 hnot)
    · intro hguarded
      cases hfind : (c.delete now b).2.find? b.key with
      | none => exact absurd hguarded ((find?_delete now c b).1 hfind)
      | some left => exact ⟨left, hfind, (settled_delete now c b left hfind).1⟩
  · exact guarded_congr (find?_perform_of_ne now c (.delete b) hk)

end Delete

section Sweep

variable {now : Instant} {as : List Address} {c : Cluster} {k : Key}

theorem faults_sweep : (sweep now as c).faults = c.faults := by
  induction as generalizing c with
  | nil => rfl
  | cons a as ih => exact ih.trans (faults_delete now c a)

theorem sweep_faults (faults : List Fault) : sweep now as { c with faults } = { sweep now as c with faults } := by
  induction as generalizing c with
  | nil => rfl
  | cons a as ih =>
      show sweep now as (delete now { c with faults } a).2 = _
      rw [delete_faults]
      exact ih

theorem kept_sweep (h : c.Kept) : (sweep now as c).Kept := by
  induction as generalizing c with
  | nil => exact h
  | cons a as ih => exact ih (h.perform now (.delete a))

theorem find?_sweep_of_ne (h : ∀ a ∈ as, k ≠ a.key) : (sweep now as c).find? k = c.find? k := by
  induction as generalizing c with
  | nil => rfl
  | cons a as ih =>
      exact (ih fun b hb => h b (List.mem_cons_of_mem _ hb)).trans
        (find?_perform_of_ne now c (.delete a) (h a (List.mem_cons_self ..)))

theorem guarded_sweep : Guarded (sweep now as c) k ↔ Guarded c k := by
  induction as generalizing c with
  | nil => rfl
  | cons a as ih => exact ih.trans (guarded_delete now c a k)

theorem Settled.sweep (h : Settled c k) : Settled (sweep now as c) k := by
  induction as generalizing c with
  | nil => exact h
  | cons a as ih => exact ih (h.delete now a)

theorem settled_sweep {a : Address} (ha : a ∈ as) : Settled (sweep now as c) a.key := by
  induction as generalizing c with
  | nil => cases ha
  | cons b as ih =>
      rcases List.mem_cons.1 ha with rfl | ha
      · exact (settled_delete now c a).sweep
      · exact ih ha

theorem find?_sweep {a : Address} (ha : a ∈ as) : (sweep now as c).find? a.key = none ↔ ¬Guarded c a.key := by
  refine Iff.trans (b := ¬Guarded (sweep now as c) a.key) ?_ (not_congr guarded_sweep)
  constructor
  · exact not_guarded_of_missing
  · intro hnot
    cases hfind : (sweep now as c).find? a.key with
    | none => rfl
    | some left => exact absurd ⟨left, hfind, (settled_sweep ha left hfind).1⟩ hnot

theorem sweep_of_settled (h : ∀ a ∈ as, Settled c a.key) : sweep now as c = c := by
  induction as with
  | nil => rfl
  | cons a as ih =>
      show sweep now as (c.delete now a).2 = c
      rw [delete_of_settled now (h a (List.mem_cons_self ..))]
      exact ih fun b hb => h b (List.mem_cons_of_mem _ hb)

theorem sweep_resumed (now : Instant) (done rest : List Address) (c : Cluster) :
    sweep now (done ++ rest) (sweep now done c) = sweep now (done ++ rest) c :=
  calc sweep now (done ++ rest) (sweep now done c)
    _ = sweep now rest (sweep now done (sweep now done c)) := List.foldl_append
    _ = sweep now rest (sweep now done c) := by rw [sweep_of_settled fun a ha => settled_sweep ha]
    _ = sweep now (done ++ rest) c := List.foldl_append.symm

end Sweep

section Refusal

variable {now : Instant} {as : List Address} {c c' : Cluster} {a : Address} {e : StoreError}

theorem refused_iff_strike : Refused now c a e ↔ (c.strike .delete a.resource.kind a.name).1 = some e := by
  rcases strike_cases c (.delete a) with hcalm | ⟨-, e', c', hstrike, -, he'⟩
  · have hstrike : c.strike .delete a.resource.kind a.name = (none, c) := strike_of_calm hcalm
    rw [Refused, answer_of_calm now hcalm, hstrike]
    constructor
    · rintro ⟨he, hreal⟩
      rcases delete_counts now c a with hok | ⟨e', herror, hmissing⟩
      · cases hok.symm.trans he
      · cases herror.symm.trans he
        rw [hreal] at hmissing
        cases hmissing
    · intro hnone
      cases hnone
  · have hstrike : c.strike .delete a.resource.kind a.name = (some e', c') := hstrike
    have hanswer : (c.answer now (.delete a)).1 = .error e' := by
      rw [answer, show c.strike (Call.delete a).verb (Call.delete a).address.resource.kind
        (Call.delete a).address.name = (some e', c') from hstrike]
    rw [Refused, hanswer, hstrike]
    constructor
    · rintro ⟨he, -⟩
      cases he
      rfl
    · intro he
      cases he
      exact ⟨rfl, he'.not_notFound⟩

theorem Refused.of_faults (h : Refused now c' a e) (hfaults : c'.faults = c.faults) : Refused now c a e := by
  rw [refused_iff_strike] at h ⊢
  exact (strike_congr hfaults ..).symm.trans h

theorem not_refused (h : c.Calm (.delete a)) : ¬Refused now c a e := by
  rw [refused_iff_strike, show c.strike .delete a.resource.kind a.name = (none, c) from strike_of_calm h]
  intro hnone
  cases hnone

structure Stopped (now : Instant) (c : Cluster) (done : List Address) (a : Address) (e : StoreError)
    (failure : Failure) (c' : Cluster) : Prop where
  accepted : ∀ b ∈ done, c.Calm (.delete b)
  refused : Refused now c a e
  failure : failure = .during ("failed to delete " ++ a.display) e
  left : Spent (sweep now done c) c'

theorem Stopped.cons {done : List Address} {failure : Failure} {b : Address} (hcalm : c.Calm (.delete b))
    (h : Stopped now (c.delete now b).2 done a e failure c') : Stopped now c (b :: done) a e failure c' where
  accepted b' hb' := by
    rcases List.mem_cons.1 hb' with rfl | hb'
    · exact hcalm
    · exact (h.accepted b' hb').of_sublist (faults_delete now c b ▸ List.Sublist.refl _)
  refused := h.refused.of_faults (faults_delete now c b)
  failure := h.failure
  left := h.left

theorem deleteAll_sweeps (now : Instant) (as : List Address) (c : Cluster) :
    (deleteAll as).Along (answerer now) (fun call _ => ∃ a ∈ as, call = .delete a) (fun r c' => match r with
      | .ok _ => (∀ a ∈ as, c.Calm (.delete a)) ∧ c' = sweep now as c
      | .error failure => ∃ done a rest e, as = done ++ a :: rest ∧ Stopped now c done a e failure c') c := by
  induction as generalizing c with
  | nil => exact ⟨fun _ ha => (nomatch ha), rfl⟩
  | cons a as ih =>
      refine Program.along_attempt_bind.2 ⟨⟨a, List.mem_cons_self .., rfl⟩, ?_⟩
      rcases answer_cases now c (.delete a) with ⟨hcalm, ha⟩ | ⟨-, e, c', ha, hspent, he⟩
      · have hlater : (deleteAll as).Along (answerer now) (fun call _ => ∃ b ∈ a :: as, call = .delete b) (fun r c' =>
            match r with
            | .ok _ => (∀ b ∈ a :: as, c.Calm (.delete b)) ∧ c' = sweep now (a :: as) c
            | .error failure => ∃ done b rest e, a :: as = done ++ b :: rest ∧ Stopped now c done b e failure c')
            (c.delete now a).2 := by
          refine (ih (c.delete now a).2).mono
            (fun _ _ ⟨b, hb, hcall⟩ => ⟨b, List.mem_cons_of_mem _ hb, hcall⟩) ?_
          intro r c' h
          cases r with
          | ok _ =>
              refine ⟨?_, h.2⟩
              intro b hb
              rcases List.mem_cons.1 hb with rfl | hb
              · exact hcalm
              · exact (h.1 b hb).of_sublist (faults_delete now c a ▸ List.Sublist.refl _)
          | error failure =>
              obtain ⟨done, b, rest, e, has, hstopped⟩ := h
              exact ⟨a :: done, b, rest, e, congrArg (a :: ·) has, hstopped.cons hcalm⟩
        -- A delete that finds nothing is not the end of the run either.
        simp only [answerer, ha, perform]
        rcases delete_counts now c a with hok | ⟨e, herror, he⟩
        · rw [hok]
          exact hlater
        · rw [herror]
          simp only [he, if_true]
          exact hlater
      · simp only [answerer, ha, he.not_notFound]
        have hrefused : Refused now c a e := ⟨by rw [ha], he.not_notFound⟩
        exact ⟨[], a, as, e, rfl, fun _ hb => (nomatch hb), hrefused, rfl, hspent⟩

theorem torn_of_sweep (now : Instant) (as : List Address) (hk : c.Kept) : TornDown as c (sweep now as c) where
  gone _ ha := find?_sweep ha
  left _ ha o ho := (settled_sweep ha o ho).1
  others _ hne := find?_sweep_of_ne hne
  kept := kept_sweep hk

theorem deleteAll_along (now : Instant) (as : List Address) (hk : c.Kept) :
    (deleteAll as).Along (answerer now) (fun call _ => ∃ a ∈ as, call = .delete a) (fun r c' => match r with
      | .ok _ => TornDown as c c'
      | .error _ => True) c := by
  refine (deleteAll_sweeps now as c).mono (fun _ _ h => h) ?_
  intro r c' h
  cases r with
  | ok _ =>
      rw [h.2]
      exact torn_of_sweep now as hk
  | error _ => trivial

end Refusal

theorem managedObjects_distinct (s : Scope) : ((managedObjects s).map Address.key).Nodup := by
  simp [managedObjects, Address.key, Address.ofKind, Kind.resource, Kind.name, Names.ideServer, Names.database,
    Names.ideWorkspace, Names.databaseClaim]

end EnvironmentOperator.Teardown
