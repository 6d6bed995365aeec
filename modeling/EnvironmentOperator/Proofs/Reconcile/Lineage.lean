import EnvironmentOperator.Proofs.Cluster.Moves
import EnvironmentOperator.Proofs.Reconcile.Finalizer
import EnvironmentOperator.Proofs.Reconcile.Teardown
import EnvironmentOperator.Proofs.Spec
/-!
How a stored environment comes to be what it is. Each write makes a version of the one before it; the generation grows
with the spec, and never without a version.
-/
namespace EnvironmentOperator

open Cluster Environment

namespace Object

def SameSpec (o o' : Object) : Prop :=
  (o'.data.member? "spec").map Json.unsignedZeros = (o.data.member? "spec").map Json.unsignedZeros

def readStatus (o : Object) : Except DecodeError (Option EnvironmentStatus) :=
  Fields.readOptional (o.data.member? "status")

def Marked (o : Object) : Prop := finalizer ∈ o.metadata.finalizerList

theorem Marked.hasFinalizers {o : Object} (h : o.Marked) : o.metadata.hasFinalizers = true := by
  unfold Metadata.hasFinalizers
  cases hlist : o.metadata.finalizerList with
  | nil =>
      rw [Marked, hlist] at h
      cases h
  | cons => rfl

theorem SameSpec.read {o o' : Object} {env env' : Environment} (h : o.SameSpec o')
    (henv : Manifest.ofObject o = .ok env) (henv' : Manifest.ofObject o' = .ok env') : env'.spec = env.spec := by
  obtain ⟨-, hspec, -⟩ := ofObject_eq_ok.1 henv
  obtain ⟨-, hspec', -⟩ := ofObject_eq_ok.1 henv'
  unfold SameSpec at h
  cases hold : o.data.member? "spec" with
  | none =>
      rw [hold] at hspec
      cases hspec
  | some i =>
      rw [hold] at h
      obtain ⟨j, hj, hsame⟩ := Option.map_eq_some_iff.1 h
      have hblind : Agree (Fields.readGiven (some i)) (Fields.readGiven (some j)) :=
        (ZeroBlind.agree (α := EnvironmentSpec) hsame.symm).map some
      rw [hj] at hspec'
      rw [hold] at hspec
      exact Option.some.inj (Except.ok.inj (hspec'.symm.trans (hblind.ok hspec)))

end Object

/-- The one object has come from the other, and its generation has grown by so many. -/
def Descends (c : Cluster) (o : Object) (c' : Cluster) (o' : Object) : Prop :=
  ∃ n : Nat, c.lastVersion + n ≤ c'.lastVersion ∧
    o'.metadata.generation = o.metadata.generation.map (· + Int64.ofNat n) ∧ (n = 0 → o.SameSpec o')

namespace Descends

variable {c c' c'' : Cluster} {o o' o'' : Object}

theorem same (h : c.lastVersion ≤ c'.lastVersion) : Descends c o c' o := by
  refine ⟨0, h, ?_, fun _ => rfl⟩
  cases o.metadata.generation <;> simp

theorem trans (h : Descends c o c' o') (h' : Descends c' o' c'' o'') : Descends c o c'' o'' := by
  obtain ⟨n, hversion, hgeneration, hspec⟩ := h
  obtain ⟨n', hversion', hgeneration', hspec'⟩ := h'
  refine ⟨n + n', by omega, ?_, fun hn => (hspec' (by omega)).trans (hspec (by omega))⟩
  rw [hgeneration', hgeneration, Option.map_map]
  congr 1
  funext g
  simp [Int64.ofNat_add, Int64.add_assoc]

theorem sameSpec (h : Descends c o c' o') (hversions : c'.lastVersion < 2 ^ 64) {g : Int64}
    (hg : o.metadata.generation = some g) (hg' : o'.metadata.generation = some g) : o.SameSpec o' := by
  obtain ⟨n, hversion, hgeneration, hspec⟩ := h
  refine hspec ?_
  rw [hg, hg', Option.map_some, Option.some_inj] at hgeneration
  have hbits := congrArg (fun x => x.toBitVec.toNat) hgeneration
  have hlt := g.toBitVec.isLt
  simp only [Int64.toBitVec_add, Int64.toBitVec_ofNat', BitVec.toNat_add, BitVec.toNat_ofNat] at hbits
  omega

end Descends

section Entry

variable {k : Key} {c c' c'' : Cluster} {o : Object}

def Shifts (k : Key) (c c' : Cluster) : Prop :=
  ∀ o', c'.find? k = some o' → o'.readStatus = .ok none ∨
    ∃ o, c.find? k = some o ∧ o'.readStatus = o.readStatus ∧ Descends c o c' o'

def Endures (k : Key) (c c' : Cluster) : Prop :=
  ∀ o, c.find? k = some o → o.Marked → ∃ o', c'.find? k = some o' ∧ o'.Marked ∧ Descends c o c' o'

/-- What becomes of an entry in the hands of others. -/
structure Drift (k : Key) (c c' : Cluster) : Prop where
  kept : c.Kept → c'.Kept
  later : Later c c'
  shifts : Shifts k c c'
  endures : Endures k c c'

theorem shifts_of_find? (hversion : c.lastVersion ≤ c'.lastVersion) (h : c'.find? k = c.find? k) : Shifts k c c' :=
  fun o' ho' => .inr ⟨o', h ▸ ho', rfl, .same hversion⟩

theorem endures_of_find? (hversion : c.lastVersion ≤ c'.lastVersion) (h : c'.find? k = c.find? k) : Endures k c c' :=
  fun o ho hmarked => ⟨o, h ▸ ho, hmarked, .same hversion⟩

theorem Shifts.trans (h : Shifts k c c') (h' : Shifts k c' c'') : Shifts k c c'' := by
  intro o'' ho''
  rcases h' o'' ho'' with hnone | ⟨o', ho', hstatus', hdescends'⟩
  · exact .inl hnone
  · rcases h o' ho' with hnone | ⟨o, ho, hstatus, hdescends⟩
    · exact .inl (hstatus'.trans hnone)
    · exact .inr ⟨o, ho, hstatus'.trans hstatus, hdescends.trans hdescends'⟩

theorem Endures.trans (h : Endures k c c') (h' : Endures k c' c'') : Endures k c c'' := by
  intro o ho hmarked
  obtain ⟨o', ho', hmarked', hdescends⟩ := h o ho hmarked
  obtain ⟨o'', ho'', hmarked'', hdescends'⟩ := h' o' ho' hmarked'
  exact ⟨o'', ho'', hmarked'', hdescends.trans hdescends'⟩

theorem Drift.refl (k : Key) (c : Cluster) : Drift k c c :=
  ⟨id, .refl c, shifts_of_find? (Nat.le_refl _) rfl, endures_of_find? (Nat.le_refl _) rfl⟩

theorem Drift.trans (h : Drift k c c') (h' : Drift k c' c'') : Drift k c c'' :=
  ⟨h'.kept ∘ h.kept, h.later.trans h'.later, h.shifts.trans h'.shifts, h.endures.trans h'.endures⟩

section Replace

variable {resource : Resource} {live next : Object}

theorem member?_specContent (o : Object) {key : String} (h : key ≠ "status") :
    (specContent o).member? key = o.data.member? key := by
  unfold specContent
  cases o.data with
  | obj fields => exact (Dict.at?_without ..).trans (if_neg h)
  | _ => rfl

theorem descends_revised (c : Cluster) (hgeneration : live.metadata.generation.isSome = true) (next : Object)
    (objects : Dict Key Object) : Descends c live (c.commit objects) (c.revised live (carried live next)) := by
  obtain ⟨g, hg⟩ := Option.isSome_iff_exists.1 hgeneration
  by_cases hsame : Json.Same (specContent (carried live next)) (specContent live)
  · refine ⟨0, Nat.le_succ _, ?_, fun _ => ?_⟩
    · rw [revised, if_pos hsame]
      show live.metadata.generation = _
      rw [hg, Option.map_some]
      exact congrArg some (by simp)
    · have hspec := hsame.member?_map "spec"
      rw [member?_specContent _ (by decide), member?_specContent _ (by decide)] at hspec
      exact hspec
  · refine ⟨1, Nat.le_refl _, ?_, fun h => by cases h⟩
    rw [revised, if_neg hsame, grown, hg]
    rfl

theorem readStatus_revised (hobject : next.data.isObject = true)
    (h : live.data.member? "status" = none → next.readStatus = .ok none) :
    (c.revised live (carried live next)).readStatus = live.readStatus := by
  have hcarried : (c.revised live (carried live next)).data.member? "status" =
      (live.data.member? "status").or (next.data.member? "status") := carried_data live next hobject "status"
  unfold Object.readStatus at h ⊢
  rw [hcarried]
  cases hlive : live.data.member? "status" with
  | none => exact h hlive
  | some status => rfl

theorem readStatus_revised_of_other (hother : next.data.isObject = false) :
    (c.revised live (carried live next)).readStatus = .ok none := by
  show Fields.readOptional ((keptStatus live.data next.data).member? "status") = _
  rw [keptStatus_of_other live.data hother, member?_of_other hother]
  rfl

theorem entry_replace (now : Instant) (c : Cluster) (hkey : (Call.addressOf resource next).key = k) :
    (c.answer now (.replace resource next)).2.find? k = c.find? k ∨
      ∃ live, c.find? k = some live ∧ isStale live next = false ∧
        (isReleased (c.revised live (carried live next)) = true ∧
            (c.answer now (.replace resource next)).2.find? k = none ∨
          (c.answer now (.replace resource next)).2 =
            c.commit (Dict.put c.objects k (c.revised live (carried live next)))) := by
  subst hkey
  rcases answer_snd_cases now c (.replace resource next) with ha | hspent
  · rw [ha, perform]
    rcases replace_cases c resource next with ⟨e, he⟩ | ⟨live, hlive, hfresh, he | he⟩
    · exact .inl (he ▸ rfl)
    · exact .inl (he ▸ rfl)
    · refine .inr ⟨live, hlive, hfresh, ?_⟩
      rw [he]
      cases hreleased : isReleased (c.revised live (carried live next)) with
      | true => exact .inl ⟨rfl, (find?_commit_without ..).trans (if_pos rfl)⟩
      | false => exact .inr rfl
  · exact .inl (hspent.find? _)

theorem shifts_replace (now : Instant) (hk : c.Kept) (hkey : (Call.addressOf resource next).key = k)
    (hstatus : ∀ live, c.find? k = some live → isStale live next = false → live.data.member? "status" = none →
      next.readStatus = .ok none) : Shifts k c (c.answer now (.replace resource next)).2 := by
  rcases entry_replace now c hkey with hsame | ⟨live, hlive, hfresh, ⟨-, hgone⟩ | hput⟩
  · exact shifts_of_find? (advanced_answer now c _).lastVersion hsame
  · intro o' ho'
    rw [hgone] at ho'
    cases ho'
  · rw [hput]
    intro o' ho'
    rw [find?_commit_put, if_pos rfl] at ho'
    cases ho'
    cases hobject : next.data.isObject with
    | false => exact .inl (readStatus_revised_of_other hobject)
    | true =>
        exact .inr ⟨live, hlive, readStatus_revised hobject (hstatus live hlive hfresh),
          descends_revised c (hk k live hlive).generation next _⟩

theorem endures_replace (now : Instant) (hk : c.Kept) (hkey : (Call.addressOf resource next).key = k)
    (hmarked : ∀ live, c.find? k = some live → isStale live next = false → live.Marked → next.Marked) :
    Endures k c (c.answer now (.replace resource next)).2 := by
  rcases entry_replace now c hkey with hsame | ⟨live, hlive, hfresh, hentry⟩
  · exact endures_of_find? (advanced_answer now c _).lastVersion hsame
  intro o ho hlives
  cases hlive.symm.trans ho
  have hstays : (c.revised live (carried live next)).Marked := hmarked live hlive hfresh hlives
  rcases hentry with ⟨hreleased, -⟩ | hput
  · rw [isReleased, hstays.hasFinalizers, Bool.not_true, Bool.and_false] at hreleased
    cases hreleased
  · rw [hput]
    exact ⟨_, (find?_commit_put ..).trans (if_pos rfl), hstays,
      descends_revised c (hk k live hlive).generation next _⟩

end Replace

theorem drift_of_find? (now : Instant) (c : Cluster) {call : Call}
    (h : (c.answer now call).2.find? k = c.find? k) : Drift k c (c.answer now call).2 :=
  ⟨fun hk => hk.answer now call, (advanced_answer now c call).later,
    shifts_of_find? (advanced_answer now c call).lastVersion h,
    endures_of_find? (advanced_answer now c call).lastVersion h⟩

def Seen (k : Key) (o : Object) (c : Cluster) : Prop := ∃ c₁, c₁.Kept ∧ c₁.find? k = some o ∧ Later c₁ c

theorem Seen.later (h : Seen k o c) (hlater : Later c c') : Seen k o c' := by
  obtain ⟨c₁, hk, ho, hbefore⟩ := h
  exact ⟨c₁, hk, ho, hbefore.trans hlater⟩

theorem Seen.live {resource : Resource} {next live : Object} (h : Seen k o c)
    (hkey : (Call.addressOf resource next).key = k)
    (hversion : next.metadata.resourceVersion = o.metadata.resourceVersion) (hlive : c.find? k = some live)
    (hfresh : isStale live next = false) : live = o := by
  obtain ⟨c₁, hk, ho, hlater⟩ := h
  have hbased : Based resource next c₁ o := ⟨hkey ▸ ho, hversion⟩
  rcases hlater.objects k live hlive with hbefore | hnewer
  · exact Option.some.inj (hbefore.symm.trans ho)
  · rw [hbased.stale hk hnewer] at hfresh
    cases hfresh

/-- What others do to the environment under the key: it is created without a status, it is edited by somebody who has
read it and leaves metadata and status as they were read, and its deletion is asked for. -/
inductive Outside (k : Key) (readings : List Object) : Call → Prop where
  | elsewhere {call : Call} : call.address.key ≠ k → Outside k readings call
  | look (a : Address) : Outside k readings (.get a)
  | create (resource : Resource) {o : Object} : o.readStatus = .ok none → Outside k readings (.create resource o)
  | edit (resource : Resource) {seen next : Object} : seen ∈ readings →
      next.metadata.exchanged = seen.metadata.exchanged → next.readStatus = seen.readStatus →
      Outside k readings (.replace resource next)
  | delete (a : Address) : Outside k readings (.delete a)

theorem drift_delete (now : Instant) (hk : c.Kept) (a : Address) : Drift a.key c (c.answer now (.delete a)).2 := by
  rcases (answer_cases now c (.delete a)).symm with ⟨-, e, c', ha, hspent, -⟩ | ⟨-, ha⟩
  · exact drift_of_find? now c (ha ▸ hspent.find? a.key)
  rw [perform] at ha
  cases hfind : c.find? a.key with
  | none =>
      rw [Teardown.delete_of_missing now hfind] at ha
      exact drift_of_find? now c (ha ▸ rfl)
  | some o =>
      have hentry (hshifts : Shifts a.key c (c.answer now (.delete a)).2)
          (hendures : Endures a.key c (c.answer now (.delete a)).2) : Drift a.key c (c.answer now (.delete a)).2 :=
        ⟨fun hk => hk.answer now _, (advanced_answer now c _).later, hshifts, hendures⟩
      cases hguarded : o.metadata.hasFinalizers with
      | false =>
          rw [Teardown.delete_of_unguarded now hfind hguarded] at ha
          refine hentry ?_ ?_
          · intro o' ho'
            have hgone : (c.answer now (.delete a)).2.find? a.key = none := by
              rw [ha]
              exact (Dict.at?_without ..).trans (if_pos rfl)
            cases hgone.symm.trans ho'
          · intro o' ho' hmarked
            cases hfind.symm.trans ho'
            rw [hmarked.hasFinalizers] at hguarded
            cases hguarded
      | true =>
          rw [Teardown.delete_of_guarded now hfind hguarded] at ha
          cases hdeletion : o.metadata.deletionTimestamp.isSome with
          | true =>
              rw [hdeletion, if_pos rfl] at ha
              exact drift_of_find? now c (ha ▸ rfl)
          | false =>
              rw [hdeletion, if_neg Bool.false_ne_true] at ha
              obtain ⟨g, hg⟩ := Option.isSome_iff_exists.1 (hk _ _ hfind).generation
              have hdescends : Descends c o (c.answer now (.delete a)).2 (Cluster.marked now c o) := by
                rw [ha]
                refine ⟨1, Nat.le_refl _, ?_, fun h => by cases h⟩
                rw [hg]
                exact congrArg (fun generation => grown generation) hg
              have hfind' : (c.answer now (.delete a)).2.find? a.key = some (Cluster.marked now c o) := by
                rw [ha]
                exact (find?_commit_put ..).trans (if_pos rfl)
              refine hentry ?_ ?_
              · intro o' ho'
                cases hfind'.symm.trans ho'
                exact .inr ⟨o, hfind, rfl, hdescends⟩
              · intro o' ho' hmarked
                cases hfind.symm.trans ho'
                exact ⟨_, hfind', hmarked, hdescends⟩

theorem drift_create (now : Instant) (c : Cluster) {resource : Resource} {o : Object}
    (hstatus : o.readStatus = .ok none) :
    Drift (Call.addressOf resource o).key c (c.answer now (.create resource o)).2 := by
  rcases (answer_cases now c (.create resource o)).symm with ⟨-, e, c', ha, hspent, -⟩ | ⟨-, ha⟩
  · exact drift_of_find? now c (ha ▸ hspent.find? _)
  rw [perform] at ha
  cases hfind : c.find? (Call.addressOf resource o).key with
  | some live =>
      refine drift_of_find? now c ?_
      rw [ha, create, hfind]
      exact hfind
  | none =>
      refine ⟨fun hk => hk.answer now _, (advanced_answer now c _).later, ?_, ?_⟩
      · intro o' ho'
        rw [ha, create_of_missing hfind, find?_commit_put, if_pos rfl] at ho'
        cases ho'
        exact .inl hstatus
      · intro o' ho'
        cases hfind.symm.trans ho'

theorem Outside.drift {readings : List Object} {call : Call} (h : Outside k readings call) (now : Instant)
    (hk : c.Kept) (hreadings : ∀ o ∈ readings, Seen k o c) : Drift k c (c.answer now call).2 := by
  by_cases hkey : call.address.key ≠ k
  · exact drift_of_find? now c (find?_answer_of_ne now c call hkey.symm)
  have hkey : call.address.key = k := not_not.1 hkey
  cases h with
  | elsewhere hne => exact absurd hkey hne
  | look a => exact drift_of_find? now c (find?_look now c a k)
  | create resource hstatus => exact hkey ▸ drift_create now c hstatus
  | delete a => exact hkey ▸ drift_delete now hk a
  | @edit resource seen next hseen hmetadata hstatus =>
      have hversion : next.metadata.exchanged.resourceVersion = seen.metadata.exchanged.resourceVersion :=
        congrArg Metadata.resourceVersion hmetadata
      have hlive (live : Object) (hfind : c.find? k = some live) (hfresh : isStale live next = false) : live = seen :=
        (hreadings seen hseen).live hkey hversion hfind hfresh
      refine ⟨fun hk => hk.answer now _, (advanced_answer now c _).later, shifts_replace now hk hkey ?_,
        endures_replace now hk hkey ?_⟩
      · intro live hfind hfresh hnone
        rw [hstatus, ← hlive live hfind hfresh, Object.readStatus, hnone]
        rfl
      · intro live hfind hfresh hmarked
        rw [hlive live hfind hfresh] at hmarked
        show finalizer ∈ next.metadata.exchanged.finalizerList
        rw [hmetadata]
        exact hmarked

end Entry

end EnvironmentOperator
