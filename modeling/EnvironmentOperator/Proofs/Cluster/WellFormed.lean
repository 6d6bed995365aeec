import EnvironmentOperator.Proofs.Cluster.Accounting
import EnvironmentOperator.Proofs.Cluster.Lifetime
import EnvironmentOperator.Proofs.Cluster.Order

namespace EnvironmentOperator.Cluster

variable {now : Instant} {c c' : Cluster} {k : Key} {o o' : Object} {x : Option Object} {call : Call} {n : Nat}

structure Rewritten (c : Cluster) (o o' : Object) : Prop where
  uid : o'.metadata.uid = o.metadata.uid
  version : o'.metadata.resourceVersion = some c.nextVersion
  generation : o'.metadata.generation = o.metadata.generation ∧
      (o.data.isObject = true → Json.Same (specContent o') (specContent o)) ∨
    o'.metadata.generation = grown o.metadata.generation

theorem withoutMember_withStatus {data : Json} (h : data.isObject = true) (status : Json) :
    (withStatus data status).withoutMember "status" = data.withoutMember "status" := by
  cases data with
  | obj fields => exact congrArg Json.obj (Dict.without_put fields "status" _)
  | _ => cases h

theorem same_reportedOn (c : Cluster) {o : Object} (h : o.data.isObject = true) (status : Json) :
    Json.Same (specContent (c.reportedOn o status)) (specContent o) :=
  congrArg Json.unsignedZeros (withoutMember_withStatus h status)

theorem Fate.rewritten (h : Fate now c k call x (some o')) :
    x = some o' ∨ (∃ o, x = some o ∧ Rewritten c o o') ∨ ∃ next, o' = c.admitted next := by
  cases h with
  | same => exact .inl rfl
  | created => exact .inr (.inr ⟨_, rfl⟩)
  | @revised resource next o =>
      refine .inr (.inl ⟨o, rfl, rfl, rfl, ?_⟩)
      rcases revised_generation c o (carried o next) with ⟨hsame, hkept⟩ | ⟨-, hgrown⟩
      · exact .inl ⟨hkept, fun _ => hsame⟩
      · exact .inr hgrown
  | marked o => exact .inr (.inl ⟨o, rfl, rfl, rfl, .inr rfl⟩)
  | reported status o => exact .inr (.inl ⟨o, rfl, rfl, rfl, .inl ⟨rfl, fun h => same_reportedOn c h status⟩⟩)

theorem Move.rewritten (h : Move c c') (hk : c.Kept) (ho' : c'.find? k = some o') :
    c.find? k = some o' ∨ c.lastVersion < c'.lastVersion ∧
      ((∃ o, c.find? k = some o ∧ Rewritten c o o') ∨ ∃ next, o' = c.admitted next) := by
  have hpassed (hversion : o'.metadata.resourceVersion = some c.nextVersion) : c.lastVersion < c'.lastVersion := by
    obtain ⟨n, hn, hsame⟩ := (h.kept hk k o' ho').version
    rw [hversion, Option.some_inj, nextVersion] at hsame
    have hnumber := Text.decimal_injective hsame
    omega
  rcases h.cases with ⟨now, call, rfl⟩ | ⟨faults, rfl⟩
  · have hfate := fate_answer now c call k
    rw [ho'] at hfate
    rcases hfate.rewritten with hsame | ⟨o, ho, hwritten⟩ | ⟨next, rfl⟩
    · exact .inl hsame
    · exact .inr ⟨hpassed hwritten.version, .inl ⟨o, ho, hwritten⟩⟩
    · exact .inr ⟨hpassed rfl, .inr ⟨next, rfl⟩⟩
  · exact .inl ho'

theorem grown_ofNat (n : Nat) : grown (some (Int64.ofNat n)) = some (Int64.ofNat (n + 1)) := by
  rw [Int64.ofNat_add]
  rfl

/-- Its uid, its version and its generation are each made from a number that has been reached by now. -/
structure Numbered (lastVersion : Nat) (o : Object) : Prop where
  uid : ∃ n, 1 ≤ n ∧ n ≤ lastVersion ∧ o.metadata.uid = some (uidText n)
  version : ∃ n, 1 ≤ n ∧ n ≤ lastVersion ∧ o.metadata.resourceVersion = some (Text.decimal n)
  generation : ∃ n, 1 ≤ n ∧ n ≤ lastVersion ∧ o.metadata.generation = some (Int64.ofNat n)

theorem Numbered.mono {m : Nat} (h : Numbered n o) (hle : n ≤ m) : Numbered m o := by
  obtain ⟨⟨u, hu, hun, huid⟩, ⟨v, hv, hvn, hversion⟩, ⟨g, hg, hgn, hgeneration⟩⟩ := h
  exact ⟨⟨u, hu, Nat.le_trans hun hle, huid⟩, ⟨v, hv, Nat.le_trans hvn hle, hversion⟩,
    ⟨g, hg, Nat.le_trans hgn hle, hgeneration⟩⟩

theorem numbered_admitted (c : Cluster) (o : Object) : Numbered (c.lastVersion + 1) (c.admitted o) where
  uid := ⟨c.lastVersion + 1, Nat.le_add_left .., Nat.le_refl _, rfl⟩
  version := ⟨c.lastVersion + 1, Nat.le_add_left .., Nat.le_refl _, rfl⟩
  generation := ⟨1, Nat.le_refl _, Nat.le_add_left .., rfl⟩

theorem Numbered.rewritten (h : Numbered c.lastVersion o) (hwritten : Rewritten c o o') :
    Numbered (c.lastVersion + 1) o' where
  uid := by
    rw [hwritten.uid]
    exact (h.mono (Nat.le_succ _)).uid
  version := ⟨c.lastVersion + 1, Nat.le_add_left .., Nat.le_refl _, hwritten.version⟩
  generation := by
    obtain ⟨n, hn, hle, hgeneration⟩ := h.generation
    rcases hwritten.generation with ⟨hkept, -⟩ | hgrown
    · exact ⟨n, hn, Nat.le_succ_of_le hle, hkept.trans hgeneration⟩
    · refine ⟨n + 1, Nat.le_add_left .., Nat.succ_le_succ hle, ?_⟩
      rw [hgrown, hgeneration, grown_ofNat]

theorem Numbered.one_le (h : Numbered n o) (hrange : n < 2 ^ 63) :
    ∃ g, o.metadata.generation = some g ∧ 1 ≤ g := by
  obtain ⟨m, hm, hle, hgeneration⟩ := h.generation
  refine ⟨_, hgeneration, ?_⟩
  have hone : (1 : Int64).toInt = 1 := rfl
  rw [Int64.le_iff_toInt_le, Int64.toInt_ofNat_of_lt (Nat.lt_of_le_of_lt hle hrange), hone]
  omega

theorem Move.numbered (h : Move c c') (hk : c.Kept) (hn : ∀ k o, c.find? k = some o → Numbered c.lastVersion o) :
    ∀ k o, c'.find? k = some o → Numbered c'.lastVersion o := by
  intro k o' ho'
  rcases h.rewritten hk ho' with ho | ⟨hpassed, ⟨o, ho, hwritten⟩ | ⟨next, rfl⟩⟩
  · exact (hn k o' ho).mono h.later.lastVersion
  · exact ((hn k o ho).rewritten hwritten).mono hpassed
  · exact (numbered_admitted c next).mono hpassed

theorem Reachable.numbered (h : Reachable c) (ho : c.find? k = some o) : Numbered c.lastVersion o := by
  induction h generalizing k o with
  | empty => cases ho
  | answer now call hc ih => exact (move_answer ..).numbered hc.kept (fun _ _ => ih) k o ho
  | plant f _ ih => exact ih ho
  | clearFaults _ ih => exact ih ho

/-- The objects are listed in the order of their keys. There are no more versions than changes. Each object lies under
its own name, has a uid, a version and a generation that are numbers reached by now, and has finalizers when it is
marked for deletion. Generations are kept in 64 bits with a sign, so they do not turn back before there have been 2 ^ 63
versions. -/
theorem well_formed (h : Reachable c) :
    Dict.Ordered c.objects ∧ c.lastVersion ≤ c.mutations ∧
      ∀ k o, (k, o) ∈ c.objects → Placed c.lastVersion k o ∧ Numbered c.lastVersion o ∧
        (c.lastVersion < 2 ^ 63 → ∃ g, o.metadata.generation = some g ∧ 1 ≤ g) := by
  refine ⟨h.ordered, h.versions_le, ?_⟩
  intro k o hmem
  have ho : c.find? k = some o := h.find?_iff.2 hmem
  exact ⟨h.kept k o ho, h.numbered ho, (h.numbered ho).one_le⟩

theorem well_formed_doomed : ∃ o, (noteAddress.key, o) ∈ doomedNote.objects ∧
    o.metadata.deletionTimestamp = some noon ∧ o.metadata.hasFinalizers = true ∧
      ∃ g, o.metadata.generation = some g ∧ 1 ≤ g := by
  obtain ⟨-, -, hentries⟩ := well_formed reachable_doomedNote
  have hmem := Dict.at?_mem find?_doomedNote
  obtain ⟨hplaced, -, hgeneration⟩ := hentries _ _ hmem
  exact ⟨_, hmem, rfl, hplaced.guarded rfl, hgeneration (by with_unfolding_all decide)⟩

end EnvironmentOperator.Cluster
