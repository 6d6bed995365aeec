import EnvironmentOperator.Proofs.Cluster.WellFormed
import EnvironmentOperator.Proofs.Json.Zero

namespace EnvironmentOperator.Cluster

variable {now : Instant} {c c' : Cluster} {k : Key} {o o' : Object} {call : Call} {n : Nat}

/-- The call makes the next generation of the object: it changes what stands outside the status, or it is the first to
ask for the deletion of an object that is guarded. -/
inductive Grows (k : Key) (o o' : Object) : Call → Prop where
  | changed {resource : Resource} {next : Object} : (Call.addressOf resource next).key = k →
      ¬Json.Same (specContent o') (specContent o) → Grows k o o' (.replace resource next)
  | marked {a : Address} : a.key = k → o.metadata.hasFinalizers = true → o.metadata.deletionTimestamp = none →
      o'.metadata.deletionTimestamp.isSome = true → Grows k o o' (.delete a)

theorem not_grows_self : ¬Grows k o o call := by
  intro h
  cases h with
  | changed _ hchanged => exact hchanged (Json.Same.refl _)
  | marked _ _ hlive hmarked =>
      rw [hlive] at hmarked
      cases hmarked

theorem Fate.grows (h : Fate now c k call (some o) (some o')) :
    Grows k o o' call ∧ o'.metadata.generation = grown o.metadata.generation ∨
      ¬Grows k o o' call ∧ o'.metadata.generation = o.metadata.generation := by
  cases h with
  | same => exact .inr ⟨not_grows_self, rfl⟩
  | @revised resource next _ hkey =>
      rcases revised_generation c o (carried o next) with ⟨hsame, hkept⟩ | ⟨hchanged, hgrown⟩
      · refine .inr ⟨?_, hkept⟩
        rintro (⟨-, hchanged⟩ | _)
        exact hchanged hsame
      · exact .inl ⟨.changed hkey hchanged, hgrown⟩
  | marked _ hkey hguarded hlive => exact .inl ⟨.marked hkey hguarded hlive rfl, rfl⟩
  | reported => exact .inr ⟨nofun, rfl⟩

theorem isObject_specContent (o : Object) : (specContent o).isObject = o.data.isObject := by
  unfold specContent
  cases o.data <;> rfl

theorem isObject_of_same (h : Json.Same (specContent o') (specContent o)) : o'.data.isObject = o.data.isObject := by
  rw [← isObject_specContent, ← isObject_specContent, ← Json.isObject_unsignedZeros, h, Json.isObject_unsignedZeros]

/-- From the `n`-th generation of an object to the `n'`-th: where no other has come, nothing outside the status has
changed. Only data that are no object can give way to one that has nothing but a status. -/
structure Succeeds (n n' : Nat) (o o' : Object) : Prop where
  le : n ≤ n'
  generation : o'.metadata.generation = some (Int64.ofNat n')
  same : n' = n → o.data.isObject = true → Json.Same (specContent o') (specContent o)

theorem Succeeds.refl (h : o.metadata.generation = some (Int64.ofNat n)) : Succeeds n n o o :=
  ⟨Nat.le_refl n, h, fun _ _ => .refl _⟩

theorem Succeeds.rewritten {n₁ : Nat} {o₁ : Object} (h : Succeeds n n₁ o o₁) (hwritten : Rewritten c o₁ o') :
    ∃ n', n' ≤ n₁ + 1 ∧ Succeeds n n' o o' := by
  rcases hwritten.generation with ⟨hkept, hsame⟩ | hgrown
  · refine ⟨n₁, Nat.le_succ n₁, h.le, hkept.trans h.generation, ?_⟩
    intro he hobject
    have hbefore := h.same he hobject
    exact (hsame ((isObject_of_same hbefore).trans hobject)).trans hbefore
  · refine ⟨n₁ + 1, Nat.le_refl _, Nat.le_succ_of_le h.le, ?_, ?_⟩
    · rw [hgrown, h.generation, grown_ofNat]
    · intro he
      have hle := h.le
      omega

theorem Moves.succeeds (h : Reachable c) (hmoves : Moves c c') (ho : c.find? k = some o)
    (hgeneration : o.metadata.generation = some (Int64.ofNat n)) (hn : n ≤ c.lastVersion)
    (ho' : c'.find? k = some o') (huid : o'.metadata.uid = o.metadata.uid) :
    ∃ n', n' ≤ c'.lastVersion ∧ Succeeds n n' o o' := by
  induction hmoves generalizing o' with
  | refl =>
      cases ho.symm.trans ho'
      exact ⟨n, hn, .refl hgeneration⟩
  | @tail c₁ c' hbefore hmove ih =>
      have hreached : c.lastVersion ≤ c₁.lastVersion := (Moves.later hbefore).lastVersion
      rcases hmove.rewritten (Moves.kept hbefore h.kept) ho' with
        hstays | ⟨hpassed, ⟨o₁, ho₁, hwritten⟩ | ⟨next, rfl⟩⟩
      · obtain ⟨n', hn', hsucceeds⟩ := ih hstays huid
        exact ⟨n', Nat.le_trans hn' hmove.later.lastVersion, hsucceeds⟩
      · obtain ⟨n₁, hn₁, hsucceeds⟩ := ih ho₁ (hwritten.uid.symm.trans huid)
        obtain ⟨n', hn', hsucceeds'⟩ := hsucceeds.rewritten hwritten
        exact ⟨n', by omega, hsucceeds'⟩
      · -- What is created has a uid that the former object cannot have had.
        obtain ⟨m, -, hm, hformer⟩ := (h.numbered ho).uid
        rw [hformer] at huid
        have hnumber : c₁.lastVersion + 1 = m := uidText_injective (Option.some.inj huid)
        omega

theorem Succeeds.generations {n' : Nat} (h : Succeeds n n' o o')
    (hgeneration : o.metadata.generation = some (Int64.ofNat n)) (hrange : n' < 2 ^ 63) :
    ∃ g g', o.metadata.generation = some g ∧ o'.metadata.generation = some g' ∧ g ≤ g' ∧
      (g' = g → o.data.isObject = true → Json.Same (specContent o') (specContent o)) := by
  have hn : (Int64.ofNat n).toInt = n := Int64.toInt_ofNat_of_lt (Nat.lt_of_le_of_lt h.le hrange)
  have hn' : (Int64.ofNat n').toInt = n' := Int64.toInt_ofNat_of_lt hrange
  refine ⟨_, _, hgeneration, h.generation, ?_, ?_⟩
  · rw [Int64.le_iff_toInt_le, hn, hn']
    exact Int.ofNat_le.2 h.le
  · intro he
    have hnumber : (n' : Int) = n := by rw [← hn', he, hn]
    exact h.same (Int.ofNat_inj.1 hnumber)

/-- A call makes the next generation of an object that stays stored exactly where it changes what stands outside the
status or marks a guarded object first. From one moment of a run to a later one the object known by one uid passes from
its `n`-th generation to its `n'`-th. Generations are kept in 64 bits with a sign: before there have been 2 ^ 63
versions the kept one does not go down, and where it is the same so is what stands outside the status, if the data are
an object. -/
theorem generation_identifies_spec (h : Reachable c) :
    (∀ now call k o o', c.find? k = some o → (c.answer now call).2.find? k = some o' →
      (Grows k o o' call → o'.metadata.generation = grown o.metadata.generation) ∧
        (¬Grows k o o' call → o'.metadata.generation = o.metadata.generation)) ∧
    ∀ c' k o o', Moves c c' → c.find? k = some o → c'.find? k = some o' → o'.metadata.uid = o.metadata.uid →
      (∃ n n', o.metadata.generation = some (Int64.ofNat n) ∧ Succeeds n n' o o') ∧
        (c'.lastVersion < 2 ^ 63 →
          ∃ g g', o.metadata.generation = some g ∧ o'.metadata.generation = some g' ∧ g ≤ g' ∧
            (g' = g → o.data.isObject = true → Json.Same (specContent o') (specContent o))) := by
  constructor
  · intro now call k o o' ho ho'
    have hfate := fate_answer now c call k
    rw [ho, ho'] at hfate
    rcases hfate.grows with ⟨hgrows, hgrown⟩ | ⟨hstays, hkept⟩
    · exact ⟨fun _ => hgrown, fun hstays => absurd hgrows hstays⟩
    · exact ⟨fun hgrows => absurd hgrows hstays, fun _ => hkept⟩
  · intro c' k o o' hmoves ho ho' huid
    obtain ⟨n, -, hn, hgeneration⟩ := (h.numbered ho).generation
    obtain ⟨n', hn', hsucceeds⟩ := Moves.succeeds h hmoves ho hgeneration hn ho' huid
    exact ⟨⟨n, n', hgeneration, hsucceeds⟩,
      fun hrange => hsucceeds.generations hgeneration (Nat.lt_of_le_of_lt hn' hrange)⟩

section Forged

def doomedObject : Object := pinnedNote.marked noon (({} : Cluster).admitted pinned)

def forgedObject : Object := doomedNote.revised doomedObject (carried doomedObject forgery)

theorem find?_forgedNote : forgedNote.find? noteAddress.key = some forgedObject := by with_unfolding_all rfl

theorem changed_forgedObject : ¬Json.Same (specContent forgedObject) (specContent doomedObject) := by
  with_unfolding_all decide

theorem generation_identifies_spec_forged :
    forgedObject.metadata.generation = grown doomedObject.metadata.generation ∧
      ∃ g g', doomedObject.metadata.generation = some g ∧ forgedObject.metadata.generation = some g' ∧ g ≤ g' ∧
        g' ≠ g := by
  obtain ⟨hstep, hrun⟩ := generation_identifies_spec reachable_doomedNote
  obtain ⟨hgrown, -⟩ := hstep noon (.replace Kind.configMap.resource forgery) noteAddress.key _ _ find?_doomedNote
    find?_forgedNote
  obtain ⟨-, hkept⟩ := hrun forgedNote noteAddress.key _ _ (.single (move_answer ..)) find?_doomedNote
    find?_forgedNote rfl
  obtain ⟨g, g', hg, hg', hle, hsame⟩ := hkept (by with_unfolding_all decide)
  exact ⟨hgrown (.changed rfl changed_forgedObject), g, g', hg, hg', hle, fun he => changed_forgedObject (hsame he rfl)⟩

end Forged

end EnvironmentOperator.Cluster
