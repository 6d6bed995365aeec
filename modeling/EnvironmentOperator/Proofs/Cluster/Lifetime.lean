import EnvironmentOperator.Proofs.Cluster.Version

namespace EnvironmentOperator.Cluster

variable {now : Instant} {c c' c'' : Cluster} {k : Key} {o o' : Object} {x y : Option Object} {call : Call}

inductive Fate (now : Instant) (c : Cluster) (k : Key) : Call → Option Object → Option Object → Prop where
  | same (call : Call) (x : Option Object) : Fate now c k call x x
  | created {resource : Resource} {o : Object} : (Call.addressOf resource o).key = k →
      Fate now c k (.create resource o) none (some (c.admitted o))
  | revised {resource : Resource} {next : Object} (o : Object) : (Call.addressOf resource next).key = k →
      isStale o next = false → isReleased (c.revised o (carried o next)) = false →
      Fate now c k (.replace resource next) (some o) (some (c.revised o (carried o next)))
  | released {resource : Resource} {next : Object} (o : Object) : (Call.addressOf resource next).key = k →
      isStale o next = false → isReleased (c.revised o (carried o next)) = true →
      Fate now c k (.replace resource next) (some o) none
  | removed {a : Address} (o : Object) : a.key = k → o.metadata.hasFinalizers = false →
      Fate now c k (.delete a) (some o) none
  | marked {a : Address} (o : Object) : a.key = k → o.metadata.hasFinalizers = true →
      o.metadata.deletionTimestamp = none → Fate now c k (.delete a) (some o) (some (c.marked now o))
  | reported {a : Address} (status : Json) (o : Object) : a.key = k →
      Fate now c k (.patchStatus a status) (some o) (some (c.reportedOn o status))

theorem fate_create (now : Instant) (c : Cluster) {resource : Resource} {o : Object}
    (hk : (Call.addressOf resource o).key = k) :
    Fate now c k (.create resource o) (c.find? k) ((c.create resource o).2.find? k) := by
  subst hk
  cases hfind : c.find? (Call.addressOf resource o).key with
  | some live =>
      simp only [create, hfind]
      exact .same ..
  | none =>
      rw [create_of_missing hfind, find?_put_self]
      exact .created rfl

theorem fate_replace (now : Instant) (c : Cluster) {resource : Resource} {next : Object}
    (hk : (Call.addressOf resource next).key = k) :
    Fate now c k (.replace resource next) (c.find? k) ((c.replace resource next).2.find? k) := by
  subst hk
  rcases replace_cases c resource next with ⟨e, he⟩ | ⟨o, ho, hfresh, he | he⟩
  · rw [he]
    exact .same ..
  · rw [he]
    exact .same ..
  · rw [he, ho]
    cases hreleased : isReleased (c.revised o (carried o next)) with
    | true =>
        rw [if_pos rfl, find?_without_self]
        exact .released o rfl hfresh hreleased
    | false =>
        rw [if_neg Bool.false_ne_true, find?_put_self]
        exact .revised o rfl hfresh hreleased

theorem fate_delete (now : Instant) (c : Cluster) {a : Address} (hk : a.key = k) :
    Fate now c k (.delete a) (c.find? k) ((c.delete now a).2.find? k) := by
  subst hk
  cases hfind : c.find? a.key with
  | none =>
      simp only [delete, hfind]
      exact .same ..
  | some o =>
      cases hguarded : o.metadata.hasFinalizers with
      | false =>
          have hgone : (c.delete now a).2.find? a.key = none := by
            simp only [delete, hfind, hguarded, Bool.not_false, if_true]
            exact find?_without_self c a.key
          rw [hgone]
          exact .removed o rfl hguarded
      | true =>
          cases hmarked : o.metadata.deletionTimestamp with
          | some t =>
              have hsame : (c.delete now a).2 = c := by simp [delete, hfind, hguarded, hmarked]
              rw [hsame, hfind]
              exact .same ..
          | none =>
              have hput : (c.delete now a).2 = c.commit (Dict.put c.objects a.key (c.marked now o)) := by
                simp [delete, hfind, hguarded, hmarked]
              rw [hput, find?_put_self]
              exact .marked o rfl hguarded hmarked

theorem fate_patchStatus (now : Instant) (c : Cluster) {a : Address} (status : Json) (hk : a.key = k) :
    Fate now c k (.patchStatus a status) (c.find? k) ((c.patchStatus a status).2.find? k) := by
  subst hk
  cases hfind : c.find? a.key with
  | none =>
      simp only [patchStatus, hfind]
      exact .same ..
  | some o =>
      simp only [patchStatus, hfind]
      split
      · rw [hfind]
        exact .same ..
      · rw [find?_put_self]
        exact .reported status o rfl

theorem fate_perform (now : Instant) (c : Cluster) (call : Call) (hk : call.address.key = k) :
    Fate now c k call (c.find? k) ((c.perform now call).2.find? k) := by
  cases call with
  | get a => exact .same ..
  | create resource o => exact fate_create now c hk
  | replace resource next => exact fate_replace now c hk
  | delete a => exact fate_delete now c hk
  | patchStatus a status => exact fate_patchStatus now c status hk

theorem fate_answer (now : Instant) (c : Cluster) (call : Call) (k : Key) :
    Fate now c k call (c.find? k) ((c.answer now call).2.find? k) := by
  by_cases hk : call.address.key = k
  · rcases answer_snd_cases now c call with ha | hspent
    · rw [ha]
      exact fate_perform now c call hk
    · rw [hspent.find? k]
      exact .same ..
  · rw [find?_answer_of_ne now c call (Ne.symm hk)]
    exact .same ..

inductive Departs (k : Key) (o : Object) : Call → Prop where
  | deleted {a : Address} : a.key = k → o.metadata.hasFinalizers = false → Departs k o (.delete a)
  | released {resource : Resource} {next : Object} : (Call.addressOf resource next).key = k →
      o.metadata.deletionTimestamp.isSome = true → next.metadata.hasFinalizers = false →
      Departs k o (.replace resource next)

theorem Fate.departs (h : Fate now c k call (some o) none) : Departs k o call := by
  cases h with
  | removed _ hkey hunguarded => exact .deleted hkey hunguarded
  | @released resource next _ hkey _ hreleased =>
      obtain ⟨hmarked, hunguarded⟩ := Bool.and_eq_true_iff.1 hreleased
      have hunguarded : (!next.metadata.hasFinalizers) = true := hunguarded
      exact .released hkey hmarked (by simpa using hunguarded)

structure Continues (o o' : Object) : Prop where
  uid : o'.metadata.uid = o.metadata.uid
  deletion : ∀ t, o.metadata.deletionTimestamp = some t → o'.metadata.deletionTimestamp = some t

theorem Continues.refl (o : Object) : Continues o o := ⟨rfl, fun _ ht => ht⟩

theorem Continues.trans {o'' : Object} (h : Continues o o') (h' : Continues o' o'') : Continues o o'' :=
  ⟨h'.uid.trans h.uid, fun t ht => h'.deletion t (h.deletion t ht)⟩

theorem Fate.origin (h : Fate now c k call x (some o')) :
    (∃ o, x = some o ∧ Continues o o') ∨ x = none ∧ ∃ next, o' = c.admitted next := by
  cases h with
  | same => exact .inl ⟨o', rfl, .refl o'⟩
  | created => exact .inr ⟨rfl, _, rfl⟩
  | revised o => exact .inl ⟨o, rfl, rfl, fun _ ht => ht⟩
  | marked o _ _ hlive =>
      refine .inl ⟨o, rfl, rfl, ?_⟩
      intro t ht
      rw [hlive] at ht
      cases ht
  | reported _ o => exact .inl ⟨o, rfl, rfl, fun _ ht => ht⟩

theorem Move.origin (h : Move c c') (ho' : c'.find? k = some o') :
    (∃ o, c.find? k = some o ∧ Continues o o') ∨ c.find? k = none ∧ ∃ next, o' = c.admitted next := by
  rcases h.cases with ⟨now, call, rfl⟩ | ⟨faults, rfl⟩
  · have hfate := fate_answer now c call k
    rw [ho'] at hfate
    exact hfate.origin
  · exact .inl ⟨o', ho', .refl o'⟩

theorem Move.departure (h : Move c c') (ho : c.find? k = some o) (hgone : c'.find? k = none) :
    ∃ now call, c' = (c.answer now call).2 ∧ Departs k o call := by
  rcases h.cases with ⟨now, call, rfl⟩ | ⟨faults, rfl⟩
  · have hfate := fate_answer now c call k
    rw [ho, hgone] at hfate
    exact ⟨now, call, rfl, hfate.departs⟩
  · cases ho.symm.trans hgone

def Occupied (k : Key) : Cluster → Cluster → Prop :=
  Relation.ReflTransGen fun c c' => Move c c' ∧ (c'.find? k).isSome = true

theorem Occupied.continues (h : Occupied k c c') (ho : c.find? k = some o) :
    ∃ o', c'.find? k = some o' ∧ Continues o o' := by
  induction h with
  | refl => exact ⟨o, ho, .refl o⟩
  | tail _ hstep ih =>
      obtain ⟨o₁, ho₁, hcontinues⟩ := ih
      obtain ⟨o', ho'⟩ := Option.isSome_iff_exists.1 hstep.2
      rcases hstep.1.origin ho' with ⟨o₂, ho₂, hlater⟩ | ⟨hvacant, -⟩
      · cases ho₁.symm.trans ho₂
        exact ⟨o', ho', hcontinues.trans hlater⟩
      · cases ho₁.symm.trans hvacant

def uidText (n : Nat) : String := "uid-" ++ Text.decimal n

theorem uidText_injective {m n : Nat} (h : uidText m = uidText n) : m = n := by
  have hlist := congrArg String.toList h
  simp only [uidText, String.toList_append, List.append_cancel_left_eq] at hlist
  exact Text.decimal_injective (String.toList_inj.1 hlist)

def Identified (c : Cluster) : Prop :=
  ∀ k o, c.find? k = some o → ∃ n, n ≤ c.lastVersion ∧ o.metadata.uid = some (uidText n)

theorem Identified.move (h : c.Identified) (hk : c.Kept) (hmove : Move c c') : c'.Identified := by
  intro k o' ho'
  rcases hmove.origin ho' with ⟨o, ho, hcontinues⟩ | ⟨-, next, rfl⟩
  · obtain ⟨n, hn, huid⟩ := h k o ho
    exact ⟨n, Nat.le_trans hn hmove.later.lastVersion, hcontinues.uid.trans huid⟩
  · -- The version it was given is one that the cluster has given out by now.
    obtain ⟨n, hn, hversion⟩ := ((hmove.kept hk) k _ ho').version
    have hsame : c.lastVersion + 1 = n := Text.decimal_injective (Option.some.inj hversion)
    exact ⟨c.lastVersion + 1, hsame ▸ hn, rfl⟩

theorem Reachable.identified (h : Reachable c) : c.Identified := by
  induction h with
  | empty =>
      intro k o ho
      cases ho
  | answer now call hc ih => exact ih.move hc.kept (move_answer now _ call)
  | plant f _ ih => exact ih
  | clearFaults _ ih => exact ih

theorem Move.uid_fresh (h : Reachable c) (hbefore : Moves c c') (hmove : Move c' c'') {k' : Key}
    (ho : c.find? k = some o) (hvacant : c'.find? k' = none) (ho' : c''.find? k' = some o') :
    ∃ uid, o'.metadata.uid = some uid ∧ o.metadata.uid ≠ some uid := by
  rcases hmove.origin ho' with ⟨o₁, ho₁, -⟩ | ⟨-, next, rfl⟩
  · cases hvacant.symm.trans ho₁
  · obtain ⟨n, hn, huid⟩ := h.identified k o ho
    refine ⟨uidText (c'.lastVersion + 1), rfl, ?_⟩
    rw [huid, ne_eq, Option.some_inj]
    intro hsame
    have hpassed : n ≤ c'.lastVersion := Nat.le_trans hn hbefore.later.lastVersion
    have hnext := uidText_injective hsame
    omega

/-- An object goes only by a delete that finds no finalizers on it, or by a replace that leaves none on one that is
marked for deletion. While its key is taken it keeps its uid, and the time of its deletion once it has one. What is put
under a vacant key has a uid that no object had before. -/
theorem object_lifetime (h : Reachable c) :
    (∀ c' k o, Move c c' → c.find? k = some o → c'.find? k = none →
      ∃ now call, c' = (c.answer now call).2 ∧ Departs k o call) ∧
    (∀ c' k o, Occupied k c c' → c.find? k = some o → ∃ o', c'.find? k = some o' ∧ Continues o o') ∧
    ∀ c' c'' k o k' o', Moves c c' → Move c' c'' → c.find? k = some o → c'.find? k' = none →
      c''.find? k' = some o' → ∃ uid, o'.metadata.uid = some uid ∧ o.metadata.uid ≠ some uid :=
  ⟨fun _ _ _ hmove => hmove.departure, fun _ _ _ hoccupied => hoccupied.continues,
    fun _ _ _ _ _ _ hbefore hmove => hmove.uid_fresh h hbefore⟩

section Pinned

def pinned : Object := { note with metadata := { note.metadata with finalizers := some ["team/archive"] } }

def pinnedNote : Cluster := (answer noon {} (.create Kind.configMap.resource pinned)).2

def doomedNote : Cluster := (answer noon pinnedNote (.delete noteAddress)).2

def forgery : Object :=
  { pinned with
    metadata := { pinned.metadata with uid := some "uid-9" }
    data := .obj [("data", .obj [("text", .str "called")])]
    unreserved := by decide }

def forgedNote : Cluster := (answer noon doomedNote (.replace Kind.configMap.resource forgery)).2

def archivedNote : Cluster := (answer noon forgedNote (.replace Kind.configMap.resource note)).2

def rewrittenNote : Cluster := (answer noon archivedNote (.create Kind.configMap.resource note)).2

theorem reachable_doomedNote : Reachable doomedNote := .answer _ _ (.answer _ _ .empty)

theorem find?_doomedNote :
    doomedNote.find? noteAddress.key = some (pinnedNote.marked noon (({} : Cluster).admitted pinned)) := by
  with_unfolding_all rfl

theorem find?_archivedNote : archivedNote.find? noteAddress.key = none := by with_unfolding_all rfl

theorem object_lifetime_pinned :
    (∃ o, forgedNote.find? noteAddress.key = some o ∧ o.metadata.uid = some "uid-1" ∧
      o.metadata.deletionTimestamp = some noon) ∧
    (∃ now call o, archivedNote = (forgedNote.answer now call).2 ∧ Departs noteAddress.key o call) ∧
    ∀ o, rewrittenNote.find? noteAddress.key = some o → o.metadata.uid ≠ some "uid-1" := by
  obtain ⟨-, hstays, hfresh⟩ := object_lifetime reachable_doomedNote
  have hforged : Occupied noteAddress.key doomedNote forgedNote :=
    .single ⟨move_answer .., by with_unfolding_all rfl⟩
  obtain ⟨o, ho, hcontinues⟩ := hstays forgedNote noteAddress.key _ hforged find?_doomedNote
  refine ⟨⟨o, ho, hcontinues.uid, hcontinues.deletion noon rfl⟩, ?_, ?_⟩
  · obtain ⟨hdeparture, -⟩ := object_lifetime (c := forgedNote) (.answer _ _ reachable_doomedNote)
    obtain ⟨now, call, hcall, hdeparts⟩ :=
      hdeparture archivedNote noteAddress.key o (move_answer ..) ho find?_archivedNote
    exact ⟨now, call, o, hcall, hdeparts⟩
  · intro o' ho' huid
    obtain ⟨uid, hnew, hne⟩ := hfresh archivedNote rewrittenNote noteAddress.key _ noteAddress.key o'
      (.tail (.single (move_answer ..)) (move_answer ..)) (move_answer ..) find?_doomedNote
      find?_archivedNote ho'
    exact hne (huid.symm.trans hnew)

end Pinned

end EnvironmentOperator.Cluster
