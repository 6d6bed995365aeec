import EnvironmentOperator.Proofs.Cluster.Version
import EnvironmentOperator.Proofs.Json.Zero

namespace EnvironmentOperator.Cluster

variable {c : Cluster} {now : Instant} {resource : Resource} {next o o' written : Object}

def statusAfter (o next : Object) : Option Json :=
  if next.data.isObject = true then (o.data.member? "status").or (next.data.member? "status") else none

theorem status_carried (o next : Object) : (carried o next).data.member? "status" = statusAfter o next := by
  unfold statusAfter
  split
  · rename_i hobject
    exact (carried_data o next hobject "status").trans (if_pos rfl)
  · rename_i hother
    have hother : next.data.isObject = false := Bool.eq_false_iff.2 hother
    show (keptStatus o.data next.data).member? "status" = none
    rw [keptStatus_of_other o.data hother, member?_of_other hother]

theorem status_of_same (h : SameContent (carried o next) o) : o.data.member? "status" = statusAfter o next := by
  have hsame := h.2.member?_map "status"
  rw [status_carried, statusAfter] at hsame
  unfold statusAfter
  cases hstatus : o.data.member? "status" with
  | none =>
      rw [hstatus, Option.none_or, Option.map_none, Option.map_eq_none_iff] at hsame
      exact hsame.symm
  | some status =>
      split at hsame
      · rename_i hobject
        rw [if_pos hobject]
        rfl
      · rw [hstatus] at hsame
        cases hsame

theorem status_of_written (ho : c.find? (Call.addressOf resource next).key = some o)
    (haccepted : (c.replace resource next).1 = .ok written)
    (ho' : (c.replace resource next).2.find? (Call.addressOf resource next).key = some o') :
    o'.data.member? "status" = statusAfter o next := by
  cases hstale : isStale o next with
  | true =>
      rw [replace_of_stale ho hstale] at haccepted
      cases haccepted
  | false =>
      by_cases hsame : SameContent (carried o next) o
      · rw [replace_of_same ho hstale hsame] at ho'
        cases ho.symm.trans ho'
        exact status_of_same hsame
      · rw [replace_of_find? ho hstale hsame] at ho'
        split at ho'
        · rw [find?_without_self] at ho'
          cases ho'
        · rw [find?_put_self] at ho'
          cases ho'
          exact status_carried o next

/-- After a replace that is accepted and leaves the object stored, the status is the one there was before, and where
there was none it is the one that was sent; when the data that were sent are no object there is none. So an object that
is sent lets the status be as it was, unless there was none and it has one, and other data let it be only if there was
none. -/
theorem status_after_replace (ho : c.find? (Call.addressOf resource next).key = some o)
    (haccepted : (c.answer now (.replace resource next)).1 = .ok written)
    (ho' : (c.answer now (.replace resource next)).2.find? (Call.addressOf resource next).key = some o') :
    o'.data.member? "status" = statusAfter o next ∧
      (next.data.isObject = true → (o'.data.member? "status" = o.data.member? "status" ↔
        (o.data.member? "status").isSome = true ∨ next.data.member? "status" = none)) ∧
      (next.data.isObject = false → (o'.data.member? "status" = o.data.member? "status" ↔
        o.data.member? "status" = none)) := by
  have hperformed := answer_of_ok haccepted
  rw [hperformed] at haccepted ho'
  have hstatus := status_of_written ho haccepted ho'
  rw [statusAfter] at hstatus
  refine ⟨hstatus, fun hobject => ?_, fun hother => ?_⟩
  · rw [hstatus, if_pos hobject]
    cases o.data.member? "status" <;> simp
  · rw [hstatus, if_neg (Bool.eq_false_iff.1 hother)]
    exact eq_comm

section Phased

def phased (text phase : String) : Object where
  types := none
  metadata := note.metadata
  data := .obj [("data", .obj [("text", .str text)]), ("status", .obj [("phase", .str phase)])]
  unreserved := .of_keys (by simp [Object.reserved])

def phasedNote : Cluster := (answer noon noted (.replace Kind.configMap.resource (phased "called" "Ready"))).2

def storedPhased : Object :=
  noted.revised (({} : Cluster).admitted note) (carried (({} : Cluster).admitted note) (phased "called" "Ready"))

theorem accepted_phased :
    (noted.answer noon (.replace Kind.configMap.resource (phased "called" "Ready"))).1 = .ok storedPhased := by
  with_unfolding_all rfl

theorem find?_phasedNote : phasedNote.find? noteAddress.key = some storedPhased := by with_unfolding_all rfl

def emptied : Object := { note with data := .null, unreserved := by decide }

theorem status_after_replace_phased :
    (∃ o, (phasedNote.answer noon (.replace Kind.configMap.resource (phased "done" "Failed"))).2.find?
      noteAddress.key = some o ∧ o.data.member? "status" = some (.obj [("phase", .str "Ready")])) ∧
    ∃ o, (phasedNote.answer noon (.replace Kind.configMap.resource emptied)).2.find? noteAddress.key = some o ∧
      o.data.member? "status" = none := by
  obtain ⟨hfirst, -⟩ := status_after_replace find?_noted accepted_phased find?_phasedNote
  constructor
  · obtain ⟨written, haccepted⟩ : ∃ written,
        (phasedNote.answer noon (.replace Kind.configMap.resource (phased "done" "Failed"))).1 = .ok written :=
      ⟨_, by with_unfolding_all rfl⟩
    obtain ⟨o, ho⟩ : ∃ o, (phasedNote.answer noon
        (.replace Kind.configMap.resource (phased "done" "Failed"))).2.find? noteAddress.key = some o :=
      ⟨_, by with_unfolding_all rfl⟩
    obtain ⟨-, hkept, -⟩ := status_after_replace find?_phasedNote haccepted ho
    refine ⟨o, ho, ((hkept rfl).2 (.inl ?_)).trans hfirst⟩
    rw [hfirst]
    rfl
  · obtain ⟨written, haccepted⟩ : ∃ written,
        (phasedNote.answer noon (.replace Kind.configMap.resource emptied)).1 = .ok written :=
      ⟨_, by with_unfolding_all rfl⟩
    obtain ⟨o, ho⟩ : ∃ o, (phasedNote.answer noon
        (.replace Kind.configMap.resource emptied)).2.find? noteAddress.key = some o :=
      ⟨_, by with_unfolding_all rfl⟩
    exact ⟨o, ho, (status_after_replace find?_phasedNote haccepted ho).1⟩

theorem status_replaced : ¬∀ (c : Cluster) (now : Instant) (resource : Resource) (next o o' written : Object),
    Reachable c → c.find? (Call.addressOf resource next).key = some o →
      (c.answer now (.replace resource next)).1 = .ok written →
        (c.answer now (.replace resource next)).2.find? (Call.addressOf resource next).key = some o' →
          o'.data.member? "status" = o.data.member? "status" := by
  intro h
  have hkept := h noted noon Kind.configMap.resource (phased "called" "Ready") _ _ _ reachable_noted find?_noted
    accepted_phased find?_phasedNote
  cases hkept

end Phased

end EnvironmentOperator.Cluster
