import EnvironmentOperator.Api
import EnvironmentOperator.Proofs.Cluster.Version
import EnvironmentOperator.Proofs.Json.Patched
import EnvironmentOperator.Proofs.Json.Zero

namespace EnvironmentOperator.Cluster

open Json (Merged Untouched)

variable {c : Cluster} {now : Instant} {a : Address} {o : Object} {data after status : Json} {path : List String}

theorem mergePatch_statusPatch (data : Json) (h : status ≠ .null) :
    Json.mergePatch data (Api.statusPatch status) = withStatus data status := by
  rw [Api.statusPatch, Json.mergePatch, Json.mergeFields_cons _ _ h, Json.mergeFields, Json.at?_fieldsOrEmpty]
  rfl

theorem mergePatch_statusPatch_null (data : Json) :
    Json.mergePatch data (Api.statusPatch .null) = (Json.obj data.fieldsOrEmpty).withoutMember "status" := by
  rw [Api.statusPatch, Json.mergePatch, Json.mergeFields_cons_null, Json.mergeFields]
  rfl

theorem ordered_statusPatch (h : status.Ordered) : (Api.statusPatch status).Ordered :=
  ⟨List.pairwise_singleton .., h, trivial⟩

theorem member?_withStatus_null (data : Json) (key : String) :
    (withStatus data .null).member? key = if key = "status" then some .null else data.member? key := by
  rw [member?_withStatus, Json.mergePatch_null]

inductive Patched (data status : Json) : Json → Prop where
  | unchanged : Json.Same (withStatus data status) data → Patched data status data
  | changed : Patched data status (withStatus data status)

theorem Patched.same (h : Patched data status after) : Json.Same after (withStatus data status) := by
  cases h with
  | unchanged hsame => exact hsame.symm
  | changed => exact .refl _

theorem patched_patchStatus (ho : c.find? a.key = some o) (status : Json) :
    (c.patchStatus a status).1 = .ok () ∧
      ∃ o', (c.patchStatus a status).2.find? a.key = some o' ∧ Patched o.data status o'.data := by
  simp only [patchStatus, ho]
  split
  · rename_i hsame
    exact ⟨rfl, o, ho, .unchanged hsame⟩
  · exact ⟨rfl, _, (find?_commit_put ..).trans (if_pos rfl), .changed⟩

theorem withStatus_withStatus (hdata : data.Ordered) (hstatus : status.Ordered) :
    withStatus (withStatus data status) status = withStatus data status := by
  have hold : ((data.member? "status").getD .null).Ordered :=
    Json.ordered_getD fun _ h => Json.ordered_of_member? hdata h
  rw [withStatus, member?_withStatus, if_pos rfl, Option.getD_some, Json.mergePatch_mergePatch hstatus hold]
  exact congrArg Json.obj (Dict.put_put ..)

theorem Patched.settled (h : Patched data status after) (hdata : data.Ordered) (hstatus : status.Ordered) :
    Json.Same (withStatus after status) after := by
  cases h with
  | unchanged hsame => exact hsame
  | changed =>
      rw [withStatus_withStatus hdata hstatus]
      exact .refl _

theorem patchStatus_again (ho : c.find? a.key = some o) (hdata : o.data.Ordered) (hstatus : status.Ordered) :
    (c.patchStatus a status).2.patchStatus a status = (.ok (), (c.patchStatus a status).2) := by
  obtain ⟨-, o', ho', hpatched⟩ := patched_patchStatus ho status
  generalize (c.patchStatus a status).2 = c' at ho'
  simp only [patchStatus, ho', if_pos (hpatched.settled hdata hstatus)]

theorem Patched.member?_status (h : Patched data .null after) : after.member? "status" = some .null := by
  have hnull : (withStatus data .null).member? "status" = some .null :=
    (member?_withStatus_null data "status").trans (if_pos rfl)
  refine (h.same.member?_eq ?_).trans hnull
  intro j hj
  cases hnull.symm.trans hj
  trivial

theorem ne_status_of_untouched {key : String} (h : Untouched (Api.statusPatch .null) (key :: path)) :
    key ≠ "status" := by
  rintro rfl
  cases h with
  | missing hkey => cases hkey
  | within hkey hrest =>
      cases hkey
      exact hrest.ne_null rfl

theorem reached_withStatus (data : Json) (hstatus : status.Ordered) (h : Untouched (Api.statusPatch status) path) :
    (withStatus data status).reached path = data.reached path := by
  by_cases hnull : status = .null
  · subst hnull
    cases path with
    | nil => cases h
    | cons key path =>
        rw [Json.reached_cons, Json.reached_cons, member?_withStatus_null, if_neg (ne_status_of_untouched h)]
  · have hmerged := Json.merged_mergePatch (ordered_statusPatch hstatus) data
    rw [mergePatch_statusPatch data hnull] at hmerged
    exact hmerged.reached_eq h

theorem Patched.reached_eq (h : Patched data status after) (hstatus : status.Ordered)
    (hpath : Untouched (Api.statusPatch status) path) : after.reached path = data.reached path := by
  cases h with
  | unchanged => rfl
  | changed => exact reached_withStatus data hstatus hpath

/-- A patch of the status is accepted wherever the object is found. The data it leaves is what the merge patch that is
sent for it makes of the stored data, unless the status is null: then a status of null is left, where the merge removes
it. In either case every place that the patch says nothing of is as it was. -/
theorem patched_as_sent (ho : c.find? a.key = some o) (hcalm : c.Calm (.patchStatus a status))
    (hstatus : status.Ordered) :
    (∀ req, Api.request (.patchStatus a status) = .ok req → req.body = some (Api.statusPatch status)) ∧
      ∃ merged o', Json.mergePatch o.data (Api.statusPatch status) = merged ∧
        Merged o.data (Api.statusPatch status) merged ∧
          (c.answer now (.patchStatus a status)).1 = .ok () ∧
            (c.answer now (.patchStatus a status)).2.find? a.key = some o' ∧
              (Json.Same o'.data merged ↔ status ≠ .null) ∧
                (status = .null → o'.data.member? "status" = some .null ∧
                  merged = (Json.obj o.data.fieldsOrEmpty).withoutMember "status") ∧
                  ∀ path, Untouched (Api.statusPatch status) path → o'.data.reached path = o.data.reached path := by
  refine ⟨fun _ => Api.patchStatus_body, ?_⟩
  have hmerged := Json.merged_mergePatch (ordered_statusPatch hstatus) o.data
  obtain ⟨hok, o', ho', hpatched⟩ := patched_patchStatus ho status
  rw [answer_of_calm now hcalm, perform]
  have hreached : ∀ path, Untouched (Api.statusPatch status) path → o'.data.reached path = o.data.reached path :=
    fun _ => hpatched.reached_eq hstatus
  by_cases hnull : status = .null
  · subst hnull
    rw [mergePatch_statusPatch_null] at hmerged ⊢
    have hdiffers : ¬Json.Same o'.data ((Json.obj o.data.fieldsOrEmpty).withoutMember "status") := by
      intro hsame
      have hat := hsame.member?_map "status"
      have hgone : ((Json.obj o.data.fieldsOrEmpty).withoutMember "status").member? "status" = none :=
        (Dict.at?_without ..).trans (if_pos rfl)
      rw [hpatched.member?_status, hgone] at hat
      cases hat
    exact ⟨_, o', rfl, hmerged, hok, ho', iff_of_false hdiffers (fun h => h rfl),
      fun _ => ⟨hpatched.member?_status, rfl⟩, hreached⟩
  · rw [mergePatch_statusPatch o.data hnull] at hmerged ⊢
    exact ⟨_, o', rfl, hmerged, hok, ho', iff_of_true hpatched.same hnull, fun h => absurd h hnull, hreached⟩

section Called

def calledNote : Object := { note with
  data := .obj [("data", .obj [("text", .str "call back")]), ("status", .obj [("phase", .str "Called")])]
  unreserved := by decide }

def called : Cluster := (answer noon {} (.create Kind.configMap.resource calledNote)).2

theorem find?_called : called.find? noteAddress.key = some (({} : Cluster).admitted calledNote) := find?_put_self ..

def answered : Json := .obj [("by", .obj [("name", .str "bob"), ("shift", .null)]), ("phase", .null)]

theorem ordered_answered : answered.Ordered := by
  refine ⟨?_, ⟨?_, trivial, trivial, trivial⟩, trivial, trivial⟩ <;> exact List.pairwise_pair.2 (by decide)

theorem mergePatch_answered : Json.mergePatch calledNote.data (Api.statusPatch answered) =
    .obj [("data", .obj [("text", .str "call back")]), ("status", .obj [("by", .obj [("name", .str "bob")])])] := by
  with_unfolding_all rfl

theorem patched_as_sent_answered :
    (∃ req, Api.request (.patchStatus noteAddress answered) = .ok req ∧ req.body = some (Api.statusPatch answered)) ∧
      ∃ o, (called.answer noon (.patchStatus noteAddress answered)).2.find? noteAddress.key = some o ∧
        o.data.member? "status" = some (.obj [("by", .obj [("name", .str "bob")])]) ∧
          o.data.reached ["data", "text"] = some (.str "call back") := by
  obtain ⟨hbody, merged, o, hmerge, -, -, ho, hsame, -, hkept⟩ :=
    patched_as_sent find?_called (calm_of_nil rfl _) ordered_answered
  have hrequest : ∃ req, Api.request (.patchStatus noteAddress answered) = .ok req :=
    ⟨_, by with_unfolding_all rfl⟩
  cases mergePatch_answered.symm.trans hmerge
  refine ⟨hrequest.imp fun req h => ⟨h, hbody req h⟩, o, ho, (hsame.2 (by simp [answered])).member?_eq ?_,
    hkept ["data", "text"] (.missing rfl)⟩
  intro j hj
  cases hj
  simp [Json.RealFree, Json.RealFreeFields]

/-- A status of null is kept in memory, and removed by the patch that is sent. -/
theorem patched_with_null : ¬∀ (c : Cluster) (now : Instant) (a : Address) (o o' : Object) (status : Json)
    (merged : Json), Reachable c → c.find? a.key = some o → status.Ordered →
      (c.answer now (.patchStatus a status)).1 = .ok () →
        (c.answer now (.patchStatus a status)).2.find? a.key = some o' →
          Json.mergePatch o.data (Api.statusPatch status) = merged → Json.Same o'.data merged := by
  intro h
  have hsame := h called noon noteAddress _ _ .null _ (.answer _ _ .empty) find?_called trivial
    (by with_unfolding_all rfl) (by with_unfolding_all rfl) (by with_unfolding_all rfl)
  cases hsame

end Called

end EnvironmentOperator.Cluster
