import EnvironmentOperator.Proofs.Json.MergePatch
import EnvironmentOperator.Proofs.Json.Ordered

namespace EnvironmentOperator.Json

variable {t p j v : Json} {fields patch : Fields} {path : List String} {k : String}

theorem ordered_fieldsOrEmpty (h : t.Ordered) : (Json.obj t.fieldsOrEmpty).Ordered := by
  cases t with
  | obj fields => exact h
  | _ => exact ⟨.nil, trivial⟩

theorem ordered_getD {m : Option Json} (h : ∀ j, m = some j → j.Ordered) : (m.getD .null).Ordered := by
  cases m with
  | none => trivial
  | some j => exact h j rfl

mutual

theorem ordered_mergePatch : ∀ {p : Json}, p.Ordered → ∀ {t : Json}, t.Ordered → (mergePatch t p).Ordered
  | .obj patch, hp, t, ht => by
      rw [mergePatch]
      exact ordered_mergeFields hp.2 (ordered_fieldsOrEmpty ht)
  | .null, hp, _, _ | .bool _, hp, _, _ | .int _, hp, _, _ | .real _, hp, _, _ | .str _, hp, _, _
  | .arr _, hp, _, _ => by
      rw [mergePatch_of_not_object rfl]
      exact hp

theorem ordered_mergeFields : ∀ {patch : Fields}, OrderedFields patch → ∀ {target : Fields},
    (Json.obj target).Ordered → (Json.obj (mergeFields target patch)).Ordered
  | [], _, target, htarget => by
      rw [mergeFields]
      exact htarget
  | (k, j) :: rest, hp, target, htarget => by
      by_cases hnull : j = .null
      · rw [hnull, mergeFields_cons_null]
        exact ordered_mergeFields hp.2 (ordered_without htarget k)
      · rw [mergeFields_cons target k hnull]
        have hmember := ordered_getD ((ordered_obj_iff.1 htarget).2 k)
        exact ordered_mergeFields hp.2 (ordered_put htarget k (ordered_mergePatch hp.1 hmember))

end

mutual

theorem mergePatch_mergePatch : ∀ {p : Json}, p.Ordered → ∀ {t : Json}, t.Ordered →
    mergePatch (mergePatch t p) p = mergePatch t p
  | .obj patch, hp, t, ht => by
      have htarget := ordered_fieldsOrEmpty ht
      have honce := ordered_mergeFields hp.2 htarget
      have htwice := ordered_mergeFields hp.2 honce
      have hnodup := Dict.nodup_keys hp.1
      rw [mergePatch, mergePatch]
      -- both objects are in order, so it is enough to compare them name by name
      refine congrArg Json.obj (Dict.eq_of_at?_eq htwice.1 honce.1 fun k => ?_)
      rw [at?_mergeFields hnodup, fieldsOrEmpty, at?_mergeFields hnodup]
      exact memberAfter_memberAfter hp.2 k ((ordered_obj_iff.1 htarget).2 k)
  | .null, _, _, _ | .bool _, _, _, _ | .int _, _, _, _ | .real _, _, _, _ | .str _, _, _, _
  | .arr _, _, _, _ => by rw [mergePatch_of_not_object rfl, mergePatch_of_not_object rfl]

theorem memberAfter_memberAfter : ∀ {patch : Fields}, OrderedFields patch → ∀ (k : String) {m : Option Json},
    (∀ j, m = some j → j.Ordered) →
      memberAfter (memberAfter m (Dict.at? patch k)) (Dict.at? patch k) = memberAfter m (Dict.at? patch k)
  | [], _, k, m, _ => rfl
  | (l, j) :: rest, hp, k, m, hm => by
      rw [Dict.at?_cons]
      by_cases hk : k = l
      · rw [if_pos hk]
        by_cases hnull : j = .null
        · rw [hnull]
          rfl
        · have hagain := mergePatch_mergePatch hp.1 (ordered_getD hm)
          rw [memberAfter, memberAfter, if_neg hnull, if_neg hnull, Option.getD_some, hagain]
      · rw [if_neg hk]
        exact memberAfter_memberAfter hp.2 k hm

end

theorem ordered_of_reached (h : p.Ordered) (hv : p.reached path = some v) : v.Ordered := by
  induction path generalizing p with
  | nil =>
      cases hv
      exact h
  | cons k path ih =>
      rw [reached_cons] at hv
      obtain ⟨j, hk, hrest⟩ := Option.bind_eq_some_iff.1 hv
      exact ih (ordered_of_member? h hk) hrest

theorem ne_null_of_reached (hv : j.reached path = some v) (hne : v ≠ .null) : j ≠ .null := by
  rintro rfl
  cases path with
  | nil => exact hne (Option.some.inj hv).symm
  | cons k path => cases hv

theorem getD_reached (m : Option Json) (path : List String) :
    ((m.getD .null).reached path).getD .null = (m.bind fun i => i.reached path).getD .null := by
  cases m with
  | some j => rfl
  | none => cases path <;> rfl

theorem member?_mergePatch (hp : p.Ordered) (t : Json) (hk : p.member? k = some j) (hne : j ≠ .null) :
    (mergePatch t p).member? k = some (mergePatch ((t.member? k).getD .null) j) := by
  cases p with
  | obj patch =>
      rw [member?] at hk
      rw [mergePatch, member?, at?_mergeFields (Dict.nodup_keys hp.1), hk, at?_fieldsOrEmpty, memberAfter, if_neg hne]
  | _ => cases hk

theorem reached_mergePatch (hp : p.Ordered) (t : Json) (hv : p.reached path = some v) (hne : v ≠ .null) :
    (mergePatch t p).reached path = some (mergePatch ((t.reached path).getD .null) v) := by
  -- one level down the member of the patch is the patch, and what was there may be missing
  induction path generalizing p t with
  | nil =>
      cases hv
      rfl
  | cons k path ih =>
      rw [reached_cons] at hv
      obtain ⟨j, hk, hrest⟩ := Option.bind_eq_some_iff.1 hv
      have hmember := member?_mergePatch hp t hk (ne_null_of_reached hrest hne)
      rw [reached_cons, hmember, Option.bind_some, ih (ordered_of_member? hp hk) _ hrest, getD_reached, reached_cons]

theorem member?_getD_of_not_object {m : Option Json} (h : ∀ fields, m ≠ some (.obj fields)) (k : String) :
    (m.getD .null).member? k = none := by
  cases m with
  | none => rfl
  | some j =>
      cases j with
      | obj fields => exact absurd rfl (h fields)
      | _ => rfl

/-- A patch done again changes nothing. At every place that is reached through objects of the patch, a value of the
patch that is neither an object nor null stands as it is; and where the patch has an object there is an object, without
the members that are null in the patch, and with the members it does not mention just as they were in the object that
was there, if there was one. -/
theorem mergePatch_laws (ht : t.Ordered) (hp : p.Ordered) :
    mergePatch (mergePatch t p) p = mergePatch t p ∧
      (∀ path v, p.reached path = some v → v ≠ .null → v.isObject = false →
        (mergePatch t p).reached path = some v) ∧
        ∀ path patch, p.reached path = some (.obj patch) →
          ∃ result, (mergePatch t p).reached path = some (.obj result) ∧
            (∀ k, Dict.at? patch k = some .null → Dict.at? result k = none) ∧
              ∀ k, Dict.at? patch k = none →
                (∀ fields, t.reached path = some (.obj fields) → Dict.at? result k = Dict.at? fields k) ∧
                  ((∀ fields, t.reached path ≠ some (.obj fields)) → Dict.at? result k = none) := by
  refine ⟨mergePatch_mergePatch hp ht, ?_, ?_⟩
  · intro path v hv hne hobject
    rw [reached_mergePatch hp t hv hne, mergePatch_of_not_object hobject]
  · intro path patch hpatch
    have hordered : (Json.obj patch).Ordered := ordered_of_reached hp hpatch
    have hresult := reached_mergePatch hp t hpatch nofun
    rw [mergePatch] at hresult
    have hmember := at?_mergeFields (Dict.nodup_keys hordered.1) ((t.reached path).getD .null).fieldsOrEmpty
    refine ⟨_, hresult, fun k hk => ?_, fun k hk => ⟨fun fields hfields => ?_, fun hnone => ?_⟩⟩
    · rw [hmember, hk]
      rfl
    · rw [hmember, hk, hfields]
      rfl
    · rw [hmember, hk, at?_fieldsOrEmpty]
      exact member?_getD_of_not_object hnone k

section Labelled

def labelled : Json :=
  .obj [("labels", .obj [("app", .str "ide"), ("owner", .str "bob"), ("tier", .str "dev")]), ("phase", .str "Ready")]

def relabelling : Json := .obj [("labels", .obj [("app", .null), ("tier", .obj [("old", .null), ("rank", .int 1)])])]

theorem ordered_labelled : labelled.Ordered := by
  refine ⟨List.pairwise_pair.2 (by decide), ⟨?_, trivial, trivial, trivial, trivial⟩, trivial, trivial⟩
  show (["app", "owner", "tier"] : List String).Pairwise _
  decide

theorem ordered_relabelling : relabelling.Ordered :=
  ⟨List.pairwise_singleton .., ⟨List.pairwise_pair.2 (by decide), trivial,
    ⟨List.pairwise_pair.2 (by decide), trivial, trivial, trivial⟩, trivial⟩, trivial⟩

theorem mergePatch_laws_labelled :
    mergePatch (mergePatch labelled relabelling) relabelling = mergePatch labelled relabelling ∧
      (mergePatch labelled relabelling).reached ["labels", "tier", "rank"] = some (.int 1) ∧
        ∃ labels tier, (mergePatch labelled relabelling).reached ["labels"] = some (.obj labels) ∧
          (mergePatch labelled relabelling).reached ["labels", "tier"] = some (.obj tier) ∧
            Dict.at? labels "app" = none ∧ Dict.at? labels "owner" = some (.str "bob") ∧ Dict.at? tier "name" = none := by
  obtain ⟨hagain, hvalues, hobjects⟩ := mergePatch_laws ordered_labelled ordered_relabelling
  obtain ⟨labels, hlabels, hnull, hkept⟩ := hobjects ["labels"] _ rfl
  obtain ⟨tier, htier, -, hreset⟩ := hobjects ["labels", "tier"] _ rfl
  exact ⟨hagain, hvalues ["labels", "tier", "rank"] _ rfl nofun rfl, labels, tier, hlabels, htier, hnull "app" rfl,
    (hkept "owner" rfl).1 _ rfl, (hreset "name" rfl).2 nofun⟩

end Labelled

end EnvironmentOperator.Json
