import EnvironmentOperator.Json.MergePatch
import EnvironmentOperator.Proofs.Dict

namespace EnvironmentOperator.Json

variable {patch : Fields} {t p r j : Json} {path : List String}

mutual

inductive Merged : Json → Json → Json → Prop where
  | replaced {t p : Json} : p.isObject = false → Merged t p p
  | merged {t : Json} {patch result : Fields} :
      (∀ k, MergedMember (Dict.at? t.fieldsOrEmpty k) (Dict.at? patch k) (Dict.at? result k)) →
        Merged t (.obj patch) (.obj result)

inductive MergedMember : Option Json → Option Json → Option Json → Prop where
  | kept {t : Option Json} : MergedMember t none t
  | removed {t : Option Json} : MergedMember t (some .null) none
  | patched {t : Option Json} {p r : Json} : p ≠ .null → Merged (t.getD .null) p r → MergedMember t (some p) (some r)

end

theorem MergedMember.eq_of_none {before after : Option Json} (h : MergedMember before none after) : after = before := by
  cases h
  rfl

theorem MergedMember.of_some {before after : Option Json} (h : MergedMember before (some p) after) (hp : p ≠ .null) :
    ∃ r, after = some r ∧ Merged (before.getD .null) p r := by
  cases h with
  | removed => exact absurd rfl hp
  | patched _ hmerged => exact ⟨_, rfl, hmerged⟩

theorem mergeFields_cons_null (target : Fields) (k : String) (rest : Fields) :
    mergeFields target ((k, .null) :: rest) = mergeFields (Dict.without target k) rest := by
  rw [mergeFields]

theorem mergeFields_cons (target : Fields) (k : String) (h : j ≠ .null) (rest : Fields) :
    mergeFields target ((k, j) :: rest) =
      mergeFields (Dict.put target k (mergePatch ((Dict.at? target k).getD .null) j)) rest := by
  rw [mergeFields]
  exact h

def memberAfter (t : Option Json) : Option Json → Option Json
  | none => t
  | some j => if j = .null then none else some (mergePatch (t.getD .null) j)

theorem at?_mergeFields (h : (Dict.keys patch).Nodup) (target : Fields) (k : String) :
    Dict.at? (mergeFields target patch) k = memberAfter (Dict.at? target k) (Dict.at? patch k) := by
  induction patch generalizing target with
  | nil => rw [mergeFields]; rfl
  | cons e rest ih =>
      obtain ⟨l, j⟩ := e
      obtain ⟨hl, hrest⟩ := List.nodup_cons.1 h
      have hagain := Dict.at?_eq_none_of_not_mem hl
      by_cases hnull : j = .null
      · rw [hnull, mergeFields_cons_null, ih hrest, Dict.at?_without, Dict.at?_cons]
        by_cases hk : k = l
        · rw [if_pos hk, if_pos hk, hk, hagain]
          rfl
        · rw [if_neg hk, if_neg hk]
      · rw [mergeFields_cons target l hnull, ih hrest, Dict.at?_put, Dict.at?_cons]
        by_cases hk : k = l
        · rw [if_pos hk, if_pos hk, hk, hagain, memberAfter, memberAfter, if_neg hnull]
        · rw [if_neg hk, if_neg hk]

theorem mergePatch_of_not_object (h : p.isObject = false) (t : Json) : mergePatch t p = p := by
  cases p with
  | obj patch => cases h
  | _ => simp [mergePatch]

theorem merged_of_not_object (h : p.isObject = false) (t : Json) : Merged t p (mergePatch t p) := by
  rw [mergePatch_of_not_object h]
  exact .replaced h

mutual

theorem merged_mergePatch : ∀ {p : Json}, p.Ordered → ∀ t, Merged t p (mergePatch t p)
  | .obj patch, h, t => by
      rw [mergePatch]
      refine .merged fun k => ?_
      rw [at?_mergeFields (Dict.nodup_keys h.1)]
      exact mergedMember_memberAfter h.2 k _
  | .null, _, t | .bool _, _, t | .int _, _, t | .real _, _, t | .str _, _, t | .arr _, _, t =>
      merged_of_not_object rfl t

theorem mergedMember_memberAfter : ∀ {patch : Fields}, OrderedFields patch → ∀ k t,
    MergedMember t (Dict.at? patch k) (memberAfter t (Dict.at? patch k))
  | [], _, k, t => .kept
  | (l, j) :: rest, h, k, t => by
      rw [Dict.at?_cons]
      by_cases hk : k = l
      · rw [if_pos hk, memberAfter]
        by_cases hnull : j = .null
        · rw [if_pos hnull, hnull]
          exact .removed
        · rw [if_neg hnull]
          exact .patched hnull (merged_mergePatch h.1 _)
      · rw [if_neg hk]
        exact mergedMember_memberAfter h.2 k t

end

def reached (j : Json) : List String → Option Json
  | [] => some j
  | k :: path => (j.member? k).bind (fun i => i.reached path)

/-- The patch says nothing of the place. -/
inductive Untouched : Json → List String → Prop where
  | missing {patch : Fields} {k : String} {path : List String} :
      Dict.at? patch k = none → Untouched (.obj patch) (k :: path)
  | within {patch : Fields} {k : String} {j : Json} {path : List String} :
      Dict.at? patch k = some j → Untouched j path → Untouched (.obj patch) (k :: path)

theorem Untouched.ne_null (h : Untouched p path) : p ≠ .null := by
  cases h <;> simp

theorem reached_cons (j : Json) (k : String) (path : List String) :
    j.reached (k :: path) = (j.member? k).bind (fun i => i.reached path) := rfl

theorem reached_null (h : Untouched p path) : Json.null.reached path = none := by
  cases h <;> rfl

theorem Merged.reached_eq (h : Merged t p r) (hpath : Untouched p path) : r.reached path = t.reached path := by
  induction hpath generalizing t r with
  | @missing patch k path hk =>
      cases h with
      | replaced hp => cases hp
      | @merged _ _ result hmembers =>
          have hmember := hmembers k
          rw [hk, at?_fieldsOrEmpty] at hmember
          have hkept : Dict.at? result k = t.member? k := hmember.eq_of_none
          rw [reached_cons, reached_cons, member?, hkept]
  | @within patch k j path hk hrest ih =>
      cases h with
      | replaced hp => cases hp
      | @merged _ _ result hmembers =>
          have hmember := hmembers k
          rw [hk, at?_fieldsOrEmpty] at hmember
          obtain ⟨i, hi, hmerged⟩ := hmember.of_some hrest.ne_null
          rw [reached_cons, reached_cons, member?, hi, Option.bind_some, ih hmerged]
          cases t.member? k with
          | none => exact reached_null hrest
          | some before => rfl

end EnvironmentOperator.Json
