import EnvironmentOperator.Proofs.Text.Order

namespace EnvironmentOperator

class StrictKeyOrder (κ : Type) [KeyOrder κ] : Prop where
  irrefl : ∀ a : κ, KeyOrder.before a a = false
  trans : ∀ {a b c : κ}, KeyOrder.before a b = true → KeyOrder.before b c = true → KeyOrder.before a c = true
  total : ∀ {a b : κ}, a ≠ b → KeyOrder.before a b = true ∨ KeyOrder.before b a = true

instance : StrictKeyOrder String := ⟨Text.before_self, Text.before_trans, Text.before_total⟩

namespace Dict

variable {κ α : Type} [DecidableEq κ] [KeyOrder κ]

theorem put_put (d : Dict κ α) (k : κ) (v w : α) : Dict.put (Dict.put d k v) k w = Dict.put d k w := by
  induction d with
  | nil => simp [put]
  | cons e d ih =>
      obtain ⟨j, u⟩ := e
      by_cases hk : k = j
      · simp [put, hk]
      · by_cases hb : KeyOrder.before k j = true
        · simp [put, hk, hb]
        · simp [put, hk, hb, ih]

theorem without_put (d : Dict κ α) (k : κ) (v : α) : Dict.without (Dict.put d k v) k = Dict.without d k := by
  unfold without
  induction d with
  | nil => simp [put]
  | cons e d ih =>
      obtain ⟨j, u⟩ := e
      by_cases hk : k = j
      · simp [put, hk]
      · by_cases hb : KeyOrder.before k j = true
        · simp [put, hk, hb]
        · simp only [put, if_neg hk, if_neg hb, List.filter_cons, ih]

theorem length_le_put (d : Dict κ α) (k : κ) (v : α) : d.length ≤ (Dict.put d k v).length := by
  induction d with
  | nil => simp
  | cons e d ih =>
      simp only [put]
      split
      · simp
      · split
        · simp
        · simpa using ih

theorem put_eq_self {d : Dict κ α} {k : κ} {v : α} (hlen : (Dict.put d k v).length = d.length)
    (hv : Dict.at? d k = some v) : Dict.put d k v = d := by
  induction d with
  | nil => simp at hv
  | cons e d ih =>
      obtain ⟨j, u⟩ := e
      by_cases hk : k = j
      · simp only [at?_cons, hk, if_true, Option.some.injEq] at hv
        simp [put, hk, hv]
      · by_cases hb : KeyOrder.before k j = true
        · simp [put, hk, hb] at hlen
        · simp only [at?_cons, hk, if_false] at hv
          simp only [put, if_neg hk, if_neg hb, List.length_cons, Nat.add_right_cancel_iff] at hlen
          simp only [put, if_neg hk, if_neg hb, ih hlen hv]

omit [DecidableEq κ] in
theorem before_asymm [StrictKeyOrder κ] {a b : κ} (h : KeyOrder.before a b = true) :
    KeyOrder.before b a = false := by
  cases hb : KeyOrder.before b a with
  | false => rfl
  | true =>
      have haa := StrictKeyOrder.trans h hb
      rw [StrictKeyOrder.irrefl] at haa
      exact haa.symm ▸ rfl

/-- Two writes, the smaller key first: it stops at or before the place where the greater one stops. -/
theorem put_comm_of_before [StrictKeyOrder κ] (d : Dict κ α) {k l : κ} (v w : α)
    (h : KeyOrder.before k l = true) : Dict.put (Dict.put d k v) l w = Dict.put (Dict.put d l w) k v := by
  have hkl : k ≠ l := by
    rintro rfl
    rw [StrictKeyOrder.irrefl] at h
    exact absurd h (by simp)
  have hlk : KeyOrder.before l k = false := before_asymm h
  induction d with
  | nil => simp [put, hkl, hkl.symm, h, hlk]
  | cons e d ih =>
      obtain ⟨j, u⟩ := e
      by_cases hkj : k = j
      · subst hkj
        simp [put, hkl.symm, hlk]
      · by_cases hbk : KeyOrder.before k j = true
        · by_cases hlj : l = j
          · subst hlj
            simp [put, hkj, hkl.symm, hlk, h]
          · by_cases hbl : KeyOrder.before l j = true
            · simp [put, hkj, hbk, hkl.symm, hlk, hlj, hbl, hkl, h]
            · simp [put, hkj, hbk, hkl.symm, hlk, hlj, hbl]
        · have hlj : l ≠ j := by
            rintro rfl
            exact hbk h
          have hbl : ¬KeyOrder.before l j = true := fun hb => hbk (StrictKeyOrder.trans h hb)
          simp [put, hkj, hbk, hlj, hbl, ih]

theorem put_comm [StrictKeyOrder κ] (d : Dict κ α) {k l : κ} (v w : α) (h : k ≠ l) :
    Dict.put (Dict.put d k v) l w = Dict.put (Dict.put d l w) k v := by
  rcases StrictKeyOrder.total h with hb | hb
  · exact put_comm_of_before d v w hb
  · exact (put_comm_of_before d w v hb).symm

theorem mem_keys_put {d : Dict κ α} {k l : κ} {v : α} (h : l ∈ Dict.keys (Dict.put d k v)) :
    l = k ∨ l ∈ Dict.keys d := by
  obtain ⟨e, he, rfl⟩ := List.mem_map.1 h
  exact (mem_of_mem_put he).imp (congrArg Prod.fst) List.mem_map_of_mem

theorem ordered_put [StrictKeyOrder κ] {d : Dict κ α} (h : Ordered d) (k : κ) (v : α) :
    Ordered (Dict.put d k v) := by
  induction d with
  | nil => exact List.pairwise_singleton ..
  | cons e d ih =>
      obtain ⟨j, u⟩ := e
      obtain ⟨hj, hd⟩ := List.pairwise_cons.1 h
      by_cases hk : k = j
      · simpa [put, hk, Ordered, keys] using h
      · by_cases hb : KeyOrder.before k j = true
        · simp only [put, if_neg hk, if_pos hb]
          refine List.pairwise_cons.2 ⟨?_, h⟩
          intro l hl
          rcases List.mem_cons.1 hl with rfl | hl
          · exact hb
          · exact StrictKeyOrder.trans hb (hj l hl)
        · simp only [put, if_neg hk, if_neg hb]
          refine List.pairwise_cons.2 ⟨?_, ih hd⟩
          intro l hl
          rcases mem_keys_put hl with rfl | hl
          · exact (StrictKeyOrder.total hk).resolve_left hb
          · exact hj l hl

theorem ordered_without {d : Dict κ α} (h : Ordered d) (k : κ) : Ordered (Dict.without d k) :=
  h.sublist (List.Sublist.map _ List.filter_sublist)

theorem at?_of_mem [StrictKeyOrder κ] {d : Dict κ α} (h : Ordered d) {k : κ} {v : α} (hmem : (k, v) ∈ d) :
    Dict.at? d k = some v := by
  induction d with
  | nil => cases hmem
  | cons e d ih =>
      obtain ⟨j, u⟩ := e
      obtain ⟨hj, hd⟩ := List.pairwise_cons.1 h
      rcases List.mem_cons.1 hmem with heq | hmem
      · cases heq
        simp
      · have hjk : KeyOrder.before j k = true := hj k (List.mem_map_of_mem hmem)
        have hne : k ≠ j := by
          rintro rfl
          rw [StrictKeyOrder.irrefl] at hjk
          cases hjk
        rw [at?_cons, if_neg hne]
        exact ih hd hmem

theorem mem_iff_at? [StrictKeyOrder κ] {d : Dict κ α} (h : Ordered d) {k : κ} {v : α} :
    (k, v) ∈ d ↔ Dict.at? d k = some v :=
  ⟨at?_of_mem h, at?_mem⟩

omit [DecidableEq κ] in
theorem nodup_keys [StrictKeyOrder κ] {d : Dict κ α} (h : Ordered d) : (keys d).Nodup := by
  refine List.Pairwise.imp ?_ h
  rintro a b hab rfl
  rw [StrictKeyOrder.irrefl] at hab
  cases hab

omit [KeyOrder κ] in
theorem at?_eq_none_of_not_mem {d : Dict κ α} {k : κ} (h : k ∉ keys d) : Dict.at? d k = none := by
  cases hk : Dict.at? d k with
  | none => rfl
  | some v => exact absurd (List.mem_map_of_mem (at?_mem hk)) h

omit [KeyOrder κ] in
theorem not_mem_keys_of_at?_eq_none {d : Dict κ α} {k : κ} (h : Dict.at? d k = none) : k ∉ keys d := by
  induction d with
  | nil => exact List.not_mem_nil
  | cons e d ih =>
      rw [at?_cons] at h
      split at h
      · cases h
      · rename_i hne
        exact fun hmem => (List.mem_cons.1 hmem).elim hne (ih h)

theorem eq_of_at?_eq [StrictKeyOrder κ] {d e : Dict κ α} (hd : Ordered d) (he : Ordered e)
    (h : ∀ k, Dict.at? d k = Dict.at? e k) : d = e := by
  have hnodup {f : Dict κ α} (hf : Ordered f) : f.Nodup :=
    List.Pairwise.of_map Prod.fst (fun _ _ hne heq => hne (congrArg Prod.fst heq)) (nodup_keys hf)
  have hperm : List.Perm d e := by
    refine (List.perm_ext_iff_of_nodup (hnodup hd) (hnodup he)).2 ?_
    rintro ⟨k, v⟩
    rw [mem_iff_at? hd, mem_iff_at? he, h k]
  refine hperm.eq_of_pairwise (fun a b _ _ hab hba => ?_) (List.pairwise_map.1 hd) (List.pairwise_map.1 he)
  rw [before_asymm hab] at hba
  cases hba

end Dict

end EnvironmentOperator
