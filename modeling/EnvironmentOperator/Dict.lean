import EnvironmentOperator.Text.Order

namespace EnvironmentOperator

class KeyOrder (κ : Type) where
  before : κ → κ → Bool

instance : KeyOrder String := ⟨Text.before⟩

abbrev Dict (κ α : Type) := List (κ × α)

namespace Dict

variable {κ α β : Type} [DecidableEq κ]

def at? (d : Dict κ α) (k : κ) : Option α :=
  match d with
  | [] => none
  | (k', v) :: rest => if k = k' then some v else Dict.at? rest k

def has (d : Dict κ α) (k : κ) : Bool := (d.at? k).isSome

def without (d : Dict κ α) (k : κ) : Dict κ α := d.filter (fun e => decide (e.1 ≠ k))

/-- The entry stands before the first greater key, or in the place of the entry it replaces. -/
def put [KeyOrder κ] (d : Dict κ α) (k : κ) (v : α) : Dict κ α :=
  match d with
  | [] => [(k, v)]
  | (k', v') :: rest =>
      if k = k' then (k, v) :: rest
      else if KeyOrder.before k k' then (k, v) :: (k', v') :: rest
      else (k', v') :: Dict.put rest k v

def ofList [KeyOrder κ] (entries : List (κ × α)) : Dict κ α :=
  entries.foldl (fun d e => Dict.put d e.1 e.2) []

omit [DecidableEq κ] in
def keys (d : Dict κ α) : List κ := d.map Prod.fst

omit [DecidableEq κ] in
def values (d : Dict κ α) : List α := d.map Prod.snd

omit [DecidableEq κ] in
def Ordered [KeyOrder κ] (d : Dict κ α) : Prop :=
  (Dict.keys d).Pairwise (fun a b => KeyOrder.before a b = true)

@[simp] theorem at?_nil (k : κ) : Dict.at? ([] : Dict κ α) k = none := rfl

@[simp] theorem at?_cons (k k' : κ) (v : α) (d : Dict κ α) :
    Dict.at? ((k', v) :: d) k = if k = k' then some v else Dict.at? d k := rfl

theorem at?_put [KeyOrder κ] (d : Dict κ α) (k k' : κ) (v : α) :
    Dict.at? (Dict.put d k v) k' = if k' = k then some v else Dict.at? d k' := by
  induction d with
  | nil => simp [put]
  | cons e d ih =>
      obtain ⟨j, w⟩ := e
      by_cases hk : k = j <;> by_cases hlt : KeyOrder.before k j = true <;> by_cases hj : k' = j <;>
        by_cases hkk : k' = k <;> simp_all [put]

theorem at?_without (d : Dict κ α) (k k' : κ) :
    Dict.at? (Dict.without d k) k' = if k' = k then none else Dict.at? d k' := by
  induction d with
  | nil => simp [without]
  | cons e d ih =>
      obtain ⟨j, w⟩ := e
      simp only [without] at ih ⊢
      by_cases hj : j = k <;> by_cases hk : k' = j <;> simp_all

theorem at?_mem {d : Dict κ α} {k : κ} {v : α} (h : Dict.at? d k = some v) : (k, v) ∈ d := by
  induction d with
  | nil => simp at h
  | cons e d ih =>
      obtain ⟨j, w⟩ := e
      by_cases hk : k = j <;> simp_all

theorem mem_of_mem_put [KeyOrder κ] {d : Dict κ α} {k : κ} {v : α} {e : κ × α} (h : e ∈ Dict.put d k v) :
    e = (k, v) ∨ e ∈ d := by
  induction d with
  | nil => simpa [put] using h
  | cons e' d ih =>
      simp only [put] at h
      split at h
      · exact (List.mem_cons.1 h).imp_right (List.mem_cons_of_mem _)
      · split at h
        · exact List.mem_cons.1 h
        · rcases List.mem_cons.1 h with h | h
          · exact .inr (h ▸ List.mem_cons_self ..)
          · exact (ih h).imp_right (List.mem_cons_of_mem _)

theorem mem_of_mem_foldl_put [KeyOrder κ] {entries : List (κ × α)} {d : Dict κ α} {e : κ × α}
    (h : e ∈ entries.foldl (fun d e => Dict.put d e.1 e.2) d) : e ∈ d ∨ e ∈ entries := by
  induction entries generalizing d with
  | nil => exact .inl h
  | cons e' rest ih =>
      rcases ih h with h | h
      · rcases mem_of_mem_put h with rfl | h
        · exact .inr (List.mem_cons_self ..)
        · exact .inl h
      · exact .inr (List.mem_cons_of_mem _ h)

theorem mem_of_mem_ofList [KeyOrder κ] {entries : List (κ × α)} {e : κ × α} (h : e ∈ Dict.ofList entries) :
    e ∈ entries :=
  (mem_of_mem_foldl_put h).resolve_left List.not_mem_nil

end Dict

end EnvironmentOperator
