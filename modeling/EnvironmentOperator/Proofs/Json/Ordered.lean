import EnvironmentOperator.Json.Parse
import EnvironmentOperator.Proofs.Dict

namespace EnvironmentOperator.Json

variable {t j : Json} {fields : Fields} {k : String}

theorem orderedFields_iff : OrderedFields fields ↔ ∀ e ∈ fields, e.2.Ordered := by
  induction fields with
  | nil => simp [OrderedFields]
  | cons e rest ih =>
      obtain ⟨k, j⟩ := e
      rw [OrderedFields, ih, List.forall_mem_cons]

theorem ordered_obj_iff :
    (Json.obj fields).Ordered ↔ Dict.Ordered fields ∧ ∀ k j, Dict.at? fields k = some j → j.Ordered := by
  rw [Ordered, orderedFields_iff]
  refine and_congr_right fun hfields => ⟨fun h k j hk => h (k, j) (Dict.at?_mem hk), ?_⟩
  rintro h ⟨k, j⟩ hmem
  exact h k j (Dict.at?_of_mem hfields hmem)

theorem ordered_put (h : (Json.obj fields).Ordered) (k : String) (hj : j.Ordered) :
    (Json.obj (Dict.put fields k j)).Ordered := by
  rw [ordered_obj_iff] at h ⊢
  refine ⟨Dict.ordered_put h.1 k j, fun l i hl => ?_⟩
  rw [Dict.at?_put] at hl
  split at hl
  · cases hl
    exact hj
  · exact h.2 l i hl

theorem ordered_without (h : (Json.obj fields).Ordered) (k : String) :
    (Json.obj (Dict.without fields k)).Ordered := by
  rw [ordered_obj_iff] at h ⊢
  refine ⟨Dict.ordered_without h.1 k, fun l i hl => ?_⟩
  rw [Dict.at?_without] at hl
  split at hl
  · cases hl
  · exact h.2 l i hl

theorem ordered_of_member? (h : t.Ordered) (hk : t.member? k = some j) : j.Ordered := by
  cases t with
  | obj fields => exact (ordered_obj_iff.1 h).2 k j hk
  | _ => cases hk

theorem ordered_foldl_put {members : List (String × Json)} (hm : ∀ m ∈ members, m.2.Ordered)
    (h : (Json.obj fields).Ordered) : (Json.obj (members.foldl (fun d e => Dict.put d e.1 e.2) fields)).Ordered := by
  induction members generalizing fields with
  | nil => exact h
  | cons m rest ih =>
      obtain ⟨hfirst, hrest⟩ := List.forall_mem_cons.1 hm
      exact ih hrest (ordered_put h m.1 hfirst)

theorem ordered_object {members : List (String × Json)} (h : ∀ m ∈ members, m.2.Ordered) : (object members).Ordered :=
  ordered_foldl_put h ⟨.nil, trivial⟩

theorem orderedItems_iff {items : List Json} : OrderedItems items ↔ ∀ j ∈ items, j.Ordered := by
  induction items with
  | nil => simp [OrderedItems]
  | cons j rest ih => rw [OrderedItems, ih, List.forall_mem_cons]

theorem ordered_real? {negative : Bool} {n : Nat} {power : Int} (h : Numeral.real? negative n power = some j) :
    j.Ordered := by
  unfold Numeral.real? at h
  grind [Ordered]

theorem ordered_number? {x : Numeral} (h : x.value? = some j) : j.Ordered := by
  unfold Numeral.value? Numeral.integer? at h
  grind [Ordered, ordered_real?]

namespace Source

mutual

theorem ordered_of_value? : ∀ {levels : Nat} {s : Source} {j : Json}, value? levels s = some j → j.Ordered
  | _, .null, j, h | _, .bool _, j, h => by
      rw [value?] at h
      cases h
      trivial
  | _, .number n, j, h => by
      rw [value?] at h
      exact ordered_number? h
  | _, .str text, j, h => by
      rw [value?] at h
      obtain ⟨s, -, rfl⟩ := Option.map_eq_some_iff.1 h
      trivial
  | 0, .arr _, _, h | 0, .obj _, _, h => by
      rw [value?] at h
      cases h
  | levels + 1, .arr items, j, h => by
      rw [value?] at h
      obtain ⟨js, hjs, rfl⟩ := Option.map_eq_some_iff.1 h
      exact orderedItems_iff.2 (ordered_of_values? hjs)
  | levels + 1, .obj members, j, h => by
      rw [value?] at h
      obtain ⟨ms, hms, rfl⟩ := Option.map_eq_some_iff.1 h
      exact ordered_object (ordered_of_memberValues? hms)

theorem ordered_of_values? : ∀ {levels : Nat} {items : List Source} {js : List Json},
    values? levels items = some js → ∀ j ∈ js, j.Ordered
  | _, [], js, h => by
      rw [values?] at h
      cases h
      exact nofun
  | levels, s :: rest, js, h => by
      simp only [values?, Option.bind_eq_bind, Option.bind_eq_some_iff, Option.pure_def, Option.some.injEq] at h
      obtain ⟨j, hj, js, hjs, rfl⟩ := h
      exact List.forall_mem_cons.2 ⟨ordered_of_value? hj, ordered_of_values? hjs⟩

theorem ordered_of_memberValues? : ∀ {levels : Nat} {members : List (Option String × Source)}
    {ms : List (String × Json)}, memberValues? levels members = some ms → ∀ m ∈ ms, m.2.Ordered
  | _, [], ms, h => by
      rw [memberValues?] at h
      cases h
      exact nofun
  | levels, (key, s) :: rest, ms, h => by
      simp only [memberValues?, Option.bind_eq_bind, Option.bind_eq_some_iff, Option.pure_def, Option.some.injEq] at h
      obtain ⟨name, -, j, hj, ms, hms, rfl⟩ := h
      exact List.forall_mem_cons.2 ⟨ordered_of_value? hj, ordered_of_memberValues? hms⟩

end

end Source

theorem ordered_of_parse? {text : String} (h : parse? text = some j) : j.Ordered := by
  obtain ⟨s, -, hs⟩ := Option.bind_eq_some_iff.1 h
  exact Source.ordered_of_value? hs

end EnvironmentOperator.Json
