import EnvironmentOperator.Manifest.Object
import EnvironmentOperator.Proofs.Dict
import EnvironmentOperator.Proofs.Manifest.Metadata

namespace EnvironmentOperator.Object

variable {fields : Fields}

def Untyped (fields : Fields) : Prop := ∀ e ∈ fields, e.1 ≠ "apiVersion" ∧ e.1 ≠ "kind"

theorem typesFrom_put_kind (h : Untyped fields) (apiVersion kind : String) :
    typesFrom (some apiVersion) none (Dict.put fields "kind" (.str kind)) = (some ⟨apiVersion, kind⟩, fields) := by
  induction fields with
  | nil => rfl
  | cons e rest ih =>
      obtain ⟨he, hrest⟩ := List.forall_mem_cons.1 h
      simp only [Dict.put, if_neg (Ne.symm he.2)]
      split
      · exact typesFrom_of_absent h (some apiVersion) (some kind)
      · simp only [typesFrom, if_neg he.1, if_neg he.2, ih hrest]

theorem typesFrom_put (h : Untyped fields) (apiVersion kind : String) :
    typesFrom none none (Dict.put (Dict.put fields "apiVersion" (.str apiVersion)) "kind" (.str kind)) =
      (some ⟨apiVersion, kind⟩, fields) := by
  induction fields with
  | nil => rfl
  | cons e rest ih =>
      obtain ⟨he, hrest⟩ := List.forall_mem_cons.1 h
      by_cases hbefore : KeyOrder.before "apiVersion" e.1 = true
      · have hput : Dict.put (e :: rest) "apiVersion" (.str apiVersion) =
            ("apiVersion", .str apiVersion) :: e :: rest := by
          simp only [Dict.put, if_neg (Ne.symm he.1), if_pos hbefore]
        have hkind : Dict.put (("apiVersion", Json.str apiVersion) :: e :: rest) "kind" (.str kind) =
            ("apiVersion", .str apiVersion) :: Dict.put (e :: rest) "kind" (.str kind) := rfl
        rw [hput, hkind]
        exact typesFrom_put_kind h apiVersion kind
      · have hput : Dict.put (e :: rest) "apiVersion" (.str apiVersion) =
            e :: Dict.put rest "apiVersion" (.str apiVersion) := by
          simp only [Dict.put, if_neg (Ne.symm he.1), if_neg hbefore]
        -- The entry stands before `apiVersion`, and so before `kind` as well.
        have hlater : KeyOrder.before "kind" e.1 = false := by
          have hearly := (StrictKeyOrder.total he.1).resolve_right hbefore
          exact Dict.before_asymm (StrictKeyOrder.trans hearly (by decide))
        rw [hput]
        simp only [Dict.put, if_neg (Ne.symm he.2), hlater, Bool.false_eq_true, if_false, typesFrom, if_neg he.1,
          if_neg he.2, ih hrest]

theorem without_of_absent {key : String} (h : ∀ e ∈ fields, e.1 ≠ key) : Dict.without fields key = fields :=
  List.filter_eq_self.2 fun e he => decide_eq_true (h e he)

theorem key_ne_of_unreserved {types : Option TypeMeta} (h : Unreserved types (.obj fields)) {key : String}
    (hkey : key ∈ reserved types) : ∀ e ∈ fields, e.1 ≠ key := by
  rintro ⟨k, v⟩ he rfl
  exact Dict.not_mem_keys_of_at?_eq_none (h k hkey) (List.mem_map_of_mem he)

theorem decode_of_parts {o : Object} {members : Fields} {m : Json} (hmember : Dict.at? members "metadata" = some m)
    (hmetadata : decode m = .ok o.metadata) (hdata : o.data = .obj fields)
    (hsplit : splitTypes (Dict.without members "metadata") = (o.types, fields)) :
    decode (.obj members) = .ok o := by
  obtain ⟨types, metadata, data, unreserved⟩ := o
  subst hdata
  show ofFields members = _
  simp only [ofFields, hmember, hmetadata, hsplit, bind_ok]
  rfl

theorem decode_encode {o : Object} {t : TypeMeta} (htypes : o.types = some t) (hdata : o.data = .obj fields)
    (hmetadata : ∀ i ∈ ExchangeForm.instants o.metadata, i.Recordable) :
    decode (encode o) = .ok { o with metadata := o.metadata.exchanged } := by
  have hkeys : Unreserved (some t) (.obj fields) := htypes ▸ hdata ▸ o.unreserved
  have huntyped : Untyped fields := fun e he =>
    ⟨key_ne_of_unreserved hkeys (by simp [reserved]) e he, key_ne_of_unreserved hkeys (by simp [reserved]) e he⟩
  have hfields : o.toFields = Dict.put (Dict.put (Dict.put fields "apiVersion" (.str t.apiVersion)) "kind"
      (.str t.kind)) "metadata" (encode o.metadata) := by
    simp only [toFields, htypes, hdata, Json.fieldsOrEmpty]
    rw [Dict.put_comm fields _ _ (by decide), Dict.put_comm _ _ _ (by decide)]
  have hfree : ∀ e ∈ Dict.put (Dict.put fields "apiVersion" (.str t.apiVersion)) "kind" (.str t.kind),
      e.1 ≠ "metadata" := by
    intro e he
    rcases Dict.mem_of_mem_put he with rfl | he
    · simp
    · rcases Dict.mem_of_mem_put he with rfl | he
      · simp
      · exact key_ne_of_unreserved hkeys (by simp [reserved]) e he
  have hmember : Dict.at? o.toFields "metadata" = some (encode o.metadata) := by
    rw [hfields, Dict.at?_put, if_pos rfl]
  refine decode_of_parts hmember (ExchangeForm.decode_encode o.metadata hmetadata) hdata ?_
  rw [hfields, Dict.without_put, without_of_absent hfree, splitTypes, typesFrom_put huntyped, htypes]

end EnvironmentOperator.Object
