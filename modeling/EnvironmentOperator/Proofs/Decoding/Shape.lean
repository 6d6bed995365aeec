import EnvironmentOperator.Decoding.Shape
import EnvironmentOperator.Proofs.Decoding

namespace EnvironmentOperator.Shape

theorem write_ne_null : ∀ (s : Shape) (x : s.Value), s.write x ≠ .null
  | .port, .number _ => nofun
  | .port, .name _ => nofun
  | .text, _ | .flag, _ | .int32, _ | .int64, _ | .quantity, _ | .list _, _ | .named _, _ | .record _ _, _ => nofun

section Members

variable {k key : String} {s : Shape} {ms : List (String × Need × Shape)}

theorem at?_writeAll_of_not_mem : ∀ {ms : List (String × Need × Shape)} (xs : Values ms),
    key ∉ Dict.keys ms → Dict.at? (writeAll ms xs) key = none
  | [], _, _ => rfl
  | (_, .optional, _) :: _, (v, xs), h => by
      obtain ⟨hk, hms⟩ := not_or.1 (mt List.mem_cons.2 h)
      have hrest := at?_writeAll_of_not_mem xs hms
      cases v with
      | none => exact hrest
      | some x => exact (if_neg hk).trans hrest
  | (_, .required, _) :: _, (_, xs), h => by
      obtain ⟨hk, hms⟩ := not_or.1 (mt List.mem_cons.2 h)
      exact (if_neg hk).trans (at?_writeAll_of_not_mem xs hms)

theorem at?_writeAll_optional (hk : k ∉ Dict.keys ms) (v : Option s.Value) (xs : Values ms) :
    Dict.at? (writeAll ((k, .optional, s) :: ms) (v, xs)) k = v.map s.write := by
  cases v with
  | none => exact at?_writeAll_of_not_mem xs hk
  | some x => exact if_pos rfl

theorem at?_writeAll_optional_of_ne (hkey : key ≠ k) (v : Option s.Value) (xs : Values ms) :
    Dict.at? (writeAll ((k, .optional, s) :: ms) (v, xs)) key = Dict.at? (writeAll ms xs) key := by
  cases v with
  | none => rfl
  | some x => exact if_neg hkey

theorem allDistinct_cons {need : Need} :
    allDistinct ((k, need, s) :: ms) = true ↔ k ∉ Dict.keys ms ∧ s.distinct = true ∧ allDistinct ms = true := by
  simp [allDistinct, and_assoc]

end Members

mutual

theorem read_write : ∀ (s : Shape), s.distinct = true → ∀ x, s.read (s.write x) = .ok x
  | .text, _, x => LawfulJsonForm.decode_encode (show String from x)
  | .flag, _, x => LawfulJsonForm.decode_encode (show Bool from x)
  | .int32, _, x => LawfulJsonForm.decode_encode (show Int32 from x)
  | .int64, _, x => LawfulJsonForm.decode_encode (show Int64 from x)
  | .quantity, _, x => LawfulJsonForm.decode_encode (show Quantity from x)
  | .port, _, x => LawfulJsonForm.decode_encode (show PortTarget from x)
  | .list s, h, xs => decodeItems_map (read_write s h) xs
  | .named s, h, m => congrArg (·.map Named.mk) (decodeEntries_map (read_write s h) m.entries)
  | .record _ ms, h, xs => readAll_of_agrees ms h xs (writeAll ms xs) fun _ _ => rfl

theorem readAll_of_agrees : ∀ (ms : List (String × Need × Shape)), allDistinct ms = true →
    ∀ (xs : Values ms) (fields : Fields),
      (∀ k ∈ Dict.keys ms, Dict.at? fields k = Dict.at? (writeAll ms xs) k) → readAll ms fields = .ok xs
  | [], _, _, _, _ => rfl
  | (k, .optional, s) :: ms, h, (v, xs), fields, hfields => by
      obtain ⟨hk, hs, hms⟩ := allDistinct_cons.1 h
      obtain ⟨hhere, hrest⟩ := List.forall_mem_cons.1 hfields
      rw [at?_writeAll_optional hk] at hhere
      have hv : Fields.optionalBy s.read (Dict.at? fields k) = .ok v := by
        rw [hhere, Fields.optionalBy_map (write_ne_null s) fun x _ => read_write s hs x, Option.map_id']
      have hxs : readAll ms fields = .ok xs := by
        refine readAll_of_agrees ms hms xs fields fun key hkey => ?_
        rw [hrest key hkey, at?_writeAll_optional_of_ne (ne_of_mem_of_not_mem hkey hk)]
      simp only [readAll, hv, hxs, bind_ok]
      rfl
  | (k, .required, s) :: ms, h, (x, xs), fields, hfields => by
      obtain ⟨hk, hs, hms⟩ := allDistinct_cons.1 h
      obtain ⟨hhere, hrest⟩ := List.forall_mem_cons.1 hfields
      have hx : Fields.optionalBy s.read (Dict.at? fields k) = .ok (some x) := by
        rw [hhere, writeAll, Dict.at?_cons, if_pos rfl, Fields.optionalBy_some (write_ne_null s x), read_write s hs x]
        rfl
      have hxs : readAll ms fields = .ok xs := by
        refine readAll_of_agrees ms hms xs fields fun key hkey => ?_
        rw [hrest key hkey, writeAll, Dict.at?_cons, if_neg (ne_of_mem_of_not_mem hkey hk)]
      simp only [readAll, hx, hxs, bind_ok]
      rfl

end

mutual

theorem realFree_write : ∀ (s : Shape) (x : s.Value), (s.write x).RealFree
  | .text, _ | .flag, _ | .int32, _ | .int64, _ | .quantity, _ => trivial
  | .port, .number _ => trivial
  | .port, .name _ => trivial
  | .list s, xs => by
      show Json.RealFreeItems (List.map s.write xs)
      induction xs with
      | nil => trivial
      | cons x xs ih => exact ⟨realFree_write s x, ih⟩
  | .named s, ⟨es⟩ => by
      show Json.RealFreeFields (es.map fun e => (e.1, s.write e.2))
      induction es with
      | nil => trivial
      | cons e es ih => exact ⟨realFree_write s e.2, ih⟩
  | .record _ ms, xs => realFree_writeAll ms xs

theorem realFree_writeAll : ∀ (ms : List (String × Need × Shape)) (xs : Values ms),
    Json.RealFreeFields (writeAll ms xs)
  | [], _ => trivial
  | (_, .optional, s) :: ms, (some x, xs) => ⟨realFree_write s x, realFree_writeAll ms xs⟩
  | (_, .optional, _) :: ms, (none, xs) => realFree_writeAll ms xs
  | (_, .required, s) :: ms, (x, xs) => ⟨realFree_write s x, realFree_writeAll ms xs⟩

end

end EnvironmentOperator.Shape

namespace EnvironmentOperator

instance (s : Schema) : PlainJsonForm (Shaped s) where
  decode_encode x := by
    show (s.shape.read (s.shape.write x.value)).map Shaped.mk = _
    rw [Shape.read_write s.shape s.distinct]
    rfl
  encode_ne_null x := Shape.write_ne_null s.shape x.value
  encode_realFree x := Shape.realFree_write s.shape x.value

end EnvironmentOperator
