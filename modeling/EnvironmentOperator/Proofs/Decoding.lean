import EnvironmentOperator.Decoding.Record
import EnvironmentOperator.Manifest.Scalar
import EnvironmentOperator.Proofs.Json.Zero
/-!
Values whose written form is plain: it reads back, is never null and holds no real number. Records of plain members
are plain, whatever is left out of them.
-/
namespace EnvironmentOperator

class PlainJsonForm (α : Type) [JsonForm α] : Prop extends LawfulJsonForm α where
  encode_ne_null : ∀ x : α, encode x ≠ .null
  encode_realFree : ∀ x : α, (encode x).RealFree

theorem encode_injective {α : Type} [JsonForm α] [LawfulJsonForm α] {x y : α} (h : encode x = encode y) :
    x = y := by
  have hx := LawfulJsonForm.decode_encode x
  rw [h, LawfulJsonForm.decode_encode] at hx
  exact (Except.ok.inj hx).symm

namespace Json

@[simp] theorem at?_present_nil (key : String) : Dict.at? (present []) key = none := rfl

@[simp] theorem at?_present_cons (k : String) (v : Option Json) (rest : List (String × Option Json))
    (key : String) :
    Dict.at? (present ((k, v) :: rest)) key =
      if key = k then v.or (Dict.at? (present rest) key) else Dict.at? (present rest) key := by
  cases v with
  | none => simp [present_cons_none]
  | some j =>
      rw [present_cons_some, Dict.at?_cons]
      split <;> simp

theorem at?_of_record_eq {members members' : List (String × Option Json)}
    (h : record members = record members') (key : String) :
    Dict.at? (present members) key = Dict.at? (present members') key :=
  congrArg (fun d => Dict.at? d key) (Json.obj.inj h)

def RealFreeMember (v : Option Json) : Prop := ∀ j, v = some j → RealFree j

@[simp] theorem realFreeMember_none : RealFreeMember none := by
  intro j h
  cases h

theorem realFree_present {members : List (String × Option Json)}
    (h : ∀ m ∈ members, RealFreeMember m.2) : RealFreeFields (present members) := by
  induction members with
  | nil => trivial
  | cons m rest ih =>
      obtain ⟨k, v⟩ := m
      have ih := ih (fun m hm => h m (List.mem_cons_of_mem _ hm))
      cases v with
      | none => exact ih
      | some j => exact ⟨h (k, some j) (List.mem_cons_self ..) j rfl, ih⟩

theorem realFree_of_at? {fields : Fields} (h : RealFreeFields fields) {k : String} {j : Json}
    (hj : Dict.at? fields k = some j) : RealFree j := by
  induction fields with
  | nil => simp at hj
  | cons e rest ih =>
      obtain ⟨l, i⟩ := e
      rw [Dict.at?_cons] at hj
      split at hj
      · exact Option.some.inj hj ▸ h.1
      · exact ih h.2 hj

end Json

section Members

variable {α : Type} [JsonForm α]

@[simp] theorem realFreeMember_map_encode [PlainJsonForm α] (v : Option α) :
    Json.RealFreeMember (v.map encode) := by
  intro j h
  obtain ⟨x, -, rfl⟩ := Option.map_eq_some_iff.1 h
  exact PlainJsonForm.encode_realFree x

@[simp] theorem realFreeMember_some_encode [PlainJsonForm α] (x : α) :
    Json.RealFreeMember (some (encode x)) :=
  realFreeMember_map_encode (some x)

namespace Fields

@[simp] theorem optional_eq (fields : Fields) (key : String) :
    (optional fields key : Except DecodeError (Option α)) = readOptional (Dict.at? fields key) := rfl

@[simp] theorem orElse_eq (fields : Fields) (key : String) (x : α) :
    orElse fields key x = (readOptional (Dict.at? fields key)).map (·.getD x) := by
  rw [orElse, optional_eq]

theorem optionalBy_some {β : Type} {read : Json → Except DecodeError β} {j : Json} (h : j ≠ .null) :
    optionalBy read (some j) = (read j).map some := by
  cases j <;> first | rfl | exact absurd rfl h

theorem optionalBy_map {β γ : Type} {read : Json → Except DecodeError γ} {write : β → Json} {f : β → γ}
    {v : Option β} (hnull : ∀ x, write x ≠ .null) (h : ∀ x, v = some x → read (write x) = .ok (f x)) :
    optionalBy read (v.map write) = .ok (v.map f) := by
  cases v with
  | none => rfl
  | some x =>
      rw [Option.map_some, optionalBy_some (hnull x), h x rfl]
      rfl

theorem readOptional_some {j : Json} (h : j ≠ .null) :
    (readOptional (some j) : Except DecodeError (Option α)) = (decode j).map some :=
  optionalBy_some h

theorem decode_of_readOptional {member : Option Json} {x : α} (h : readOptional member = .ok (some x)) :
    ∃ j, decode j = .ok x := by
  cases member with
  | none => cases h
  | some j =>
      by_cases hj : j = .null
      · subst hj
        cases h
      · rw [readOptional_some hj] at h
        cases hread : (decode j : Except DecodeError α) with
        | error e =>
            rw [hread] at h
            cases h
        | ok y =>
            rw [hread] at h
            cases h
            exact ⟨j, hread⟩

@[simp] theorem readOptional_none : (readOptional none : Except DecodeError (Option α)) = .ok none := rfl

@[simp] theorem readOptional_some_encode [PlainJsonForm α] (x : α) :
    readOptional (some (encode x)) = .ok (some x) := by
  rw [readOptional_some (PlainJsonForm.encode_ne_null x), LawfulJsonForm.decode_encode]
  rfl

@[simp] theorem readOptional_map_encode [PlainJsonForm α] (v : Option α) :
    readOptional (v.map encode) = .ok v := by
  cases v with
  | none => rfl
  | some x => exact readOptional_some_encode x

@[simp] theorem readOptional_getD_null [PlainJsonForm α] (v : Option α) :
    readOptional (some ((v.map encode).getD .null)) = .ok v := by
  cases v with
  | none => rfl
  | some x => exact readOptional_some_encode x

def readGiven : Option Json → Except DecodeError (Option α)
  | none => .ok none
  | some j => (decode j).map some

@[simp] theorem given_eq (fields : Fields) (key : String) :
    (given fields key : Except DecodeError (Option α)) = readGiven (Dict.at? fields key) := by
  unfold given
  cases Dict.at? fields key <;> rfl

@[simp] theorem readGiven_none : (readGiven none : Except DecodeError (Option α)) = .ok none := rfl

@[simp] theorem readGiven_some_encode [LawfulJsonForm α] (x : α) : readGiven (some (encode x)) = .ok (some x) := by
  rw [readGiven, LawfulJsonForm.decode_encode]
  rfl

end Fields

@[simp] theorem realFreeMember_getD_null [PlainJsonForm α] (v : Option α) :
    Json.RealFreeMember (some ((v.map encode).getD .null)) := by
  rintro j h
  cases v with
  | none => exact Option.some.inj h ▸ trivial
  | some x => exact Option.some.inj h ▸ PlainJsonForm.encode_realFree x

end Members

@[simp] theorem require_some {α : Type} (field : String) (x : α) : require field (some x) = .ok x := rfl

@[simp] theorem decodeRecord_obj {α : Type} (wanted : String) (byName : Fields → Except DecodeError α)
    (byPosition : List Json → Except DecodeError α) (fields : Fields) :
    decodeRecord wanted byName byPosition (.obj fields) = byName fields := rfl

@[simp] theorem bind_ok {ε α β : Type} (a : α) (f : α → Except ε β) : (Except.ok a >>= f) = f a := rfl

theorem bind_eq_ok {ε α β : Type} {x : Except ε α} {f : α → Except ε β} {b : β} :
    (x >>= f) = .ok b ↔ ∃ a, x = .ok a ∧ f a = .ok b := by
  cases x with
  | error e =>
      constructor
      · intro h
        cases h
      · rintro ⟨_, h, _⟩
        cases h
  | ok a => simp

@[simp] theorem map_ok {ε α β : Type} (a : α) (f : α → β) : (f <$> Except.ok a : Except ε β) = .ok (f a) := rfl

@[simp] theorem exceptMap_ok {ε α β : Type} (a : α) (f : α → β) :
    (Except.ok a : Except ε α).map f = .ok (f a) := rfl

@[simp] theorem membersOf_obj (wanted : String) (fields : Fields) : membersOf wanted (.obj fields) = .ok fields :=
  rfl

namespace PlainJsonForm

theorem of_record {α : Type} [JsonForm α] {members : α → List (String × Option Json)}
    (hencode : ∀ x : α, encode x = .record (members x))
    (hdecode : ∀ x : α, decode (.obj (Json.present (members x))) = .ok x)
    (hfree : ∀ x, ∀ m ∈ members x, Json.RealFreeMember m.2) : PlainJsonForm α where
  decode_encode x := by rw [hencode]; exact hdecode x
  encode_ne_null x := by rw [hencode]; exact fun h => by cases h
  encode_realFree x := by rw [hencode]; exact Json.realFree_present (hfree x)

instance : PlainJsonForm String where
  encode_ne_null _ h := by cases h
  encode_realFree _ := trivial

instance : PlainJsonForm Bool where
  encode_ne_null _ h := by cases h
  encode_realFree _ := trivial

instance : PlainJsonForm Quantity where
  encode_ne_null _ h := by cases h
  encode_realFree _ := trivial

theorem decodeInteger_int {wanted : String} {low high n : Int} (hl : low ≤ n) (hh : n ≤ high) :
    decodeInteger wanted low high (.int n) = .ok n := if_pos ⟨hl, hh⟩

instance : PlainJsonForm Int32 where
  decode_encode n := by
    have hl := n.le_toInt
    have hh := n.toInt_lt
    show (decodeInteger _ _ _ (.int n.toInt)).map Int32.ofInt = .ok n
    rw [decodeInteger_int (by omega) (by omega), exceptMap_ok, Int32.ofInt_toInt]
  encode_ne_null _ h := by cases h
  encode_realFree _ := trivial

instance : PlainJsonForm Int64 where
  decode_encode n := by
    have hl := n.le_toInt
    have hh := n.toInt_lt
    show (decodeInteger _ _ _ (.int n.toInt)).map Int64.ofInt = .ok n
    rw [decodeInteger_int (by omega) (by omega), exceptMap_ok, Int64.ofInt_toInt]
  encode_ne_null _ h := by cases h
  encode_realFree _ := trivial

instance : PlainJsonForm PortTarget where
  decode_encode
    | .number n => by
        have hl := n.le_toInt
        have hh := n.toInt_lt
        show (decodeInteger _ _ _ (.int n.toInt)).map _ = _
        rw [decodeInteger_int (by omega) (by omega), exceptMap_ok, Int32.ofInt_toInt]
    | .name _ => rfl
  encode_ne_null x h := by cases x <;> cases h
  encode_realFree x := by cases x <;> trivial

instance {α : Type} [JsonForm α] [PlainJsonForm α] : PlainJsonForm (List α) where
  encode_ne_null _ h := by cases h
  encode_realFree xs := by
    show Json.RealFreeItems (xs.map encode)
    induction xs with
    | nil => trivial
    | cons x xs ih => exact ⟨encode_realFree x, ih⟩

instance {α : Type} [JsonForm α] [PlainJsonForm α] : PlainJsonForm (Named α) where
  encode_ne_null _ h := by cases h
  encode_realFree m := by
    show Json.RealFreeFields (m.entries.map (fun e => (e.1, encode e.2)))
    induction m.entries with
    | nil => trivial
    | cons e es ih => exact ⟨encode_realFree e.2, ih⟩

end PlainJsonForm

/-- A single value whose written form is plain and is the form of no other value. -/
structure PlainValue {α : Type} [JsonForm α] (x : α) : Prop where
  decode_encode : decode (encode x) = .ok x
  encode_ne_null : encode x ≠ .null
  encode_realFree : (encode x).RealFree
  encode_unique : ∀ y, encode y = encode x → y = x

namespace PlainValue

variable {α : Type} [JsonForm α]

theorem of_form [PlainJsonForm α] (x : α) : PlainValue x where
  decode_encode := LawfulJsonForm.decode_encode x
  encode_ne_null := PlainJsonForm.encode_ne_null x
  encode_realFree := PlainJsonForm.encode_realFree x
  encode_unique _ h := encode_injective h

theorem of_reads {P : α → Prop} {x : α} (hx : P x) (hread : ∀ y, P y → decode (encode y) = .ok y)
    (hsame : ∀ y, encode y = encode x → P y) (hnull : encode x ≠ .null) (hfree : (encode x).RealFree) :
    PlainValue x where
  decode_encode := hread x hx
  encode_ne_null := hnull
  encode_realFree := hfree
  encode_unique y h := by
    have hy := hread y (hsame y h)
    rw [h, hread x hx] at hy
    exact (Except.ok.inj hy).symm

theorem map_encode_unique {xs ys : List α} (h : ∀ x ∈ xs, PlainValue x) (hys : ys.map encode = xs.map encode) :
    ys = xs := by
  induction xs generalizing ys with
  | nil => exact List.map_eq_nil_iff.1 hys
  | cons x xs ih =>
      obtain ⟨hx, hxs⟩ := List.forall_mem_cons.1 h
      cases ys with
      | nil => cases hys
      | cons y ys =>
          obtain ⟨hy, hys⟩ := List.cons.inj hys
          rw [hx.encode_unique y hy, ih hxs hys]

theorem list {xs : List α} (h : ∀ x ∈ xs, PlainValue x) : PlainValue xs where
  decode_encode := by
    show decodeItems decode (xs.map encode) = .ok xs
    induction xs with
    | nil => rfl
    | cons x xs ih =>
        obtain ⟨hx, hxs⟩ := List.forall_mem_cons.1 h
        simp only [List.map_cons, decodeItems, hx.decode_encode, ih hxs, bind_ok]
        rfl
  encode_ne_null h := by cases h
  encode_realFree := by
    show Json.RealFreeItems (xs.map encode)
    induction xs with
    | nil => trivial
    | cons x xs ih =>
        obtain ⟨hx, hxs⟩ := List.forall_mem_cons.1 h
        exact ⟨hx.encode_realFree, ih hxs⟩
  encode_unique _ hys := map_encode_unique h (Json.arr.inj hys)

def Members (v : Option α) : Prop := ∀ x, v = some x → PlainValue x

theorem members_none : Members (none : Option α) := fun _ hy => by cases hy

theorem members_some {x : α} (h : PlainValue x) : Members (some x) := fun _ hy => Option.some.inj hy ▸ h

theorem Members.of_form [PlainJsonForm α] (v : Option α) : Members v := fun x _ => .of_form x

theorem Members.readOptional {v : Option α} (h : Members v) : Fields.readOptional (v.map encode) = .ok v := by
  cases v with
  | none => rfl
  | some x =>
      have hx := h x rfl
      rw [Option.map_some, Fields.readOptional_some hx.encode_ne_null, hx.decode_encode]
      rfl

theorem Members.realFree {v : Option α} (h : Members v) : Json.RealFreeMember (v.map encode) := by
  intro j hj
  obtain ⟨x, hx, rfl⟩ := Option.map_eq_some_iff.1 hj
  exact (h x hx).encode_realFree

theorem Members.unique {v w : Option α} (h : Members v) (hw : w.map encode = v.map encode) : w = v := by
  cases v with
  | none => simpa using hw
  | some x =>
      obtain ⟨y, rfl, hy⟩ := Option.map_eq_some_iff.1 hw
      rw [(h x rfl).encode_unique y hy]

end PlainValue

end EnvironmentOperator
