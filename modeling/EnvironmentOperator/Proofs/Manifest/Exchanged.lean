import EnvironmentOperator.Proofs.Manifest.Members
import EnvironmentOperator.Proofs.Time.Lenient
import Mathlib.Tactic.Tauto
/-!
Values that hold instants, as they are exchanged: what is written reads back with its instants in whole seconds, as long
as they are instants of the calendar, and whatever can be read is of that sort. A set of managed fields that is null
reads back as none at all.
-/
namespace EnvironmentOperator

class ExchangeForm (α : Type) [JsonForm α] where
  instants : α → List Instant
  fieldSets : α → List Json
  exchanged : α → α
  encode_ne_null : ∀ x : α, encode x ≠ .null
  decode_encode : ∀ x, (∀ t ∈ instants x, t.Recordable) → decode (encode x) = .ok (exchanged x)
  encode_exchanged : ∀ x, (∀ j ∈ fieldSets x, j ≠ .null) → encode (exchanged x) = encode x
  exchanged_eq_iff : ∀ x, exchanged x = x ↔
    (∀ t ∈ instants x, t.wholeSeconds = t) ∧ ∀ j ∈ fieldSets x, j ≠ .null
  of_decode : ∀ {j x}, decode j = .ok x → (∀ t ∈ instants x, t.Recordable) ∧ ∀ j ∈ fieldSets x, j ≠ .null

namespace ExchangeForm

instance : ExchangeForm Instant where
  instants t := [t]
  fieldSets _ := []
  exchanged := Instant.wholeSeconds
  encode_ne_null _ h := by cases h
  decode_encode _ h := (List.forall_mem_singleton.1 h).decode_encode
  encode_exchanged t _ := t.encode_wholeSeconds
  exchanged_eq_iff t := by simp
  of_decode h := ⟨List.forall_mem_singleton.2 (Instant.recordable_of_decode h), by simp⟩

@[reducible] def ofPlain (α : Type) [JsonForm α] [PlainJsonForm α] : ExchangeForm α where
  instants _ := []
  fieldSets _ := []
  exchanged x := x
  encode_ne_null := PlainJsonForm.encode_ne_null
  decode_encode x _ := LawfulJsonForm.decode_encode x
  encode_exchanged _ _ := rfl
  exchanged_eq_iff _ := by simp
  of_decode _ := by simp

section Lists

variable {α : Type} [JsonForm α] [ExchangeForm α]

theorem decodeItems_encode {xs : List α} (h : ∀ x ∈ xs, ∀ t ∈ instants x, t.Recordable) :
    decodeItems decode (xs.map encode) = .ok (xs.map exchanged) := by
  induction xs with
  | nil => rfl
  | cons x xs ih =>
      obtain ⟨hx, hxs⟩ := List.forall_mem_cons.1 h
      simp only [List.map_cons, decodeItems, decode_encode x hx, bind_ok, ih hxs]
      rfl

theorem of_decodeItems {items : List Json} {xs : List α} (h : decodeItems decode items = .ok xs) :
    ∀ x ∈ xs, (∀ t ∈ instants x, t.Recordable) ∧ ∀ j ∈ fieldSets x, j ≠ .null := by
  induction items generalizing xs with
  | nil =>
      cases h
      simp
  | cons j rest ih =>
      simp only [decodeItems, bind_eq_ok] at h
      obtain ⟨x, hx, ys, hys, h⟩ := h
      cases h
      exact List.forall_mem_cons.2 ⟨of_decode hx, ih hys⟩

theorem map_exchanged_eq_iff {xs : List α} : xs.map exchanged = xs ↔ ∀ x ∈ xs, exchanged x = x := by
  conv_lhs => rhs; rw [← List.map_id xs]
  exact List.map_inj_left

instance : ExchangeForm (List α) where
  instants xs := xs.flatMap instants
  fieldSets xs := xs.flatMap fieldSets
  exchanged xs := xs.map exchanged
  encode_ne_null _ h := by cases h
  decode_encode xs h := decodeItems_encode (List.forall_mem_flatMap.1 h)
  encode_exchanged xs h := by
    refine congrArg Json.arr ?_
    rw [List.map_map]
    exact List.map_congr_left fun x hx => encode_exchanged x (List.forall_mem_flatMap.1 h x hx)
  exchanged_eq_iff xs := by
    rw [map_exchanged_eq_iff, List.forall_mem_flatMap, List.forall_mem_flatMap]
    simp only [exchanged_eq_iff, forall_and]
  of_decode {j xs} h := by
    cases j with
    | arr items =>
        have hxs := of_decodeItems h
        exact ⟨List.forall_mem_flatMap.2 fun x hx => (hxs x hx).1, List.forall_mem_flatMap.2 fun x hx => (hxs x hx).2⟩
    | _ => cases h

end Lists

section Members

variable {α : Type} [JsonForm α] [ExchangeForm α] {v : Option α}

theorem readOptional_encode (h : ∀ t ∈ v.toList.flatMap instants, t.Recordable) :
    Fields.readOptional (v.map encode) = .ok (v.map exchanged) :=
  Fields.optionalBy_map encode_ne_null fun x hx =>
    decode_encode x (List.forall_mem_flatMap.1 h x (Option.mem_toList.2 hx))

theorem map_encode_exchanged (h : ∀ j ∈ v.toList.flatMap fieldSets, j ≠ .null) :
    (v.map exchanged).map encode = v.map encode := by
  rw [Option.map_map]
  exact Option.map_congr fun x hx => encode_exchanged x (List.forall_mem_flatMap.1 h x (Option.mem_toList.2 hx))

theorem member_exchanged_eq_iff : v.map exchanged = v ↔
    (∀ t ∈ v.toList.flatMap instants, t.wholeSeconds = t) ∧ ∀ j ∈ v.toList.flatMap fieldSets, j ≠ .null := by
  cases v with
  | none => simp
  | some x => simp [exchanged_eq_iff]

variable (v) in
def Settled : Prop := (∀ t ∈ v.toList.flatMap instants, t.Recordable) ∧ ∀ j ∈ v.toList.flatMap fieldSets, j ≠ .null

theorem settled_none : Settled (none : Option α) := by simp [Settled]

theorem settled_of_readOptional {member : Option Json} (h : Fields.readOptional member = .ok v) : Settled v := by
  cases v with
  | none => exact settled_none
  | some x =>
      obtain ⟨j, hj⟩ := Fields.decode_of_readOptional h
      simpa [Settled] using of_decode hj

theorem settled_of_default {member : Option Json} {x default : α} (hdefault : Settled (some default))
    (h : (Fields.readOptional member).map (·.getD default) = .ok x) : Settled (some x) := by
  cases hread : (Fields.readOptional member : Except DecodeError (Option α)) with
  | error e =>
      rw [hread] at h
      cases h
  | ok given =>
      rw [hread] at h
      cases h
      cases given with
      | none => exact hdefault
      | some y => exact settled_of_readOptional hread

theorem settled_of_require {field : String} {x : α} (hv : Settled v) (h : require field v = .ok x) :
    Settled (some x) := by
  cases v with
  | none => cases h
  | some y =>
      cases h
      exact hv

end Members

end ExchangeForm

structure ExchangeParts (α β γ : Type) [JsonForm α] [JsonForm β] [JsonForm γ] [ExchangeForm β] [ExchangeForm γ] where
  left : α → Option β
  right : α → Option γ
  put : α → Option β → Option γ → α
  put_self : ∀ x, put x (left x) (right x) = x := by exact fun _ => rfl
  left_put : ∀ x, left (put x ((left x).map ExchangeForm.exchanged) ((right x).map ExchangeForm.exchanged)) =
    (left x).map ExchangeForm.exchanged := by exact fun _ => rfl
  right_put : ∀ x, right (put x ((left x).map ExchangeForm.exchanged) ((right x).map ExchangeForm.exchanged)) =
    (right x).map ExchangeForm.exchanged := by exact fun _ => rfl
  encode_ne_null : ∀ x : α, encode x ≠ .null := by exact fun _ => nofun
  decode_encode : ∀ x, Fields.readOptional ((left x).map encode) = .ok ((left x).map ExchangeForm.exchanged) →
    Fields.readOptional ((right x).map encode) = .ok ((right x).map ExchangeForm.exchanged) →
      decode (encode x) = .ok (put x ((left x).map ExchangeForm.exchanged) ((right x).map ExchangeForm.exchanged))
  encode_put : ∀ x b c, b.map encode = (left x).map encode → c.map encode = (right x).map encode →
    encode (put x b c) = encode x
  of_decode : ∀ {j x}, decode j = .ok x → ExchangeForm.Settled (left x) ∧ ExchangeForm.Settled (right x)

namespace ExchangeParts

variable {α β γ : Type} [JsonForm α] [JsonForm β] [JsonForm γ] [ExchangeForm β] [ExchangeForm γ]

open ExchangeForm in
@[reducible] def exchangeForm (p : ExchangeParts α β γ) : ExchangeForm α where
  instants x := (p.left x).toList.flatMap instants ++ (p.right x).toList.flatMap instants
  fieldSets x := (p.left x).toList.flatMap fieldSets ++ (p.right x).toList.flatMap fieldSets
  exchanged x := p.put x ((p.left x).map exchanged) ((p.right x).map exchanged)
  encode_ne_null := p.encode_ne_null
  decode_encode x h := by
    obtain ⟨hleft, hright⟩ := List.forall_mem_append.1 h
    exact p.decode_encode x (readOptional_encode hleft) (readOptional_encode hright)
  encode_exchanged x h := by
    obtain ⟨hleft, hright⟩ := List.forall_mem_append.1 h
    exact p.encode_put x _ _ (map_encode_exchanged hleft) (map_encode_exchanged hright)
  exchanged_eq_iff x := by
    have hparts : p.put x ((p.left x).map exchanged) ((p.right x).map exchanged) = x ↔
        (p.left x).map exchanged = p.left x ∧ (p.right x).map exchanged = p.right x := by
      constructor
      · intro h
        have hleft := p.left_put x
        have hright := p.right_put x
        rw [h] at hleft hright
        exact ⟨hleft.symm, hright.symm⟩
      · rintro ⟨hleft, hright⟩
        rw [hleft, hright, p.put_self]
    rw [hparts, member_exchanged_eq_iff, member_exchanged_eq_iff, List.forall_mem_append, List.forall_mem_append]
    tauto
  of_decode h := by
    obtain ⟨hleft, hright⟩ := p.of_decode h
    exact ⟨List.forall_mem_append.2 ⟨hleft.1, hright.1⟩, List.forall_mem_append.2 ⟨hleft.2, hright.2⟩⟩

end ExchangeParts

structure ExchangePart (α β : Type) [JsonForm α] [JsonForm β] [ExchangeForm β] where
  part : α → Option β
  put : α → Option β → α
  put_self : ∀ x, put x (part x) = x := by exact fun _ => rfl
  part_put : ∀ x, part (put x ((part x).map ExchangeForm.exchanged)) = (part x).map ExchangeForm.exchanged := by
    exact fun _ => rfl
  encode_ne_null : ∀ x : α, encode x ≠ .null := by exact fun _ => nofun
  decode_encode : ∀ x, Fields.readOptional ((part x).map encode) = .ok ((part x).map ExchangeForm.exchanged) →
    decode (encode x) = .ok (put x ((part x).map ExchangeForm.exchanged))
  encode_put : ∀ x b, b.map encode = (part x).map encode → encode (put x b) = encode x
  of_decode : ∀ {j x}, decode j = .ok x → ExchangeForm.Settled (part x)

namespace ExchangePart

variable {α β : Type} [JsonForm α] [JsonForm β] [ExchangeForm β]

@[reducible] def exchangeForm (p : ExchangePart α β) : ExchangeForm α :=
  ExchangeParts.exchangeForm {
    left := p.part
    right := fun _ => (none : Option Instant)
    put := fun x b _ => p.put x b
    put_self := p.put_self
    left_put := p.part_put
    right_put := fun _ => rfl
    encode_ne_null := p.encode_ne_null
    decode_encode := fun x h _ => p.decode_encode x h
    encode_put := fun x b _ h _ => p.encode_put x b h
    of_decode := fun h => ⟨p.of_decode h, ExchangeForm.settled_none⟩ }

end ExchangePart

end EnvironmentOperator
