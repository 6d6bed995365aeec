import EnvironmentOperator.Environment.Spec
import EnvironmentOperator.Proofs.Json.Zero

namespace EnvironmentOperator

variable {α β : Type}

def Agree (r r' : Except DecodeError α) : Prop := r.toOption = r'.toOption

namespace Agree

theorem refl (r : Except DecodeError α) : Agree r r := rfl

theorem bind {r r' : Except DecodeError α} {f f' : α → Except DecodeError β} (h : Agree r r')
    (hf : ∀ x, Agree (f x) (f' x)) : Agree (r >>= f) (r' >>= f') := by
  cases r with
  | error e =>
      cases r' with
      | error e' => rfl
      | ok x' => cases h
  | ok x =>
      cases r' with
      | error e' => cases h
      | ok x' =>
          cases h
          exact hf x

theorem bind_left {r r' : Except DecodeError α} (h : Agree r r') (f : α → Except DecodeError β) :
    Agree (r >>= f) (r' >>= f) := h.bind fun _ => .refl _

theorem map {r r' : Except DecodeError α} (h : Agree r r') (f : α → β) : Agree (r.map f) (r'.map f) := by
  cases r <;> cases r' <;> cases h <;> rfl

theorem ok {r r' : Except DecodeError α} (h : Agree r r') {x : α} (hx : r = .ok x) : r' = .ok x := by
  rw [hx] at h
  cases r' with
  | error e => cases h
  | ok x' =>
      cases h
      rfl

end Agree

class ZeroBlind (α : Type) [JsonForm α] : Prop where
  agree : ∀ {i j : Json}, i.unsignedZeros = j.unsignedZeros → Agree (decode i : Except DecodeError α) (decode j)

open Json

theorem getElem?_unsignedZerosItems (items : List Json) (n : Nat) :
    (unsignedZerosItems items)[n]? = items[n]?.map unsignedZeros := by
  induction items generalizing n with
  | nil => rfl
  | cons j rest ih =>
      cases n with
      | zero => rfl
      | succ n => exact ih n

theorem length_unsignedZerosItems (items : List Json) : (unsignedZerosItems items).length = items.length := by
  induction items with
  | nil => rfl
  | cons j rest ih => simp [unsignedZerosItems, ih]

section Members

variable [JsonForm α] [ZeroBlind α] {m m' : Fields} {items items' : List Json}

theorem Fields.Same.given (h : Fields.Same m m') (key : String) :
    Agree (Fields.given m key : Except DecodeError (Option α)) (Fields.given m' key) := by
  have hkey := h.at?_map key
  unfold Fields.given
  cases hm : Dict.at? m key with
  | none =>
      rw [hm] at hkey
      rw [Option.map_eq_none_iff.1 hkey.symm]
      exact .refl _
  | some i =>
      rw [hm] at hkey
      obtain ⟨j, hj, hsame⟩ := Option.map_eq_some_iff.1 hkey.symm
      rw [hj]
      exact (ZeroBlind.agree hsame.symm).map some

theorem Positions.agree_getElem? (h : unsignedZerosItems items = unsignedZerosItems items') (n : Nat)
    (otherwise : Except DecodeError α) :
    Agree (match items[n]? with | some j => decode j | none => otherwise)
      (match items'[n]? with | some j => decode j | none => otherwise) := by
  have hn : items[n]?.map unsignedZeros = items'[n]?.map unsignedZeros := by
    rw [← getElem?_unsignedZerosItems, ← getElem?_unsignedZerosItems, h]
  cases hi : items[n]? with
  | none =>
      rw [hi] at hn
      rw [Option.map_eq_none_iff.1 hn.symm]
      exact .refl _
  | some i =>
      rw [hi] at hn
      obtain ⟨j, hj, hsame⟩ := Option.map_eq_some_iff.1 hn.symm
      rw [hj]
      exact ZeroBlind.agree hsame.symm

theorem Positions.agree_element (h : unsignedZerosItems items = unsignedZerosItems items') (wanted : String) (n : Nat) :
    Agree (Positions.element wanted items n : Except DecodeError α) (Positions.element wanted items' n) :=
  agree_getElem? h n (.error (.wrongLength n wanted))

theorem Positions.agree_elementOr (h : unsignedZerosItems items = unsignedZerosItems items') (n : Nat) (default : α) :
    Agree (Positions.elementOr items n default) (Positions.elementOr items' n default) :=
  agree_getElem? h n (.ok default)

omit [JsonForm α] [ZeroBlind α] in
theorem Positions.agree_exhausted (h : unsignedZerosItems items = unsignedZerosItems items') (n : Nat) :
    Agree (Positions.exhausted items n) (Positions.exhausted items' n) := by
  have hlength : items.length = items'.length := by
    rw [← length_unsignedZerosItems items, h, length_unsignedZerosItems]
  unfold Positions.exhausted
  rw [hlength]
  exact .refl _

end Members

theorem agree_decodeRecord {wanted : String} {byName : Fields → Except DecodeError α}
    {byPosition : List Json → Except DecodeError α} (hname : ∀ {m m'}, Fields.Same m m' → Agree (byName m) (byName m'))
    (hposition : ∀ {items items'}, unsignedZerosItems items = unsignedZerosItems items' →
      Agree (byPosition items) (byPosition items')) {i j : Json} (h : i.unsignedZeros = j.unsignedZeros) :
    Agree (decodeRecord wanted byName byPosition i) (decodeRecord wanted byName byPosition j) := by
  cases i <;> cases j <;> simp only [unsignedZeros, reduceCtorEq, Json.obj.injEq, Json.arr.injEq] at h
  case obj.obj => exact hname h
  case arr.arr => exact hposition h
  all_goals rfl

instance : ZeroBlind String where
  agree {i j} h := by
    cases i <;> cases j <;> simp only [unsignedZeros, reduceCtorEq, Json.str.injEq] at h
    case str.str =>
      rw [h]
      exact .refl _
    all_goals rfl

section Collections

variable [JsonForm α] [ZeroBlind α]

theorem agree_decodeItems : ∀ {items items' : List Json}, unsignedZerosItems items = unsignedZerosItems items' →
    Agree (decodeItems (decode : Json → Except DecodeError α) items) (decodeItems decode items')
  | [], [], _ => .refl _
  | [], _ :: _, h => by cases h
  | _ :: _, [], h => by cases h
  | _ :: _, _ :: _, h => by
      simp only [unsignedZerosItems, List.cons.injEq] at h
      exact (ZeroBlind.agree h.1).bind fun _ => (agree_decodeItems h.2).bind_left _

theorem agree_decodeEntries : ∀ {m m' : Fields}, Fields.Same m m' →
    Agree (decodeEntries (decode : Json → Except DecodeError α) m) (decodeEntries decode m')
  | [], [], _ => .refl _
  | [], _ :: _, h => by cases h
  | _ :: _, [], h => by cases h
  | (_, _) :: _, (_, _) :: _, h => by
      simp only [Fields.Same, unsignedZerosFields, List.cons.injEq, Prod.mk.injEq] at h
      rw [h.1.1]
      exact (ZeroBlind.agree h.1.2).bind fun _ => (agree_decodeEntries h.2).bind_left _

instance : ZeroBlind (List α) where
  agree {i j} h := by
    cases i <;> cases j <;> simp only [unsignedZeros, reduceCtorEq, Json.arr.injEq] at h
    case arr.arr => exact agree_decodeItems h
    all_goals rfl

instance : ZeroBlind (Named α) where
  agree {i j} h := by
    cases i <;> cases j <;> simp only [unsignedZeros, reduceCtorEq, Json.obj.injEq] at h
    case obj.obj => exact (agree_decodeEntries h).map Named.mk
    all_goals rfl

end Collections

section Records

open Positions

variable {m m' : Fields} {items items' : List Json}

theorem Dependency.agree_ofFields (h : Fields.Same m m') : Agree (Dependency.ofFields m) (Dependency.ofFields m') :=
  (h.given "name").bind fun _ => (h.given "version").bind_left _

theorem Dependency.agree_ofItems (h : unsignedZerosItems items = unsignedZerosItems items') :
    Agree (Dependency.ofItems items) (Dependency.ofItems items') :=
  (agree_element h _ 0).bind fun _ => (agree_elementOr h 1 "").bind fun _ => (agree_exhausted h 2).bind_left _

instance : ZeroBlind Dependency where
  agree h := agree_decodeRecord Dependency.agree_ofFields Dependency.agree_ofItems h

theorem Database.agree_ofFields (h : Fields.Same m m') : Agree (Database.ofFields m) (Database.ofFields m') :=
  (h.given "type").bind fun _ => (h.given "version").bind_left _

theorem Database.agree_ofItems (h : unsignedZerosItems items = unsignedZerosItems items') :
    Agree (Database.ofItems items) (Database.ofItems items') :=
  (agree_elementOr h 0 "").bind fun _ => (agree_elementOr h 1 "latest").bind fun _ => (agree_exhausted h 2).bind_left _

instance : ZeroBlind Database where
  agree h := agree_decodeRecord Database.agree_ofFields Database.agree_ofItems h

theorem Ide.agree_ofFields (h : Fields.Same m m') : Agree (Ide.ofFields m) (Ide.ofFields m') :=
  (h.given "extensions").bind fun _ => (h.given "passwordSecret").bind fun _ => (h.given "settings").bind fun _ =>
    (h.given "type").bind_left _

theorem Ide.agree_ofItems (h : unsignedZerosItems items = unsignedZerosItems items') :
    Agree (Ide.ofItems items) (Ide.ofItems items') :=
  (agree_elementOr h 0 "").bind fun _ => (agree_elementOr h 1 []).bind fun _ =>
    (agree_elementOr h 2 (⟨[]⟩ : Named String)).bind fun _ => (agree_elementOr h 3 "").bind fun _ =>
    (agree_exhausted h 4).bind_left _

instance : ZeroBlind Ide where
  agree h := agree_decodeRecord Ide.agree_ofFields Ide.agree_ofItems h

theorem EnvironmentSpec.agree_ofFields (h : Fields.Same m m') :
    Agree (EnvironmentSpec.ofFields m) (EnvironmentSpec.ofFields m') :=
  (h.given "database").bind fun _ => (h.given "dependencies").bind fun _ => (h.given "ide").bind fun _ =>
    (h.given "language").bind fun _ => (h.given "version").bind_left _

theorem EnvironmentSpec.agree_ofItems (h : unsignedZerosItems items = unsignedZerosItems items') :
    Agree (EnvironmentSpec.ofItems items) (EnvironmentSpec.ofItems items') :=
  (agree_element h _ 0).bind fun _ => (agree_elementOr h 1 "").bind fun _ =>
    (agree_elementOr h 2 ({} : Ide)).bind fun _ => (agree_elementOr h 3 ({} : Database)).bind fun _ =>
    (agree_elementOr h 4 []).bind fun _ => (agree_exhausted h 5).bind_left _

instance : ZeroBlind EnvironmentSpec where
  agree h := agree_decodeRecord EnvironmentSpec.agree_ofFields EnvironmentSpec.agree_ofItems h

end Records

end EnvironmentOperator
