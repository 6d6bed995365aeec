import EnvironmentOperator.Json.Zero

namespace EnvironmentOperator

namespace Json

mutual

def RealFree : Json → Prop
  | .real _ => False
  | .arr items => RealFreeItems items
  | .obj fields => RealFreeFields fields
  | _ => True

def RealFreeItems : List Json → Prop
  | [] => True
  | j :: rest => RealFree j ∧ RealFreeItems rest

def RealFreeFields : List (String × Json) → Prop
  | [] => True
  | (_, j) :: rest => RealFree j ∧ RealFreeFields rest

end

mutual

theorem eq_of_unsignedZeros : ∀ {a b : Json}, RealFree b → unsignedZeros a = unsignedZeros b → a = b
  | .null, b, hb, h => by cases b <;> simp_all [unsignedZeros]
  | .bool x, b, hb, h => by cases b <;> simp_all [unsignedZeros]
  | .int n, b, hb, h => by cases b <;> simp_all [unsignedZeros]
  | .real x, b, hb, h => by cases b <;> simp_all [unsignedZeros, RealFree]
  | .str s, b, hb, h => by cases b <;> simp_all [unsignedZeros]
  | .arr items, b, hb, h => by
      cases b with
      | arr items' =>
          simp only [unsignedZeros, Json.arr.injEq] at h
          rw [eq_of_unsignedZerosItems hb h]
      | _ => simp_all [unsignedZeros]
  | .obj fields, b, hb, h => by
      cases b with
      | obj fields' =>
          simp only [unsignedZeros, Json.obj.injEq] at h
          rw [eq_of_unsignedZerosFields hb h]
      | _ => simp_all [unsignedZeros]

theorem eq_of_unsignedZerosItems :
    ∀ {a b : List Json}, RealFreeItems b → unsignedZerosItems a = unsignedZerosItems b → a = b
  | [], b, _, h => by cases b <;> simp_all [unsignedZerosItems]
  | x :: xs, b, hb, h => by
      cases b with
      | nil => simp [unsignedZerosItems] at h
      | cons y ys =>
          simp only [unsignedZerosItems, List.cons.injEq] at h
          rw [eq_of_unsignedZeros hb.1 h.1, eq_of_unsignedZerosItems hb.2 h.2]

theorem eq_of_unsignedZerosFields :
    ∀ {a b : List (String × Json)}, RealFreeFields b → unsignedZerosFields a = unsignedZerosFields b → a = b
  | [], b, _, h => by cases b <;> simp_all [unsignedZerosFields]
  | (k, x) :: xs, b, hb, h => by
      cases b with
      | nil => simp [unsignedZerosFields] at h
      | cons e ys =>
          obtain ⟨l, y⟩ := e
          simp only [unsignedZerosFields, List.cons.injEq, Prod.mk.injEq] at h
          rw [h.1.1, eq_of_unsignedZeros hb.1 h.1.2, eq_of_unsignedZerosFields hb.2 h.2]

end

theorem length_unsignedZerosFields (fields : Fields) : (unsignedZerosFields fields).length = fields.length := by
  induction fields with
  | nil => rfl
  | cons e rest ih => simp [unsignedZerosFields, ih]

theorem at?_unsignedZerosFields (fields : Fields) (k : String) :
    Dict.at? (unsignedZerosFields fields) k = (Dict.at? fields k).map unsignedZeros := by
  induction fields with
  | nil => rfl
  | cons e rest ih =>
      obtain ⟨l, j⟩ := e
      by_cases hk : k = l <;> simp [unsignedZerosFields, hk, ih]

theorem fields_of_unsignedZeros_obj {j : Json} {fields : Fields}
    (h : unsignedZeros j = .obj (unsignedZerosFields fields)) :
    ∃ g, j = .obj g ∧ unsignedZerosFields g = unsignedZerosFields fields := by
  cases j with
  | obj g => exact ⟨g, rfl, by simpa [unsignedZeros] using h⟩
  | _ => simp [unsignedZeros] at h

theorem Same.symm {a b : Json} (h : Same a b) : Same b a := Eq.symm h

theorem Same.trans {a b c : Json} (h : Same a b) (h' : Same b c) : Same a c := Eq.trans h h'

theorem Same.eq {a b : Json} (h : Same a b) (hb : RealFree b) : a = b := eq_of_unsignedZeros hb h

theorem isObject_unsignedZeros (j : Json) : j.unsignedZeros.isObject = j.isObject := by cases j <;> rfl

theorem member?_unsignedZeros (j : Json) (k : String) : j.unsignedZeros.member? k = (j.member? k).map unsignedZeros := by
  cases j with
  | obj fields => exact at?_unsignedZerosFields fields k
  | _ => rfl

theorem Same.member?_map {a b : Json} (h : Same a b) (k : String) :
    (a.member? k).map unsignedZeros = (b.member? k).map unsignedZeros := by
  rw [← member?_unsignedZeros, ← member?_unsignedZeros]
  exact congrArg (member? · k) h

theorem Same.member?_eq {a b : Json} (h : Same a b) {k : String} (hb : ∀ j, b.member? k = some j → RealFree j) :
    a.member? k = b.member? k := by
  have hk := h.member?_map k
  cases hbk : b.member? k with
  | none =>
      rw [hbk] at hk
      simpa using hk
  | some j =>
      rw [hbk] at hk
      obtain ⟨i, hi, hij⟩ := Option.map_eq_some_iff.1 hk
      rw [hi, eq_of_unsignedZeros (hb j hbk) hij]

end Json

namespace Fields

open Json

def Same (a b : Fields) : Prop := unsignedZerosFields a = unsignedZerosFields b

theorem same_obj {a b : Fields} : Json.Same (.obj a) (.obj b) ↔ Same a b := by
  simp [Json.Same, unsignedZeros, Same]

theorem Same.at?_map {a b : Fields} (h : Same a b) (k : String) :
    (Dict.at? a k).map unsignedZeros = (Dict.at? b k).map unsignedZeros :=
  (same_obj.2 h).member?_map k

theorem Same.at?_eq {a b : Fields} (h : Same a b) {k : String} (hb : ∀ j, Dict.at? b k = some j → RealFree j) :
    Dict.at? a k = Dict.at? b k :=
  (same_obj.2 h).member?_eq hb

theorem Same.symm {a b : Fields} (h : Same a b) : Same b a := Eq.symm h

theorem Same.length_eq {a b : Fields} (h : Same a b) : a.length = b.length := by
  rw [← length_unsignedZerosFields a, ← length_unsignedZerosFields b]
  exact congrArg List.length h

end Fields

end EnvironmentOperator
