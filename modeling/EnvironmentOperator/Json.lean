import EnvironmentOperator.Binary64
import EnvironmentOperator.Dict

namespace EnvironmentOperator

inductive Json where
  | null
  | bool (b : Bool)
  | int (n : Int)
  | real (x : Binary64)
  | str (s : String)
  | arr (items : List Json)
  | obj (fields : List (String × Json))

abbrev Fields := Dict String Json

namespace Json

mutual

def same : Json → Json → Bool
  | .null, .null => true
  | .bool a, .bool b => a == b
  | .int a, .int b => a == b
  | .real a, .real b => decide (a = b)
  | .str a, .str b => a == b
  | .arr a, .arr b => sameItems a b
  | .obj a, .obj b => sameFields a b
  | _, _ => false

def sameItems : List Json → List Json → Bool
  | [], [] => true
  | a :: as, b :: bs => same a b && sameItems as bs
  | _, _ => false

def sameFields : List (String × Json) → List (String × Json) → Bool
  | [], [] => true
  | (k, a) :: as, (l, b) :: bs => k == l && same a b && sameFields as bs
  | _, _ => false

end

mutual

theorem same_iff : ∀ a b : Json, same a b = true ↔ a = b
  | .null, b => by cases b <;> simp [same]
  | .bool a, b => by cases b <;> simp [same]
  | .int a, b => by cases b <;> simp [same]
  | .real a, b => by cases b <;> simp [same]
  | .str a, b => by cases b <;> simp [same]
  | .arr a, b => by cases b <;> simp [same, sameItems_iff a]
  | .obj a, b => by cases b <;> simp [same, sameFields_iff a]

theorem sameItems_iff : ∀ a b : List Json, sameItems a b = true ↔ a = b
  | [], b => by cases b <;> simp [sameItems]
  | a :: as, b => by cases b <;> simp [sameItems, same_iff a, sameItems_iff as]

theorem sameFields_iff : ∀ a b : List (String × Json), sameFields a b = true ↔ a = b
  | [], b => by cases b <;> simp [sameFields]
  | (k, a) :: as, b => by
      cases b with
      | nil => simp [sameFields]
      | cons e bs => obtain ⟨l, b⟩ := e; simp [sameFields, same_iff a, sameFields_iff as, and_assoc]

end

instance : DecidableEq Json := fun a b => decidable_of_iff _ (same_iff a b)

instance : Inhabited Json := ⟨.null⟩

def isNull : Json → Bool
  | .null => true
  | _ => false

def isObject : Json → Bool
  | .obj _ => true
  | _ => false

def fields? : Json → Option Fields
  | .obj fields => some fields
  | _ => none

def member? (j : Json) (key : String) : Option Json :=
  match j with
  | .obj fields => Dict.at? fields key
  | _ => none

def fieldsOrEmpty : Json → Fields
  | .obj fields => fields
  | _ => []

/-- What is no object stays as it is, as there is nowhere to put a member. -/
def withMember (j : Json) (key : String) (value : Json) : Json :=
  match j with
  | .obj fields => .obj (Dict.put fields key value)
  | j => j

def withoutMember (j : Json) (key : String) : Json :=
  match j with
  | .obj fields => .obj (Dict.without fields key)
  | j => j

@[simp] theorem member?_obj (fields : Fields) (key : String) : (Json.obj fields).member? key = Dict.at? fields key := rfl

theorem at?_fieldsOrEmpty (j : Json) (key : String) : Dict.at? j.fieldsOrEmpty key = j.member? key := by
  cases j <;> rfl

theorem member?_withMember (j : Json) {key key' : String} (value : Json) (h : key' ≠ key) :
    (j.withMember key value).member? key' = j.member? key' := by
  cases j with
  | obj fields => exact (Dict.at?_put fields key key' value).trans (if_neg h)
  | _ => rfl

/-- The object with these members, in order of name; of two members of one name the later stands. -/
def object (members : List (String × Json)) : Json := .obj (Dict.ofList members)

def present (members : List (String × Option Json)) : Fields :=
  members.filterMap (fun m => m.2.map (fun v => (m.1, v)))

def record (members : List (String × Option Json)) : Json := .obj (present members)

mutual

def Ordered : Json → Prop
  | .arr items => OrderedItems items
  | .obj fields => Dict.Ordered (κ := String) fields ∧ OrderedFields fields
  | _ => True

def OrderedItems : List Json → Prop
  | [] => True
  | j :: rest => Ordered j ∧ OrderedItems rest

def OrderedFields : List (String × Json) → Prop
  | [] => True
  | (_, j) :: rest => Ordered j ∧ OrderedFields rest

end

theorem present_cons_none (k : String) (rest : List (String × Option Json)) :
    present ((k, none) :: rest) = present rest := rfl

theorem present_cons_some (k : String) (j : Json) (rest : List (String × Option Json)) :
    present ((k, some j) :: rest) = (k, j) :: present rest := rfl

theorem at?_present_eq_none {members : List (String × Option Json)} {key : String}
    (h : ∀ m ∈ members, m.1 ≠ key) : Dict.at? (present members) key = none := by
  induction members with
  | nil => rfl
  | cons m rest ih =>
      obtain ⟨k, v⟩ := m
      have hk : key ≠ k := fun e => h (k, v) (List.mem_cons_self ..) e.symm
      have ih := ih (fun m hm => h m (List.mem_cons_of_mem _ hm))
      cases v with
      | none => rw [present_cons_none]; exact ih
      | some j => rw [present_cons_some, Dict.at?_cons, if_neg hk]; exact ih

end Json

end EnvironmentOperator
