import EnvironmentOperator.Manifest.Kind
import EnvironmentOperator.Manifest.Metadata
/-!
Untyped objects: what every object has, and everything else as it came. Most often that is an object of the other
members, but it may be any value.
-/
namespace EnvironmentOperator

structure TypeMeta where
  apiVersion : String
  kind : String
deriving DecidableEq

namespace Object

def reserved : Option TypeMeta → List String
  | some _ => ["apiVersion", "kind", "metadata"]
  | none => ["metadata"]

def Unreserved (types : Option TypeMeta) (data : Json) : Prop := ∀ key ∈ reserved types, data.member? key = none

instance (types : Option TypeMeta) (data : Json) : Decidable (Unreserved types data) :=
  inferInstanceAs (Decidable (∀ key ∈ reserved types, data.member? key = none))

end Object

structure Object where
  types : Option TypeMeta
  metadata : Metadata
  data : Json
  unreserved : Object.Unreserved types data := by decide
deriving DecidableEq

namespace Object

namespace Unreserved

variable {types : Option TypeMeta} {data : Json}

theorem withStatus (h : Unreserved types data) (status : Json) : Unreserved types (data.withMember "status" status) := by
  intro key hkey
  have hfree : key ≠ "status" := by
    rintro rfl
    cases types <;> simp [reserved] at hkey
  exact (data.member?_withMember status hfree).trans (h key hkey)

theorem fieldsOrEmpty (h : Unreserved types data) : Unreserved types (.obj data.fieldsOrEmpty) := fun key hkey =>
  (data.at?_fieldsOrEmpty key).trans (h key hkey)

theorem of_keys {members : Fields} (h : ∀ e ∈ members, e.1 ∉ reserved types) : Unreserved types (.obj members) := by
  intro key hkey
  rw [Json.member?_obj]
  cases hvalue : Dict.at? members key with
  | none => rfl
  | some value => exact absurd hkey (h _ (Dict.at?_mem hvalue))

theorem of_present {members : List (String × Option Json)} (keys : List String) (hkeys : members.map Prod.fst = keys)
    (h : ∀ key ∈ keys, key ∉ reserved types) : Unreserved types (.obj (Json.present members)) := by
  intro key hkey
  refine Json.at?_present_eq_none fun m hm e => ?_
  exact h m.1 (hkeys ▸ List.mem_map_of_mem hm) (e ▸ hkey)

end Unreserved

def firstText? (before : Option String) (j : Json) : Option String :=
  match j with
  | .str s => if before.isSome then none else some s
  | _ => none

/-- Takes the type out of the members. It is known when `apiVersion` and `kind` are both there, each once and text.
Members that were looked at on the way are not kept, also when the type stays unknown; the looking ends at the
first of the two that is no text or has come before. -/
def typesFrom (apiVersion kind : Option String) :
    List (String × Json) → Option TypeMeta × List (String × Json)
  | [] => ((do return ⟨← apiVersion, ← kind⟩), [])
  | m :: rest =>
      if m.1 = "apiVersion" then
        (firstText? apiVersion m.2).elim (none, rest) (fun s => typesFrom (some s) kind rest)
      else if m.1 = "kind" then
        (firstText? kind m.2).elim (none, rest) (fun s => typesFrom apiVersion (some s) rest)
      else
        let (types, kept) := typesFrom apiVersion kind rest
        (types, m :: kept)

theorem typesFrom_of_absent {members : List (String × Json)}
    (h : ∀ m ∈ members, m.1 ≠ "apiVersion" ∧ m.1 ≠ "kind") (a k : Option String) :
    typesFrom a k members = ((do return ⟨← a, ← k⟩), members) := by
  induction members with
  | nil => rfl
  | cons m rest ih =>
      have hm := h m (List.mem_cons_self ..)
      have ih := ih (fun m hm => h m (List.mem_cons_of_mem _ hm))
      simp only [typesFrom, if_neg hm.1, if_neg hm.2, ih]

theorem typesFrom_kept {members : List (String × Json)} (h : ∀ e ∈ members, e.1 ≠ "metadata")
    (apiVersion kind : Option String) :
    ∀ e ∈ (typesFrom apiVersion kind members).2, e.1 ∉ reserved (typesFrom apiVersion kind members).1 := by
  induction members generalizing apiVersion kind with
  | nil => simp [typesFrom]
  | cons m rest ih =>
      obtain ⟨hm, hrest⟩ := List.forall_mem_cons.1 h
      have hunknown : ∀ e ∈ rest, e.1 ∉ reserved none := fun e he => by simpa [reserved] using hrest e he
      simp only [typesFrom]
      split
      · cases firstText? apiVersion m.2 with
        | none => exact hunknown
        | some s => exact ih hrest (some s) kind
      · split
        · cases firstText? kind m.2 with
          | none => exact hunknown
          | some s => exact ih hrest apiVersion (some s)
        · refine List.forall_mem_cons.2 ⟨?_, ih hrest apiVersion kind⟩
          cases (typesFrom apiVersion kind rest).1 <;> simp_all [reserved]

def splitTypes (members : List (String × Json)) : Option TypeMeta × List (String × Json) :=
  typesFrom none none members

theorem splitTypes_kept {members : List (String × Json)} (h : ∀ e ∈ members, e.1 ≠ "metadata") :
    ∀ e ∈ (splitTypes members).2, e.1 ∉ reserved (splitTypes members).1 :=
  typesFrom_kept h none none

/-- The members beside those that every object has. Null holds none. -/
def members (o : Object) : Except DecodeError Fields :=
  match o.data with
  | .obj fields => .ok fields
  | .null => .ok []
  | j => .error (.notMembers j)

def toFields (o : Object) : Fields :=
  let fields := Dict.put o.data.fieldsOrEmpty "metadata" (encode o.metadata)
  match o.types with
  | some t => Dict.put (Dict.put fields "apiVersion" (.str t.apiVersion)) "kind" (.str t.kind)
  | none => fields

def ofFields (fields : Fields) : Except DecodeError Object := do
  let metadata ← match Dict.at? fields "metadata" with
    | some m => decode m
    | none => .ok {}
  let others := Dict.without fields "metadata"
  return {
    types := (splitTypes others).1
    metadata
    data := .obj (splitTypes others).2
    unreserved := .of_keys (splitTypes_kept fun _ he => of_decide_eq_true (List.mem_filter.1 he).2) }

instance : JsonForm Object where
  encode o := .obj o.toFields
  decode j := do ofFields (← membersOf "struct DynamicObject" j)

/-- The whole object as JSON, where its data can stand beside the other members. -/
def toJson (o : Object) : Except DecodeError Json := o.members.map fun _ => encode o

def stated (o : Object) (key : String) (fromType : TypeMeta → String) : Option Json :=
  match o.types with
  | some t => some (.str (fromType t))
  | none => o.data.member? key

end Object

end EnvironmentOperator
