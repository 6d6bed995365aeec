import EnvironmentOperator.Cluster

namespace EnvironmentOperator

namespace Object

def title (o : Object) : String :=
  let typeText := match o.types with
    | some t => t.apiVersion ++ " " ++ t.kind
    | none => "?"
  typeText ++ " " ++ Address.place o.metadata.namespace o.metadata.nameText

def unnumbered (o : Object) : Object :=
  { o with metadata := { o.metadata with resourceVersion := none, uid := none } }

end Object

inductive Difference where
  | added (o : Object)
  | changed (o : Object)
  | removed (title : String)
deriving DecidableEq

namespace Cluster

/-- Of two objects with one title the later in store order stands. -/
def byTitle (c : Cluster) : Dict String Object := Dict.ofList (c.objects.map (fun e => (e.2.title, e.2)))

def differences (view : Object → Json) (before after : Cluster) : List Difference :=
  let old := before.byTitle
  let new := after.byTitle
  let kept := new.filterMap (fun e =>
    match Dict.at? old e.1 with
    | none => some (.added e.2)
    | some o => if view o = view e.2 then none else some (.changed e.2))
  let gone := (Dict.keys old).filter (fun title => !Dict.has new title)
  kept ++ gone.map .removed

theorem differences_self (view : Object → Json) (c : Cluster)
    (h : ∀ e ∈ c.byTitle, Dict.at? c.byTitle e.1 = some e.2) : differences view c c = [] := by
  have hk : (c.byTitle.filterMap fun e =>
      match Dict.at? c.byTitle e.1 with
      | none => some (Difference.added e.2)
      | some o => if view o = view e.2 then none else some (.changed e.2)) = [] := by
    rw [List.filterMap_eq_nil_iff]
    intro e he
    simp [h e he]
  have hg : (Dict.keys c.byTitle).filter (fun title => !Dict.has c.byTitle title) = [] := by
    rw [List.filter_eq_nil_iff]
    intro k hk
    obtain ⟨e, he, rfl⟩ := List.mem_map.1 hk
    simp [Dict.has, h e he]
  simp [differences, hk, hg]

end Cluster

end EnvironmentOperator
