import EnvironmentOperator.Json

namespace EnvironmentOperator.Json

mutual

def mergePatch (target : Json) : Json → Json
  | .obj patch => .obj (mergeFields target.fieldsOrEmpty patch)
  | j => j

/-- A member that is absent merges as null does. -/
def mergeFields (target : Fields) : List (String × Json) → Fields
  | [] => target
  | (k, .null) :: rest => mergeFields (Dict.without target k) rest
  | (k, j) :: rest => mergeFields (Dict.put target k (mergePatch ((Dict.at? target k).getD .null) j)) rest

end

@[simp] theorem mergePatch_null (t : Json) : mergePatch t .null = .null := by simp [mergePatch]

@[simp] theorem mergePatch_str (t : Json) (s : String) : mergePatch t (.str s) = .str s := by simp [mergePatch]

theorem mergePatch_empty (t : Json) : mergePatch t (.obj []) = .obj t.fieldsOrEmpty := by
  simp [mergePatch, mergeFields]

end EnvironmentOperator.Json
