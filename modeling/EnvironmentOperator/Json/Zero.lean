import EnvironmentOperator.Json

namespace EnvironmentOperator

def Binary64.unsignedZero : Binary64 → Binary64
  | .finite s m e => .finite (s && decide (m ≠ 0)) m e
  | x => x

namespace Json

mutual

def unsignedZeros : Json → Json
  | .real x => .real x.unsignedZero
  | .arr items => .arr (unsignedZerosItems items)
  | .obj fields => .obj (unsignedZerosFields fields)
  | j => j

def unsignedZerosItems : List Json → List Json
  | [] => []
  | j :: rest => unsignedZeros j :: unsignedZerosItems rest

def unsignedZerosFields : List (String × Json) → List (String × Json)
  | [] => []
  | (k, j) :: rest => (k, unsignedZeros j) :: unsignedZerosFields rest

end

def Same (a b : Json) : Prop := a.unsignedZeros = b.unsignedZeros

instance (a b : Json) : Decidable (Same a b) := by unfold Same; infer_instance

theorem Same.refl (a : Json) : Same a a := rfl

end Json

end EnvironmentOperator
