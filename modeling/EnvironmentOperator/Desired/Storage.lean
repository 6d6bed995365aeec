import EnvironmentOperator.Manifest.Claim

namespace EnvironmentOperator.Desired

def volumeSize : Quantity := ⟨"10Gi"⟩

def volumeClaim (name ns : String) (labels : Named String) : Claim where
  metadata := { name := some name, «namespace» := some ns, labels := some labels }
  spec := some {
    accessModes := some ["ReadWriteOnce"]
    resources := some { requests := some (.ofList [("storage", volumeSize)]) } }

end EnvironmentOperator.Desired
