import EnvironmentOperator.DatabaseEngine
import EnvironmentOperator.Desired.Label
import EnvironmentOperator.Desired.Storage
import EnvironmentOperator.Manifest.Deployment
import EnvironmentOperator.Manifest.Service
import EnvironmentOperator.Scope

namespace EnvironmentOperator.Desired

def databaseApp : String := "database"

def dataVolume : String := "db-data"

def databasePortName : String := "db"

def databaseLabels (s : Scope) : Named String := appLabels databaseApp s.name

def databaseMetadata (s : Scope) (name : String) : Metadata :=
  { name := some name, «namespace» := some s.namespace, labels := some (databaseLabels s) }

def databaseClaim (s : Scope) : Claim :=
  volumeClaim (Names.databaseClaim s.name) s.namespace (databaseLabels s)

def databaseImage (db : Database) : String := db.engine ++ ":" ++ db.version

def dataMount (engine : DatabaseEngine) : VolumeMount where
  name := dataVolume
  mountPath := engine.dataMount.path
  subPath := engine.dataMount.subPath

def databaseContainer (db : Database) : Container :=
  let bare : Container := { name := databaseApp, image := some (databaseImage db) }
  match DatabaseEngine.ofName? db.engine with
  | none => bare
  | some engine =>
      { bare with
        ports := some [{ name := some databasePortName, containerPort := engine.port }]
        env := some (engine.environmentVariables.map (fun v => { name := v.1, value := some v.2 }))
        volumeMounts := some [dataMount engine] }

def databaseVolumes (s : Scope) (db : Database) : Option (List Volume) :=
  (DatabaseEngine.ofName? db.engine).map (fun _ =>
    [{ name := dataVolume, claim := some { claimName := Names.databaseClaim s.name } }])

def databaseDeployment (s : Scope) (db : Database) : Deployment where
  metadata := databaseMetadata s (Names.database s.name)
  spec := some {
    replicas := some 1
    selector := { matchLabels := some (databaseLabels s) }
    template := {
      metadata := some { labels := some (databaseLabels s) }
      spec := some { containers := [databaseContainer db], volumes := databaseVolumes s db } } }

def databasePort (engine : DatabaseEngine) : ServicePort where
  name := some databasePortName
  port := engine.port
  targetPort := some (.number engine.port)

def databaseService (s : Scope) (db : Database) : Service where
  metadata := databaseMetadata s (Names.database s.name)
  spec := some {
    selector := some (databaseLabels s)
    ports := some ((DatabaseEngine.ofName? db.engine).map databasePort).toList
    serviceType := some "ClusterIP" }

end EnvironmentOperator.Desired
