namespace EnvironmentOperator

inductive DatabaseEngine where
  | postgres
  | redis
deriving DecidableEq

namespace DatabaseEngine

structure DataMount where
  path : String
  subPath : Option String
deriving DecidableEq

def all : List DatabaseEngine := [.postgres, .redis]

def name : DatabaseEngine → String
  | .postgres => "postgres"
  | .redis => "redis"

def ofName? (s : String) : Option DatabaseEngine := all.find? (fun e => e.name = s)

def port : DatabaseEngine → Int32
  | .postgres => 5432
  | .redis => 6379

def environmentVariables : DatabaseEngine → List (String × String)
  | .postgres => [("POSTGRES_DB", "postgres"), ("POSTGRES_USER", "postgres"), ("POSTGRES_PASSWORD", "postgres")]
  | .redis => [("REDIS_PASSWORD", "password")]

/-- Postgres takes an empty directory only, and the root of a fresh volume is not empty. -/
def dataMount : DatabaseEngine → DataMount
  | .postgres => ⟨"/var/lib/postgresql/data", some "pgdata"⟩
  | .redis => ⟨"/data", none⟩

theorem ofName?_name (e : DatabaseEngine) : ofName? e.name = some e := by
  cases e <;> decide

end DatabaseEngine

end EnvironmentOperator
