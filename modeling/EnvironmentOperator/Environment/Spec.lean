import EnvironmentOperator.Decoding.Record

namespace EnvironmentOperator

structure Dependency where
  name : String
  version : String
deriving DecidableEq

namespace Dependency

def ofFields (m : Fields) : Except DecodeError Dependency := do
  let name : Option String ← Fields.given m "name"
  let version : Option String ← Fields.given m "version"
  return { name := ← require "name" name, version := version.getD "" }

def ofItems (items : List Json) : Except DecodeError Dependency := do
  let name ← Positions.element "struct DependencySpec with 2 elements" items 0
  let version ← Positions.elementOr items 1 ""
  Positions.exhausted items 2
  return { name, version }

instance : JsonForm Dependency where
  encode d := Json.record [
    ("name", some (encode d.name)),
    ("version", some (encode d.version))]
  decode := decodeRecord "DependencySpec" ofFields ofItems

end Dependency

structure Database where
  engine : String := ""
  version : String := "latest"
deriving DecidableEq

namespace Database

def ofFields (m : Fields) : Except DecodeError Database := do
  let engine : Option String ← Fields.given m "type"
  let version : Option String ← Fields.given m "version"
  return { engine := engine.getD "", version := version.getD "latest" }

def ofItems (items : List Json) : Except DecodeError Database := do
  let engine ← Positions.elementOr items 0 ""
  let version ← Positions.elementOr items 1 "latest"
  Positions.exhausted items 2
  return { engine, version }

instance : JsonForm Database where
  encode d := Json.record [
    ("type", some (encode d.engine)),
    ("version", some (encode d.version))]
  decode := decodeRecord "DatabaseSpec" ofFields ofItems

end Database

structure Ide where
  flavour : String := ""
  extensions : List String := []
  settings : Named String := ⟨[]⟩
  password : String := ""
deriving DecidableEq

namespace Ide

def ofFields (m : Fields) : Except DecodeError Ide := do
  let extensions : Option (List String) ← Fields.given m "extensions"
  let password : Option String ← Fields.given m "passwordSecret"
  let settings : Option (Named String) ← Fields.given m "settings"
  let flavour : Option String ← Fields.given m "type"
  return {
    flavour := flavour.getD ""
    extensions := extensions.getD []
    settings := settings.getD ⟨[]⟩
    password := password.getD "" }

def ofItems (items : List Json) : Except DecodeError Ide := do
  let flavour ← Positions.elementOr items 0 ""
  let extensions ← Positions.elementOr items 1 []
  let settings ← Positions.elementOr items 2 ⟨[]⟩
  let password ← Positions.elementOr items 3 ""
  Positions.exhausted items 4
  return { flavour, extensions, settings, password }

instance : JsonForm Ide where
  encode i := Json.record [
    ("extensions", some (encode i.extensions)),
    ("passwordSecret", some (encode i.password)),
    ("settings", some (encode i.settings)),
    ("type", some (encode i.flavour))]
  decode := decodeRecord "IdeConfig" ofFields ofItems

end Ide

structure EnvironmentSpec where
  language : String
  version : String := ""
  ide : Ide := {}
  database : Database := {}
  dependencies : List Dependency := []
deriving DecidableEq

namespace EnvironmentSpec

def ofFields (m : Fields) : Except DecodeError EnvironmentSpec := do
  let database : Option Database ← Fields.given m "database"
  let dependencies : Option (List Dependency) ← Fields.given m "dependencies"
  let ide : Option Ide ← Fields.given m "ide"
  let language : Option String ← Fields.given m "language"
  let version : Option String ← Fields.given m "version"
  return {
    language := ← require "language" language
    version := version.getD ""
    ide := ide.getD {}
    database := database.getD {}
    dependencies := dependencies.getD [] }

def ofItems (items : List Json) : Except DecodeError EnvironmentSpec := do
  let language ← Positions.element "struct DeveloperEnvironmentSpec with 5 elements" items 0
  let version ← Positions.elementOr items 1 ""
  let ide ← Positions.elementOr items 2 {}
  let database ← Positions.elementOr items 3 {}
  let dependencies ← Positions.elementOr items 4 []
  Positions.exhausted items 5
  return { language, version, ide, database, dependencies }

instance : JsonForm EnvironmentSpec where
  encode s := Json.record [
    ("database", some (encode s.database)),
    ("dependencies", some (encode s.dependencies)),
    ("ide", some (encode s.ide)),
    ("language", some (encode s.language)),
    ("version", some (encode s.version))]
  decode := decodeRecord "DeveloperEnvironmentSpec" ofFields ofItems

end EnvironmentSpec

end EnvironmentOperator
