import EnvironmentOperator.Decoding.Record
import EnvironmentOperator.Manifest

namespace EnvironmentOperator

structure SelfSigned where
deriving DecidableEq

instance : JsonForm SelfSigned where
  encode _ := .obj []
  decode := decodeRecord "SelfSignedIssuer" (fun _ => .ok {}) (fun items => do
    Positions.exhausted items 0
    return {})

structure IssuerSpec where
  selfSigned : Option SelfSigned := none
deriving DecidableEq

namespace IssuerSpec

def ofItems (items : List Json) : Except DecodeError IssuerSpec := do
  let selfSigned ← Positions.elementIf items 0
  Positions.exhausted items 1
  return { selfSigned }

instance : JsonForm IssuerSpec where
  encode s := Json.record [("selfSigned", s.selfSigned.map encode)]
  decode := decodeRecord "IssuerSpec"
    (fun m => do return { selfSigned := ← Fields.optional m "selfSigned" }) ofItems

end IssuerSpec

structure PrivateKey where
  algorithm : String
  size : Int32
deriving DecidableEq

namespace PrivateKey

def ofFields (m : Fields) : Except DecodeError PrivateKey := do
  let algorithm : Option String ← Fields.given m "algorithm"
  let size : Option Int32 ← Fields.given m "size"
  return { algorithm := ← require "algorithm" algorithm, size := ← require "size" size }

def ofItems (items : List Json) : Except DecodeError PrivateKey := do
  let algorithm ← Positions.element "struct CertificatePrivateKey with 2 elements" items 0
  let size ← Positions.element "struct CertificatePrivateKey with 2 elements" items 1
  Positions.exhausted items 2
  return { algorithm, size }

instance : JsonForm PrivateKey where
  encode k := Json.record [
    ("algorithm", some (encode k.algorithm)),
    ("size", some (encode k.size))]
  decode := decodeRecord "CertificatePrivateKey" ofFields ofItems

end PrivateKey

structure IssuerReference where
  name : String
  kind : Option String := none
  group : Option String := none
deriving DecidableEq

namespace IssuerReference

def ofFields (m : Fields) : Except DecodeError IssuerReference := do
  let group : Option String ← Fields.optional m "group"
  let kind : Option String ← Fields.optional m "kind"
  let name : Option String ← Fields.given m "name"
  return { name := ← require "name" name, kind, group }

def ofItems (items : List Json) : Except DecodeError IssuerReference := do
  let name ← Positions.element "struct IssuerRef with 3 elements" items 0
  let kind ← Positions.elementIf items 1
  let group ← Positions.elementIf items 2
  Positions.exhausted items 3
  return { name, kind, group }

instance : JsonForm IssuerReference where
  encode r := Json.record [
    ("group", r.group.map encode),
    ("kind", r.kind.map encode),
    ("name", some (encode r.name))]
  decode := decodeRecord "IssuerRef" ofFields ofItems

end IssuerReference

structure CertificateSpec where
  isAuthority : Bool := false
  commonName : Option String := none
  secretName : String
  privateKey : Option PrivateKey := none
  issuer : IssuerReference
deriving DecidableEq

namespace CertificateSpec

def ofFields (m : Fields) : Except DecodeError CertificateSpec := do
  let commonName : Option String ← Fields.optional m "commonName"
  let isAuthority : Option Bool ← Fields.given m "isCA"
  let issuer : Option IssuerReference ← Fields.given m "issuerRef"
  let privateKey : Option PrivateKey ← Fields.optional m "privateKey"
  let secretName : Option String ← Fields.given m "secretName"
  return {
    isAuthority := isAuthority.getD false
    commonName
    secretName := ← require "secretName" secretName
    privateKey
    issuer := ← require "issuerRef" issuer }

def ofItems (items : List Json) : Except DecodeError CertificateSpec := do
  let isAuthority ← Positions.elementOr items 0 false
  let commonName ← Positions.elementIf items 1
  let secretName ← Positions.element "struct CertificateSpec with 5 elements" items 2
  let privateKey ← Positions.elementIf items 3
  let issuer ← Positions.element "struct CertificateSpec with 5 elements" items 4
  Positions.exhausted items 5
  return { isAuthority, commonName, secretName, privateKey, issuer }

instance : JsonForm CertificateSpec where
  encode s := Json.record [
    ("commonName", s.commonName.map encode),
    ("isCA", some (encode s.isAuthority)),
    ("issuerRef", some (encode s.issuer)),
    ("privateKey", s.privateKey.map encode),
    ("secretName", some (encode s.secretName))]
  decode := decodeRecord "CertificateSpec" ofFields ofItems

end CertificateSpec

structure Issuer where
  metadata : Metadata := {}
  spec : IssuerSpec
deriving DecidableEq

instance : Manifest Issuer where
  kind := .issuer
  metadata x := x.metadata
  data x := Json.present [("spec", some (encode x.spec))]
  unreserved _ := .of_present ["spec"] rfl (by decide)
  ofMembers o members := do
    let spec : Option IssuerSpec ← Fields.given members "spec"
    return { metadata := o.metadata.exchanged, spec := ← require "spec" spec }

structure Certificate where
  metadata : Metadata := {}
  spec : CertificateSpec
deriving DecidableEq

instance : Manifest Certificate where
  kind := .certificate
  metadata x := x.metadata
  data x := Json.present [("spec", some (encode x.spec))]
  unreserved _ := .of_present ["spec"] rfl (by decide)
  ofMembers o members := do
    let spec : Option CertificateSpec ← Fields.given members "spec"
    return { metadata := o.metadata.exchanged, spec := ← require "spec" spec }

end EnvironmentOperator
