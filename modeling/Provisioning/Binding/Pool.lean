import Provisioning.Binding.Basic
import Provisioning.Choice
import Provisioning.Document.Form
import Provisioning.Object.Managed
import Provisioning.Report

/-!
Pools of masters: the documents that describe them, and the binding of these. A pool is the masters
of a service and nothing else.
-/

namespace Provisioning.Document

open Json

/-- A pool of masters: the least document that has a field of each kind. Its count can be changed in
place, its prefix cannot, and its host name is computed. -/
structure Pool where
  name : String := ""
  resourceGroup : String := ""
  location : String := ""
  count : UInt32 := 0
  dnsPrefix : String := ""
  /-- Computed. -/
  fqdn : Option String := none
deriving DecidableEq

namespace Pool

/-- A pool as JSON. -/
def toJson (d : Pool) : Json :=
  .record [
    always "name" (.str d.name),
    always "resource_group" (.str d.resourceGroup),
    always "location" (.str d.location),
    always "count" (ofWord32 d.count),
    always "dns_prefix" (.str d.dnsPrefix),
    ifSome "fqdn" .str d.fqdn]

/-- A pool from JSON. -/
def decode : Decoder Pool :=
  Decode.record "PoolConfig"
    ["name", "resource_group", "location", "count", "dns_prefix", "fqdn"]
    fun p => mk
      <$> p.required "name" Decode.string
      <*> p.required "resource_group" Decode.string
      <*> p.required "location" Decode.string
      <*> p.required "count" Decode.word32
      <*> p.required "dns_prefix" Decode.string
      <*> p.optional "fqdn" Decode.string

end Pool

instance : Document Pool where
  blank := {}
  toJson := Pool.toJson
  decode := Pool.decode

/-- The report on a pool. -/
def Pool.report (p : Pool) : Report :=
  .nonBlank "name" p.name
    ++ .nonBlank "dns_prefix" p.dnsPrefix
    ++ .check (p.count != 0) "count" "must be greater than zero"

/-! ### The binding -/

namespace Pool

/-- The object that a pool describes. Its prefix becomes part of a host name. -/
def expand (d : Pool) : Except BindingError Object.Service :=
  if d.dnsPrefix.toList.contains ' ' then
    .error (.refused .clear "dns_prefix may not contain spaces")
  else .ok {
    name := some d.name
    location := some d.location
    properties := some {
      masters := some { count := some d.count, dnsPrefix := some d.dnsPrefix } } }

/-- The pool that describes an object. It has no secrets. -/
def flatten (key : NaturalKey) (object : Object.Service) (_ : Option Pool) :
    Except BindingError Pool :=
  match object.properties.bind (·.masters) with
  | none => .error (.refused .remaining "master profile missing from response")
  | some masters => .ok {
      name := key.name
      resourceGroup := key.scope
      location := object.location.getD ""
      count := masters.count.getD 0
      dnsPrefix := masters.dnsPrefix.getD ""
      fqdn := masters.fqdn }

/-- How a pool differs from the one that is wanted. Where it is does not count. -/
def diff (current desired : Pool) : Diff where
  replace :=
    Diff.changed "name" current.name desired.name
      ++ Diff.changed "dns_prefix" current.dnsPrefix desired.dnsPrefix
  update := Diff.changed "count" current.count desired.count

/-- How pools stand for objects. -/
def binding : Binding Pool Object.Service where
  kind := "pool"
  key d := ⟨d.resourceGroup, d.name⟩
  report := report
  expand := expand
  flatten := flatten
  diff := diff
  updatable := true
  change := { pending := [.creating, .updating], target := [.succeeded] }
  timeouts := .default

end Pool

end Provisioning.Document
