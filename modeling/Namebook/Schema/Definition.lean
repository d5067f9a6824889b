import Namebook.Cluster.Request
import Namebook.Json.Yaml
import Namebook.Schema.Basic

/-!
The definition by which record sets are made known to the cluster.
-/

namespace Namebook.Schema

/-- One name as its producer reports it. -/
def entry : Schema :=
  object [
    ("description", text |> described "Free-text description" |> defaulting (.text "")),
    ("fqdn", text |> described "Fully-qualified domain name (case-insensitive)"),
    ("lastSeen", text |> described "RFC 3339 timestamp of the last observation" |> nullable),
    ("recordType", text
      |> described ("Declared record type (\x60A\x60, \x60AAAA\x60, \x60CNAME\x60, ...). " ++
        "Empty for existence-only entries.")
      |> defaulting (.text "")),
    ("resourceRef", text |> described "Origin object as \x60kind/namespace/name\x60" |> nullable),
    ("source", oneOf ([Provenance.manual, .discovered].map Provenance.word)
      |> described "Whether the FQDN was declared manually or discovered"
      |> defaulting (.text Provenance.discovered.word)),
    ("syncStatus", oneOf ([SyncStatus.sync, .notSync, .notAvailable].map SyncStatus.word)
      |> described "Result of the producer's last DNS check"
      |> defaulting (.text SyncStatus.notAvailable.word)),
    ("targets", list text
      |> described "Declared targets: addresses for A/AAAA, the canonical name for CNAME"
      |> defaulting (.list []))]
    |> described "Status of a single FQDN as reported by a producer."
    |> requiring ["fqdn"]

def group : Schema :=
  object [
    ("fqdns", list entry |> described "FQDNs in this group" |> defaulting (.list [])),
    ("name", text |> described "Group name shown to users")]
    |> described "One display group and its FQDNs."
    |> requiring ["name"]

def status : Schema :=
  object [
    ("groups", list group |> described "Named groups of FQDNs" |> defaulting (.list [])),
    ("lastUpdateTime", text
      |> described "RFC 3339 timestamp of the producer's last status write" |> nullable),
    ("observedGeneration", integer
      |> described "Generation of the spec the producer last acted on" |> nullable)]
    |> described "Observed FQDNs of a \x60DNSRecordSet\x60, grouped for display."
    |> nullable

def spec : Schema :=
  object [
    ("portalRef", text
      |> described ("Portal this set is published to.\n\n" ++
        "Defaults to the name of the \x60DNSRecordSet\x60 when unset or empty.")
      |> nullable)]
    |> described "\x60DNSRecordSet\x60 specification."

def recordSet : Schema :=
  object [("spec", spec), ("status", status)]
    |> described ("DNSRecordSet publishes the FQDNs discovered or declared for one portal. " ++
      "Producers write the status; the DNS portal aggregates every DNSRecordSet into a single " ++
      "deduplicated view.")
    |> requiring ["spec"]
    |> titled RecordSet.kind

def singular : String := "dnsrecordset"

def shortName : String := "dnsrs"

def names : Json := .record [
  ("categories", .list []),
  ("kind", .text RecordSet.kind),
  ("plural", .text Cluster.plural),
  ("shortNames", .texts [shortName]),
  ("singular", .text singular)]

def version : Json := .record [
  ("additionalPrinterColumns", .list []),
  ("name", .text RecordSet.apiVersion),
  ("schema", .record [("openAPIV3Schema", recordSet.toJson)]),
  ("served", .bool true),
  ("storage", .bool true),
  ("subresources", .record [("status", .record [])])]

/-- Record sets live in namespaces, and their status is written apart from the rest. -/
def definition : Json := .record [
  ("apiVersion", .text "apiextensions.k8s.io/v1"),
  ("kind", .text "CustomResourceDefinition"),
  ("metadata", .record [("name", .text (Cluster.plural ++ "." ++ RecordSet.apiGroup))]),
  ("spec", .record [
    ("group", .text RecordSet.apiGroup),
    ("names", names),
    ("scope", .text "Namespaced"),
    ("versions", .list [version])])]

/-- The definition as a file that begins with a banner. -/
def definitionFile (banner : String) : String := banner ++ Yaml.render definition

def fileName : String := Cluster.plural ++ ".crd.yaml"

end Namebook.Schema
