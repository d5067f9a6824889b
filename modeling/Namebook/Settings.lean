import Namebook.Dns.Nameserver
import Namebook.Grouping

/-!
The settings of the service, and what they mean. Some combinations of well-formed values are
refused.
-/

namespace Namebook

/-- Times are in seconds. -/
structure Settings where
  listen : Address.Socket
  refreshInterval : Nat
  /-- The only namespace that is read, if not all are. -/
  watch : Option String
  nameserver : Option String
  dnsTimeout : Nat
  defaultGroup : String
  labelKey : Option String
  /-- Namespaces and their groups, as `namespace=group`. -/
  spaceGroups : List String
  streamBuffer : Nat
  deriving DecidableEq, Repr

namespace Settings

inductive Problem where
  | badSpaceGroup (pair : String)
  | zeroInterval
  | badNameserver (text : String)
  deriving DecidableEq, Repr

def Problem.message : Problem → String
  | badSpaceGroup pair =>
    "Invalid namespace group mapping '" ++ pair ++ "': expected 'namespace=group'"
  | zeroInterval => "Refresh interval must be at least 1 second"
  | badNameserver text => "Invalid nameserver address '" ++ text ++ "': expected 'ip:port'"

/-! The values of settings that are not given. -/

def defaultListen : Address.Socket := { ip := .v4 ⟨0, 0, 0, 0⟩, port := 8080 }

def defaultRefreshInterval : Nat := 30

def defaultDnsTimeout : Nat := 5

def defaultStreamBuffer : Nat := 64

/-- The namespace before the first equals sign and the group after it, neither of them blank. -/
def spaceGroup? (pair : String) : Option (String × String) := do
  let (space, group) ← Text.cut? '=' pair.toList
  let space ← Text.nonBlank? (String.ofList space)
  let group ← Text.nonBlank? (String.ofList group)
  some (space, group)

/-- Of several groups for one namespace the last one counts. -/
def addPair (table : List (String × String)) (pair : String) :
    Except Problem (List (String × String)) :=
  match spaceGroup? pair with
  | some (space, group) => .ok (Table.insert space group table)
  | none => .error (.badSpaceGroup pair)

def grouping (s : Settings) : Except Problem Grouping := do
  let bySpace ← s.spaceGroups.foldlM addPair []
  return { defaultGroup := Text.trim s.defaultGroup, labelKey := s.labelKey.bind Text.nonBlank?,
           bySpace }

/-- An address with a port, or without one and then at the port of name servers. -/
def server? (text : String) : Option Address.Socket :=
  (Address.Socket.parse? text).or ((Address.Ip.parse? text).map Dns.serverAt)

/-- The name server that is set; without one the machine's own is meant. -/
def server (s : Settings) : Except Problem (Option Address.Socket) :=
  match s.nameserver.bind Text.nonBlank? with
  | none => .ok none
  | some text =>
    match server? text with
    | some server => .ok (some server)
    | none => .error (.badNameserver text)

/-- The first problem of the settings. -/
def validate (s : Settings) : Except Problem Unit := do
  if s.refreshInterval = 0 then .error .zeroInterval
  let _ ← s.grouping
  let _ ← s.server

end Settings

end Namebook
