import Namebook.Address.Socket
import Namebook.Text.Blank
import Namebook.Text.Split

/-!
The name server of a machine, from the text of its resolver configuration.
-/

namespace Namebook.Dns

/-- The port of name servers. -/
def port : UInt16 := 53

def configurationPath : String := "/etc/resolv.conf"

def serverAt (ip : Address.Ip) : Address.Socket := { ip, port }

/-- The server of a machine that configures none. -/
def fallbackServer : Address.Socket := serverAt (.v4 ⟨127, 0, 0, 1⟩)

/-- The server that a line names. -/
def lineServer? (line : List Char) : Option Address.Socket :=
  match Text.words line with
  | keyword :: address :: _ =>
    if keyword = "nameserver".toList then (Address.Ip.parseChars? address).map serverAt else none
  | _ => none

/-- The first server that a configuration names; lines that name none do not count. -/
def configuredServer? (contents : String) : Option Address.Socket :=
  (Text.lines contents.toList).findSome? lineServer?

end Namebook.Dns
