import Namebook.RecordSet.Encoding
import Namebook.Text.Form

/-!
Requests for pages of record sets. A list is asked for page by page, all namespaces at once or one
alone.
-/

namespace Namebook.Cluster

/-- The plural by which record sets are asked for. -/
def plural : String := "dnsrecordsets"

/-- How many record sets a page has at most. -/
def pageSize : Nat := 100

def basePath (space : Option String) : String :=
  let within := match space with
    | some space => "namespaces/" ++ space ++ "/"
    | none => ""
  "/apis/" ++ RecordSet.groupVersion ++ "/" ++ within ++ plural

/-- Where a page is asked for; `token` is what the page before it gave. -/
def pageTarget (space : Option String) (token : Option String) : String :=
  let following := match token with
    | some token => "&continue=" ++ Text.Form.encodeText token
    | none => ""
  basePath space ++ "?&limit=" ++ toString pageSize ++ following

/-- Neither a control character of ASCII nor a space. -/
def isSendable (c : Char) : Bool := '!' ≤ c && c.toNat != 0x7F

def isPathChar (c : Char) : Bool := isSendable c && c != '<' && c != '>' && c != '\x60'

def isQueryChar (c : Char) : Bool := isSendable c && c != '"' && c != '<' && c != '>'

/-- How many bytes a target has at most. -/
def longestTarget : Nat := 65534

/-- What is sent of a target: all before a fragment. Some characters cannot be sent, and neither can
a target that is too long. -/
def sent? (target : String) : Option String :=
  let kept := target.toList.takeWhile (· != '#')
  let path := kept.takeWhile (· != '?')
  let query := (kept.drop path.length).drop 1
  if target.utf8ByteSize ≤ longestTarget && path.all isPathChar && query.all isQueryChar then
    some (String.ofList kept)
  else none

end Namebook.Cluster
