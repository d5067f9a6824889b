import Namebook.Record
import Namebook.Text.Base64
import Namebook.Text.Decimal
import Namebook.Text.Utf8

/-!
Pages of a list. A page names the next one by a token, which holds the offset where that page
begins.
-/

namespace Namebook

structure Page where
  records : List Record
  /-- Empty on the last page. -/
  next : String
  /-- The size of the whole list. -/
  total : Nat

namespace Page

def token (offset : Nat) : String :=
  String.ofList (Text.Base64.encode (Text.Utf8.encode (Text.digits offset)))

/-- The offset that a token holds, if it is below 2⁶⁴. -/
def offset? (token : String) : Option Nat :=
  (Text.Base64.decode (Text.trimChars token.toList)).bind fun bytes =>
    Text.natUpTo? Text.maxWord (Text.Utf8.decode bytes)

/-- Where a token lets the list begin: anything but an offset in the list means its start. -/
def start (token : String) (total : Nat) : Nat := ((offset? token).filter (· < total)).getD 0

/-- At most `size` records from the token on; size zero gives the whole list. -/
def of (all : List Record) (size : Nat) (token : String) : Page :=
  let total := all.length
  if size = 0 then ⟨all, "", total⟩
  else
    let offset := start token total
    let stop := min (offset + size) total
    ⟨(all.drop offset).take (stop - offset), if stop < total then Page.token stop else "", total⟩

def toJson (p : Page) : Json :=
  .record [
    ("fqdns", .list (p.records.map Record.toJson)),
    ("nextPageToken", .text p.next),
    ("totalSize", .int p.total)]

end Page

end Namebook
