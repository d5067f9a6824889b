import Namebook.Dns.International.Direction
import Namebook.Dns.International.Joining
import Namebook.Dns.International.Mapped
import Namebook.Dns.International.Punycode
import Namebook.Dns.International.Refused
import Namebook.Text.Composed

/-!
International names, which are shown in all scripts and sent in ASCII. A label beyond ASCII is sent
in Punycode after `xn--`, and a label that begins so has to be one that could have been written out.
-/

namespace Namebook.Dns.International

def isAscii (c : Char) : Bool := c.toNat < 0x80

/-- What a character stands for: itself, others or nothing. Some must not be there. -/
def image? (c : Char) : Option (List Char) :=
  if isAscii c then some [c.toLower]
  else if refusedChart.contains c.toNat then none
  else if ignoredChart.contains c.toNat then some []
  else match mappedChart.images? c.toNat with
    | some image => some (image.map Char.ofNat)
    | none => some [c]

def standsForItself (c : Char) : Bool := image? c = some [c]

/-- A label as it is shown and as it is sent. -/
structure Label where
  shown : List Char
  sent : List Char
  deriving DecidableEq, Repr

namespace Label

/-- What a label that is sent in Punycode begins with. -/
def mark : List Char := "xn--".toList

/-- What is written in Punycode is shown if it would have been written so. -/
def ofCode? (sent : List Char) : Option Label :=
  if sent.all isAscii && sent.getLast? != some '-' then do
    let shown ← Punycode.decode? (sent.drop mark.length)
    if shown.all standsForItself && Text.composed shown = shown then some ⟨shown, sent⟩ else none
  else none

def of? (cs : List Char) : Option Label :=
  if mark.isPrefixOf cs then ofCode? cs
  else some ⟨cs, if cs.all isAscii then cs else mark ++ Punycode.encode cs⟩

def isPlain (c : Char) : Bool := c.isLower || c.isDigit || c = '-'

/-- Of ASCII there are letters, digits and hyphens only, no mark comes first, and joiners stand
where they may. -/
def isSound (l : Label) : Bool :=
  l.shown.all (fun c => isPlain c || !isAscii c) && !l.shown.head?.any Text.isMark &&
    joinersFit [] l.shown

def fits (l : Label) : Bool := 0 < l.sent.length && l.sent.length ≤ 63

end Label

/-- The labels of a name, which are parted by full stops of any script. -/
def labels? (name : List Char) : Option (List Label) := do
  let images ← name.mapM image?
  (Text.pieces '.' (Text.composed images.flatten)).mapM Label.of?

/-- Whether the labels can stand in one name. -/
def areSound (labels : List Label) : Bool :=
  labels.all (fun l => l.isSound && l.fits) &&
    (labels.all (fun l => isDirected l.shown) || !labels.any (fun l => turns l.shown))

/-- A name as it is sent. -/
def encode? (name : List Char) : Option (List Char) := do
  let labels ← labels? name
  let sent := List.intercalate ['.'] (labels.map Label.sent)
  if areSound labels && sent.length ≤ 253 then some sent else none

end Namebook.Dns.International
