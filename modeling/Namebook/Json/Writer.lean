import Namebook.Decimal.Shortest
import Namebook.Json
import Namebook.Text.Ascii

/-!
The compact text of a JSON value.
-/

namespace Namebook.Json

/-- Quotes, backslashes and control characters are escaped, nothing else. -/
def escape (c : Char) : List Char :=
  if c = '"' then ['\\', '"']
  else if c = '\\' then ['\\', '\\']
  else if c = '\n' then ['\\', 'n']
  else if c = '\r' then ['\\', 'r']
  else if c = '\t' then ['\\', 't']
  else if c.toNat = 8 then ['\\', 'b']
  else if c.toNat = 12 then ['\\', 'f']
  else if c.toNat < 0x20 then
    ['\\', 'u', '0', '0', Text.lowerHexDigit (c.toNat / 16), Text.lowerHexDigit (c.toNat % 16)]
  else [c]

def quoted (s : String) : String := "\"" ++ String.ofList (s.toList.flatMap escape) ++ "\""

/-- The digits of a size, with a point among them when the power of ten is small. -/
def sizeText (x : Decimal.Scaled) : List Char :=
  let ds := Text.digits x.n
  let power : Int := ds.length + x.e
  if -5 < power ∧ power ≤ 16 then x.render ++ (if 0 ≤ x.e then ['.', '0'] else [])
  else
    let sign := if 0 < power then '+' else '-'
    let tail := if ds.length = 1 then [] else '.' :: ds.drop 1
    ds.take 1 ++ tail ++ 'e' :: sign :: Text.digits (power - 1).natAbs

/-- The shortest text of a float; what is no number is null. -/
def realText (x : Float) : String :=
  match Decimal.Binary.ofBits? x.toBits.toNat with
  | none => "null"
  | some b =>
    String.ofList ((if x.toBits.toNat.testBit 63 then ['-'] else []) ++ sizeText b.shortest)

mutual

def render : Json → String
  | .null => "null"
  | .bool b => if b then "true" else "false"
  | .int n => toString n
  | .real x => realText x
  | .text s => quoted s
  | .list items => "[" ++ ",".intercalate (renderItems items) ++ "]"
  | .record fields => "\x7b" ++ ",".intercalate (renderFields fields) ++ "\x7d"
  | .void => "null"
  | .unnamed v => v.render
  | .cut => "null"

def renderItems : List Json → List String
  | [] => []
  | v :: vs => v.render :: renderItems vs

def renderFields : List (String × Json) → List String
  | [] => []
  | (name, v) :: vs => (quoted name ++ ":" ++ v.render) :: renderFields vs

end

end Namebook.Json
