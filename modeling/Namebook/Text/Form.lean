import Namebook.Text.Ascii
import Namebook.Text.Split
import Namebook.Text.Utf8

/-!
Form encoding of query parameters: `name=value` pairs between ampersands, a plus sign for a space
and `%XX` for a byte.
-/

namespace Namebook.Text.Form

/-- The byte of two hexadecimal digits. -/
def hexByte? (a b : Char) : Option Nat :=
  (hexValue? a).bind fun x => (hexValue? b).map fun y => 16 * x + y

/-- A percent sign without two hexadecimal digits after it stands for itself. -/
def unescape : List Char → List Nat
  | [] => []
  | '+' :: cs => 0x20 :: unescape cs
  | '%' :: a :: b :: cs =>
    match hexByte? a b with
    | some byte => byte :: unescape cs
    | none => 0x25 :: unescape (a :: b :: cs)
  | c :: cs => Utf8.encodeChar c ++ unescape cs

def decodeText (cs : List Char) : String := String.ofList (Utf8.decode (unescape cs))

/-- A piece without an equals sign is a name with an empty value. -/
def decodePair (piece : List Char) : String × String :=
  match cut? '=' piece with
  | some (name, value) => (decodeText name, decodeText value)
  | none => (decodeText piece, "")

def decodePairs (cs : List Char) : List (String × String) :=
  ((pieces '&' cs).filter fun piece => !piece.isEmpty).map decodePair

def isPlain (c : Char) : Bool :=
  c.isAlphanum || c = '*' || c = '-' || c = '.' || c = '_'

def escapeChar (c : Char) : List Char :=
  if c = ' ' then ['+']
  else if isPlain c then [c]
  else (Utf8.encodeChar c).flatMap fun b => ['%', upperHexDigit (b / 16), upperHexDigit (b % 16)]

def encodeText (s : String) : String := String.ofList (s.toList.flatMap escapeChar)

end Namebook.Text.Form
