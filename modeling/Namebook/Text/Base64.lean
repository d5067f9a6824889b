/-!
Base 64 with the URL-safe alphabet and without padding. Reading accepts exactly what writing
produces: unused bits of the last character are zero.
-/

namespace Namebook.Text.Base64

def symbol (n : Nat) : Char :=
  if n < 26 then Char.ofNat (n + 65)
  else if n < 52 then Char.ofNat (n - 26 + 97)
  else if n < 62 then Char.ofNat (n - 52 + 48)
  else if n = 62 then '-' else '_'

def value? (c : Char) : Option Nat :=
  let n := c.toNat
  if 65 ≤ n ∧ n ≤ 90 then some (n - 65)
  else if 97 ≤ n ∧ n ≤ 122 then some (n - 97 + 26)
  else if 48 ≤ n ∧ n ≤ 57 then some (n - 48 + 52)
  else if c = '-' then some 62
  else if c = '_' then some 63
  else none

/-- Bytes are numbers below 256; three of them make four symbols. -/
def encode : List Nat → List Char
  | [] => []
  | [a] => [symbol (a / 4), symbol (a % 4 * 16)]
  | [a, b] => [symbol (a / 4), symbol (a % 4 * 16 + b / 16), symbol (b % 16 * 4)]
  | a :: b :: c :: rest =>
    symbol (a / 4) :: symbol (a % 4 * 16 + b / 16) :: symbol (b % 16 * 4 + c / 64) ::
      symbol (c % 64) :: encode rest

def decodeValues : List Nat → Option (List Nat)
  | [] => some []
  | [_] => none
  | [w, x] => if x % 16 = 0 then some [w * 4 + x / 16] else none
  | [w, x, y] =>
    if y % 4 = 0 then some [w * 4 + x / 16, x % 16 * 16 + y / 4] else none
  | w :: x :: y :: z :: rest =>
    (decodeValues rest).map fun bytes =>
      (w * 4 + x / 16) :: (x % 16 * 16 + y / 4) :: (y % 4 * 64 + z) :: bytes

def decode (cs : List Char) : Option (List Nat) := (cs.mapM value?).bind decodeValues

end Namebook.Text.Base64
