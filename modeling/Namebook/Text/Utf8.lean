/-!
UTF-8, read without ever failing: every maximal ill-formed run of bytes becomes one `U+FFFD`.
-/

namespace Namebook.Text.Utf8

/-- The bytes of one character, as numbers below 256. -/
def encodeChar (c : Char) : List Nat :=
  let n := c.toNat
  if n < 0x80 then [n]
  else if n < 0x800 then [0xC0 + n / 0x40, 0x80 + n % 0x40]
  else if n < 0x10000 then [0xE0 + n / 0x1000, 0x80 + n / 0x40 % 0x40, 0x80 + n % 0x40]
  else [0xF0 + n / 0x40000, 0x80 + n / 0x1000 % 0x40, 0x80 + n / 0x40 % 0x40, 0x80 + n % 0x40]

def encode (cs : List Char) : List Nat := cs.flatMap encodeChar

def isTail (b : Nat) : Bool := 0x80 ≤ b && b ≤ 0xBF

/-- The second bytes that a first byte of three or four byte forms allows. -/
def secondOk (first second : Nat) : Bool :=
  match first with
  | 0xE0 => 0xA0 ≤ second && second ≤ 0xBF
  | 0xED => 0x80 ≤ second && second ≤ 0x9F
  | 0xF0 => 0x90 ≤ second && second ≤ 0xBF
  | 0xF4 => 0x80 ≤ second && second ≤ 0x8F
  | _ => isTail second

def replacement : Char := Char.ofNat 0xFFFD

/-- The first character and the number of bytes that it takes beyond the first one. -/
def decodeFirst (b : Nat) (rest : List Nat) : Char × Nat :=
  if b < 0x80 then (Char.ofNat b, 0)
  else if 0xC2 ≤ b ∧ b ≤ 0xDF then
    match rest with
    | x :: _ => if isTail x then (Char.ofNat (b % 0x20 * 0x40 + x % 0x40), 1) else (replacement, 0)
    | [] => (replacement, 0)
  else if 0xE0 ≤ b ∧ b ≤ 0xEF then
    match rest with
    | x :: y :: _ =>
      if !secondOk b x then (replacement, 0)
      else if isTail y then (Char.ofNat (b % 0x10 * 0x1000 + x % 0x40 * 0x40 + y % 0x40), 2)
      else (replacement, 1)
    | [x] => (replacement, if secondOk b x then 1 else 0)
    | [] => (replacement, 0)
  else if 0xF0 ≤ b ∧ b ≤ 0xF4 then
    match rest with
    | x :: y :: z :: _ =>
      if !secondOk b x then (replacement, 0)
      else if !isTail y then (replacement, 1)
      else if isTail z then
        (Char.ofNat (b % 0x08 * 0x40000 + x % 0x40 * 0x1000 + y % 0x40 * 0x40 + z % 0x40), 3)
      else (replacement, 2)
    | [x, y] => (replacement, if !secondOk b x then 0 else if isTail y then 2 else 1)
    | [x] => (replacement, if secondOk b x then 1 else 0)
    | [] => (replacement, 0)
  else (replacement, 0)

def decode : List Nat → List Char
  | [] => []
  | b :: rest =>
    let (c, used) := decodeFirst b rest
    c :: decode (rest.drop used)
  termination_by bytes => bytes.length
  decreasing_by simp only [List.length_drop, List.length_cons]; omega

end Namebook.Text.Utf8
