import Namebook.Text.Decimal

/-!
Punycode: text of any characters as letters, digits and hyphens. The ASCII characters come first,
and the others follow as a list of numbers. Each number says how far it is to the next insertion,
where one counts first through the places in the text and then through the code points. Numbers
are written in digits of 36 values, the last one marked by being below a threshold.
-/

namespace Namebook.Dns.International.Punycode

/-- The first code point that is inserted. -/
def firstInserted : Nat := 0x80

def firstBias : Nat := 72

def digitChar (d : Nat) : Char := Char.ofNat (if d < 26 then 97 + d else 22 + d)

def digitValue? (c : Char) : Option Nat :=
  if c.isLower then some (c.toNat - 97)
  else if c.isDigit then some (c.toNat - 22)
  else none

/-- The last digit of a number is below the threshold of its place; places count in steps of 36. -/
def threshold (bias place : Nat) : Nat :=
  if place ≤ bias then 1 else if bias + 26 ≤ place then 26 else place - bias

theorem threshold_pos (bias place : Nat) : 0 < threshold bias place := by
  unfold threshold
  split
  · omega
  · split <;> omega

def spread (delta place : Nat) : Nat :=
  if 455 < delta then spread (delta / 35) (place + 36) else place + 36 * delta / (delta + 38)
  termination_by delta
  decreasing_by omega

/-- The bias for the number after `delta`, at which the text has `size` characters. -/
def adapt (delta size : Nat) (isFirst : Bool) : Nat :=
  let delta := if isFirst then delta / 700 else delta / 2
  spread (delta + delta / size) 0

/-! Writing. -/

def number (bias place n : Nat) : List Char :=
  let t := threshold bias place
  if n < t then [digitChar n]
  else digitChar (t + (n - t) % (36 - t)) :: number bias (place + 36) ((n - t) / (36 - t))
  termination_by n
  decreasing_by
    have := threshold_pos bias place
    exact Nat.lt_of_le_of_lt (Nat.div_le_self ..) (by omega)

/-- Where one is in counting, what was written, and how many characters the text has so far. -/
structure Progress where
  delta : Nat
  bias : Nat
  size : Nat
  written : List Char

/-- One place of the text while code point `level` is inserted. -/
def Progress.pass (basics level : Nat) (p : Progress) (c : Char) : Progress :=
  if c.toNat < level then { p with delta := p.delta + 1 }
  else if c.toNat = level then
    { delta := 0
      bias := adapt p.delta (p.size + 1) (p.size = basics)
      size := p.size + 1
      written := p.written ++ number p.bias 36 p.delta }
  else p

/-- Inserts the code points of a list in rising order. Counting begins at the first argument. -/
def insertAll (cs : List Char) (basics : Nat) : Nat → List Nat → Progress → Progress
  | _, [], p => p
  | next, level :: levels, p =>
    let p := { p with delta := p.delta + (level - next) * (p.size + 1) }
    let p := cs.foldl (Progress.pass basics level) p
    insertAll cs basics (level + 1) levels { p with delta := p.delta + 1 }

/-- Puts a number to its place in a rising list without repetitions. -/
def addLevel (n : Nat) : List Nat → List Nat
  | [] => [n]
  | m :: ms => if n < m then n :: m :: ms else if n = m then m :: ms else m :: addLevel n ms

def isBasic (c : Char) : Bool := c.toNat < firstInserted

def encode (cs : List Char) : List Char :=
  let basic := cs.filter isBasic
  let levels := (cs.filter fun c => !isBasic c).foldl (fun ns c => addLevel c.toNat ns) []
  let p := insertAll cs basic.length firstInserted levels ⟨0, firstBias, basic.length, []⟩
  basic ++ (if basic.isEmpty then [] else ['-']) ++ p.written

/-! Reading. -/

/-- Adds a number to `sum`; `weight` is that of the next digit. -/
def readNumber? (bias place weight sum : Nat) : List Char → Option (Nat × List Char)
  | [] => none
  | c :: cs =>
    match digitValue? c with
    | none => none
    | some d =>
      let t := threshold bias place
      if d < t then some (sum + d * weight, cs)
      else readNumber? bias (place + 36) (weight * (36 - t)) (sum + d * weight) cs

theorem length_of_readNumber? {bias place weight sum n : Nat} {cs rest : List Char}
    (h : readNumber? bias place weight sum cs = some (n, rest)) : rest.length < cs.length := by
  induction cs generalizing place weight sum with
  | nil => simp [readNumber?] at h
  | cons c cs ih =>
    simp only [readNumber?] at h
    split at h
    · simp at h
    · split at h
      · simp only [Option.some.injEq, Prod.mk.injEq] at h
        simp [h.2]
      · have := ih h
        simp only [List.length_cons]
        omega

def isScalar (n : Nat) : Bool := n < 0xD800 || (0xE000 ≤ n && n < 0x110000)

/-- Inserts characters into a text. `level` is the code point and `place` the place at which the
last insertion left off. -/
def insertRest? (bias level place : Nat) (text : List Char) (cs : List Char) :
    Option (List Char) :=
  if cs.isEmpty then some text
  else
    match _h : readNumber? bias 36 1 place cs with
    | none => none
    | some (n, rest) =>
      let size := text.length + 1
      let level := level + n / size
      let spot := n % size
      if isScalar level then
        insertRest? (adapt (n - place) size (place = 0)) level (spot + 1)
          (text.take spot ++ Char.ofNat level :: text.drop spot) rest
      else none
  termination_by cs.length
  decreasing_by exact length_of_readNumber? _h

/-- The text before the last hyphen, unless the hyphen comes first, and the text after it. -/
def splitBasic (cs : List Char) : List Char × List Char :=
  let tail := (cs.reverse.takeWhile (· != '-')).reverse
  let basic := cs.take (cs.length - tail.length - 1)
  if basic.isEmpty then ([], cs) else (basic, tail)

/-- Reads what was written in small letters. -/
def decode? (cs : List Char) : Option (List Char) :=
  let (basic, rest) := splitBasic cs
  insertRest? firstBias firstInserted 0 basic rest

end Namebook.Dns.International.Punycode
