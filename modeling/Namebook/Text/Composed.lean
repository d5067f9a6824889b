import Namebook.Text.Composed.Pairs
import Namebook.Text.Mark

/-!
The composed normal form of text: characters are taken apart, the marks after each are brought into
the order of their classes, and what can be is put together again. It is for texts without the
compatibility characters that stand for one other character alone.
-/

namespace Namebook.Text

/-! The syllables of Hangul are computed. -/

namespace Hangul

def firstSyllable : Nat := 0xAC00
def firstLead : Nat := 0x1100
def firstVowel : Nat := 0x1161
/-- The code point before the first tail. -/
def noTail : Nat := 0x11A7
def leads : Nat := 19
def vowels : Nat := 21
def tails : Nat := 28

def isSyllable (n : Nat) : Bool := firstSyllable ≤ n && n < firstSyllable + leads * vowels * tails

/-- Lead, vowel and, if there is one, tail. -/
def parts (n : Nat) : List Nat :=
  let i := n - firstSyllable
  let pair := [firstLead + i / (vowels * tails), firstVowel + i / tails % vowels]
  if i % tails = 0 then pair else pair ++ [noTail + i % tails]

def joined? (a b : Nat) : Option Nat :=
  if firstLead ≤ a ∧ a < firstLead + leads ∧ firstVowel ≤ b ∧ b < firstVowel + vowels then
    some (firstSyllable + ((a - firstLead) * vowels + (b - firstVowel)) * tails)
  else if isSyllable a ∧ (a - firstSyllable) % tails = 0 ∧ noTail < b ∧ b < noTail + tails then
    some (a + (b - noTail))
  else none

end Hangul

/-- Takes a character apart. Its first part may have parts again, never more than thrice. -/
def takeApart : Nat → Nat → List Nat
  | 0, n => [n]
  | depth + 1, n =>
    if n < 0xC0 then [n]
    else if Hangul.isSyllable n then Hangul.parts n
    else match parts? n with
      | some (a, b) => takeApart depth a ++ [b]
      | none => [n]

/-- Puts a mark behind the marks whose class is not larger; `marks` holds the last one first. -/
def addMark (c : Char) : List Char → List Char
  | [] => [c]
  | m :: ms => if markClass c < markClass m then m :: addMark c ms else c :: m :: ms

/-- `marks` are those since the last character of class zero, last one first. -/
def sortMarks (marks : List Char) : List Char → List Char
  | [] => marks.reverse
  | c :: cs =>
    if markClass c = 0 then marks.reverse ++ c :: sortMarks [] cs
    else sortMarks (addMark c marks) cs

def pair? (a b : Char) : Option Char :=
  ((Hangul.joined? a.toNat b.toNat).or (joined? a.toNat b.toNat)).map Char.ofNat

/-- Puts together. `base` is the last character of class zero, and `kept` are the marks after it
that stay by themselves, last one first; a mark of the same class stands between it and later
ones. -/
def compose (base : Option Char) (kept : List Char) : List Char → List Char
  | [] => base.toList ++ kept.reverse
  | c :: cs =>
    let isFree := kept.head?.all fun m => markClass m < markClass c
    match if isFree then base.bind fun b => pair? b c else none with
    | some b => compose (some b) kept cs
    | none =>
      if markClass c = 0 then base.toList ++ kept.reverse ++ compose (some c) [] cs
      else compose base (c :: kept) cs

def composed (cs : List Char) : List Char :=
  let apart := cs.flatMap fun c => (takeApart 3 c.toNat).map Char.ofNat
  compose none [] (sortMarks [] apart)

end Namebook.Text
