import Namebook.Json.Numeral
import Namebook.Text.Ascii

/-!
Reading JSON text. Reading never fails: where the text stops being JSON the value holds a cut, so
that what was read before it can still be looked at in order.
-/

namespace Namebook.Json

def skipSpace (cs : List Char) : List Char :=
  cs.dropWhile fun c => c = ' ' ∨ c = '\n' ∨ c = '\t' ∨ c = '\r'

def hexUnit? (a b c d : Char) : Option Nat := do
  let a ← Text.hexValue? a
  let b ← Text.hexValue? b
  let c ← Text.hexValue? c
  let d ← Text.hexValue? d
  some (((a * 16 + b) * 16 + c) * 16 + d)

def shortEscape? (c : Char) : Option Char :=
  match c with
  | '"' => some '"'
  | '\\' => some '\\'
  | '/' => some '/'
  | 'b' => some (Char.ofNat 8)
  | 'f' => some (Char.ofNat 12)
  | 'n' => some '\n'
  | 'r' => some '\r'
  | 't' => some '\t'
  | _ => none

def isHigh (unit : Nat) : Bool := 0xD800 ≤ unit && unit < 0xDC00

def isLow (unit : Nat) : Bool := 0xDC00 ≤ unit && unit < 0xE000

def joinPair (high low : Nat) : Char :=
  Char.ofNat (0x10000 + (high - 0xD800) * 0x400 + (low - 0xDC00))

/-- The rest of a string, `read` being its characters so far, last one first. The string is absent
when a surrogate in it has no partner. -/
def readText (read : List Char) (paired : Bool) :
    List Char → Option (Option String × List Char)
  | [] => none
  | '"' :: cs => some (if paired then some (String.ofList read.reverse) else none, cs)
  | '\\' :: 'u' :: a :: b :: c :: d :: '\\' :: 'u' :: e :: f :: g :: h :: cs =>
    match hexUnit? a b c d with
    | none => none
    | some unit =>
      if isHigh unit then
        match hexUnit? e f g h with
        | none => none
        | some next =>
          if isLow next then readText (joinPair unit next :: read) paired cs
          else readText read false ('\\' :: 'u' :: e :: f :: g :: h :: cs)
      else if isLow unit then readText read false ('\\' :: 'u' :: e :: f :: g :: h :: cs)
      else readText (Char.ofNat unit :: read) paired ('\\' :: 'u' :: e :: f :: g :: h :: cs)
  | '\\' :: 'u' :: a :: b :: c :: d :: cs =>
    match hexUnit? a b c d with
    | none => none
    | some unit =>
      if isHigh unit || isLow unit then readText read false cs
      else readText (Char.ofNat unit :: read) paired cs
  | '\\' :: c :: cs =>
    match shortEscape? c with
    | none => none
    | some c => readText (c :: read) paired cs
  | c :: cs => if c.toNat < 0x20 then none else readText (c :: read) paired cs
  termination_by cs => cs.length

def digitsOf (cs : List Char) : List Char × List Char :=
  (cs.takeWhile Char.isDigit, cs.dropWhile Char.isDigit)

/-- The digits before the point: a zero stands alone. -/
def wholePart? : List Char → Option (List Char × List Char)
  | '0' :: cs => if (cs.head?.map Char.isDigit).getD false then none else some (['0'], cs)
  | cs =>
    let (ds, rest) := digitsOf cs
    if ds.isEmpty then none else some (ds, rest)

def fraction? : List Char → Option (List Char × List Char)
  | '.' :: cs =>
    let (ds, rest) := digitsOf cs
    if ds.isEmpty then none else some (ds, rest)
  | cs => some ([], cs)

def exponentDigits? (sign : Int) (cs : List Char) : Option (Option Int × List Char) :=
  let (ds, rest) := digitsOf cs
  if ds.isEmpty then none else some (some (sign * Numeral.natOf ds), rest)

def exponent? : List Char → Option (Option Int × List Char)
  | c :: cs =>
    if c = 'e' ∨ c = 'E' then
      match cs with
      | '+' :: cs => exponentDigits? 1 cs
      | '-' :: cs => exponentDigits? (-1) cs
      | cs => exponentDigits? 1 cs
    else some (none, c :: cs)
  | [] => some (none, [])

def readNumber? (cs : List Char) : Option (Json × List Char) := do
  let negative := cs.head? = some '-'
  let (whole, cs) ← wholePart? (if negative then cs.tail else cs)
  let (fraction, cs) ← fraction? cs
  let (exponent, cs) ← exponent? cs
  some (Numeral.value { negative, whole, fraction, exponent }, cs)

/-- The field of a name, which may be void. -/
def fieldOf (name : Option String) (v : Json) : String × Json :=
  match name with
  | some name => (name, v)
  | none => ("", .unnamed v)

mutual

/-- A value and what comes after it; nothing does after a cut. -/
def readValue : Nat → List Char → Json × Option (List Char)
  | 0, _ => (.cut, none)
  | fuel + 1, cs =>
    match skipSpace cs with
    | 'n' :: 'u' :: 'l' :: 'l' :: cs => (.null, some cs)
    | 't' :: 'r' :: 'u' :: 'e' :: cs => (.bool true, some cs)
    | 'f' :: 'a' :: 'l' :: 's' :: 'e' :: cs => (.bool false, some cs)
    | '"' :: cs =>
      match readText [] true cs with
      | some (some s, cs) => (.text s, some cs)
      | some (none, cs) => (.void, some cs)
      | none => (.cut, none)
    | '[' :: cs =>
      match skipSpace cs with
      | ']' :: cs => (.list [], some cs)
      | cs =>
        let (items, rest) := readItems fuel cs
        (.list items, rest)
    | '{' :: cs =>
      match skipSpace cs with
      | '}' :: cs => (.record [], some cs)
      | cs =>
        let (fields, rest) := readFields fuel cs
        (.record fields, rest)
    | cs =>
      match readNumber? cs with
      | some (n, cs) => (n, some cs)
      | none => (.cut, none)

def readItems : Nat → List Char → List Json × Option (List Char)
  | 0, _ => ([.cut], none)
  | fuel + 1, cs =>
    match readValue fuel cs with
    | (v, none) => ([v], none)
    | (v, some cs) =>
      match skipSpace cs with
      | ',' :: cs =>
        let (vs, rest) := readItems fuel cs
        (v :: vs, rest)
      | ']' :: cs => ([v], some cs)
      | _ => ([v, .cut], none)

def readFields : Nat → List Char → List (String × Json) × Option (List Char)
  | 0, _ => ([("", .cut)], none)
  | fuel + 1, cs =>
    match skipSpace cs with
    | '"' :: cs =>
      match readText [] true cs with
      | some (name, cs) =>
        match skipSpace cs with
        | ':' :: cs =>
          match readValue fuel cs with
          | (v, none) => ([fieldOf name v], none)
          | (v, some cs) =>
            match skipSpace cs with
            | ',' :: cs =>
              let (vs, rest) := readFields fuel cs
              (fieldOf name v :: vs, rest)
            | '}' :: cs => ([fieldOf name v], some cs)
            | _ => ([fieldOf name v, ("", .cut)], none)
        | _ => ([fieldOf name .cut], none)
      | none => ([("", .cut)], none)
    | _ => ([("", .cut)], none)

end

/-- A text read as one value. -/
structure Document where
  value : Json
  /-- Nothing but space comes after the value. -/
  ends : Bool

/-- Every second step of the reader takes a character. -/
def read (text : String) : Document :=
  let cs := text.toList
  match readValue (2 * cs.length + 2) cs with
  | (v, some rest) => ⟨v, (skipSpace rest).isEmpty⟩
  | (v, none) => ⟨v, false⟩

end Namebook.Json
