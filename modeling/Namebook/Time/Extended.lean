import Namebook.Text.Split
import Namebook.Time.Instant

/-!
Moments by ISO 8601, with annotations in brackets after them. Date, time and offset each come with
signs between their parts or without any, and a time may end early. Years go from -9999 to 9999.
-/

namespace Namebook.Time.Extended

/-- Two digits for a number up to `most`. -/
def upTo? (most : Nat) (cs : List Char) : Option (Nat × List Char) :=
  (Instant.twoDigits? cs).filter fun (n, _) => n ≤ most

/-- Four digits, or six of them after a sign. There is no year minus zero. -/
def year? : List Char → Option (Int × List Char)
  | '+' :: cs => do
    let (n, cs) ← Instant.fixedDigits? 6 0 cs
    if n ≤ 9999 then some ((n : Int), cs) else none
  | '-' :: cs => do
    let (n, cs) ← Instant.fixedDigits? 6 0 cs
    if 0 < n ∧ n ≤ 9999 then some (-(n : Int), cs) else none
  | cs => do
    let (n, cs) ← Instant.fixedDigits? 4 0 cs
    some ((n : Int), cs)

def hyphen? (apart : Bool) (cs : List Char) : Option (List Char) :=
  if apart then Text.after? '-' cs else some cs

def date? (cs : List Char) : Option (Date × List Char) := do
  let (year, cs) ← year? cs
  let apart := cs.head? = some '-'
  let cs ← hyphen? apart cs
  let (month, cs) ← Instant.twoDigits? cs
  let cs ← hyphen? apart cs
  let (day, cs) ← Instant.twoDigits? cs
  let date : Date := ⟨year, month, day⟩
  if date.isValid then some (date, cs) else none

def beginsWithTwoDigits (cs : List Char) : Bool := 2 ≤ (cs.takeWhile Char.isDigit).length

/-- The next part of a time, if it does not end here. -/
def part? (most : Nat) (apart : Bool) (cs : List Char) : Option (Option Nat × List Char) :=
  let present := if apart then cs.head? = some ':' else beginsWithTwoDigits cs
  if present then (upTo? most (if apart then cs.tail else cs)).map fun (n, cs) => (some n, cs)
  else some (none, cs)

/-- Up to nine digits after a point or a comma, as nanoseconds. -/
def fraction? : List Char → Option (Nat × List Char)
  | c :: cs =>
    if c = '.' ∨ c = ',' then
      let ds := (cs.take 9).takeWhile Char.isDigit
      (Text.digitsValue? ds).map fun n => (n * Nat.pow 10 (9 - ds.length), cs.drop ds.length)
    else some (0, c :: cs)
  | [] => some (0, [])

structure Clock where
  hours : Nat
  minutes : Nat := 0
  seconds : Nat := 0
  nanos : Nat := 0

/-- Parts that are left out are zero; only seconds have a fraction. -/
def clock? (mostHours mostSeconds : Nat) (cs : List Char) : Option (Clock × List Char) := do
  let (hours, cs) ← upTo? mostHours cs
  let apart := cs.head? = some ':'
  match ← part? 59 apart cs with
  | (none, cs) => some ({ hours }, cs)
  | (some minutes, cs) =>
    match ← part? mostSeconds apart cs with
    | (none, cs) => some ({ hours, minutes }, cs)
    | (some seconds, cs) =>
      let (nanos, cs) ← fraction? cs
      some ({ hours, minutes, seconds, nanos }, cs)

/-- A leap second counts as the second before it. -/
def Clock.ofDay (c : Clock) : Nat := c.hours * 3600 + c.minutes * 60 + min c.seconds 59

/-- The seconds of an offset, rounded to the nearest. -/
def Clock.size (c : Clock) : Nat :=
  c.hours * 3600 + c.minutes * 60 + c.seconds + (if 500000000 ≤ c.nanos then 1 else 0)

/-- The hours that an offset may have, and the seconds that it may have in all. -/
def mostHours : Nat := 25

def mostOffset : Nat := 93599

/-- The offset from universal time in seconds. -/
def offset? : List Char → Option (Int × List Char)
  | c :: cs =>
    if c = 'Z' ∨ c = 'z' then some (0, cs)
    else if c = '+' ∨ c = '-' then do
      let (clock, cs) ← clock? mostHours 59 cs
      let size : Int := clock.size
      if clock.size ≤ mostOffset then some (if c = '+' then size else -size, cs) else none
    else none
  | [] => none

/-! Annotations: the first may be a time zone, all others are a key and its values. -/

/-- The texts in brackets, of which there is nothing but. -/
def brackets? : Option (List Char) → List Char → Option (List (List Char))
  | none, [] => some []
  | none, c :: cs => if c = '[' then brackets? (some []) cs else none
  | some _, [] => none
  | some inside, c :: cs =>
    if c = ']' then (brackets? none cs).map (inside.reverse :: ·)
    else brackets? (some (c :: inside)) cs

/-- Hours, and minutes or none. -/
def isOffset : List Char → Bool
  | c :: cs =>
    (c = '+' || c = '-') &&
      (do
        let (_, cs) ← upTo? mostHours cs
        let (_, cs) ← part? 59 (cs.head? = some ':') cs
        return cs.isEmpty : Option Bool).getD false
  | [] => false

def isZoneLead (c : Char) : Bool := c.isAlpha || c = '_' || c = '.'

def isZoneName : List Char → Bool
  | c :: cs => isZoneLead c && cs.all fun c => isZoneLead c || c.isDigit || c = '+' || c = '-'
  | [] => false

/-- An offset or names between slashes, after an exclamation mark or none. -/
def isZone (cs : List Char) : Bool :=
  let cs := if cs.head? = some '!' then cs.tail else cs
  isOffset cs || (Text.pieces '/' cs).all isZoneName

def isKeyLead (c : Char) : Bool := c.isLower || c = '_'

def isKey : List Char → Bool
  | c :: cs => isKeyLead c && cs.all fun c => isKeyLead c || c.isDigit || c = '-'
  | [] => false

/-- A key, an equals sign and values between hyphens. -/
def isPair (cs : List Char) : Bool :=
  match Text.cut? '=' cs with
  | some (key, values) =>
    isKey key && (Text.pieces '-' values).all fun v => !v.isEmpty && v.all Char.isAlphanum
  | none => false

def areAnnotations : List (List Char) → Bool
  | [] => true
  | first :: rest => (isZone first || isPair first) && rest.all isPair

/-! Moments. Those less than a day and two hours from the ends of the first and the last year are
left out, so that every offset stays within the years. -/

def first : Int := -377705023201

def last : Int := 253402207200

/-- The seconds of a moment, rounded towards the start of 1970. -/
def wholeSeconds (t : Instant) : Int :=
  if t.seconds < 0 ∧ 0 < t.nanos then t.seconds + 1 else t.seconds

def inRange (t : Instant) : Bool := first ≤ wholeSeconds t && wholeSeconds t ≤ last

def parseChars? (cs : List Char) : Option Instant := do
  let (date, cs) ← date? cs
  let cs ← Instant.separator? cs
  let (clock, cs) ← clock? 23 60 cs
  let (offset, cs) ← offset? cs
  let notes ← brackets? none cs
  let t : Instant := ⟨date.toDays * 86400 + clock.ofDay - offset, clock.nanos⟩
  if areAnnotations notes && inRange t then some t else none

def parse? (s : String) : Option Instant := parseChars? s.toList

/-- Four characters at least, a sign among them. -/
def yearText (year : Int) : List Char :=
  if year < 0 then '-' :: Instant.padded 3 year.natAbs else Instant.padded 4 year.natAbs

/-- A moment in universal time, without the fraction of its second. -/
def renderChars (t : Instant) : List Char :=
  let date := Date.ofDays (t.seconds / 86400)
  let ofDay := (t.seconds % 86400).toNat
  yearText date.year ++ '-' :: Instant.padded 2 date.month ++ '-' :: Instant.padded 2 date.day ++
    'T' :: Instant.padded 2 (ofDay / 3600) ++ ':' :: Instant.padded 2 (ofDay / 60 % 60) ++
    ':' :: Instant.padded 2 (ofDay % 60) ++ ['Z']

def render (t : Instant) : String := String.ofList (renderChars t)

end Namebook.Time.Extended
