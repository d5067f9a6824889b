import Namebook.Record

/-!
Media types of request bodies, such as `application/json; charset=utf-8`.
-/

namespace Namebook.Http.MediaType

def isToken (c : Char) : Bool := c.isAlphanum || "!#$%&'+-.^_\x60|~".toList.contains c

def isQuotable (c : Char) : Bool := ' ' ≤ c && c ≤ '~' && c != '"'

/-- What comes after a quoted value: nothing, or the next parameter. -/
def afterQuote? : List Char → Option (List Char)
  | [] => some []
  | ';' :: cs => some cs
  | ' ' :: cs => afterQuote? cs
  | _ => none

/-- The text after the value of a parameter. A quoted value has one character at least, of which
the first may be a quote. -/
def afterValue? (cs : List Char) : Option (List Char) :=
  match cs with
  | '"' :: c :: cs =>
    if c = '"' ∨ isQuotable c then
      match cs.dropWhile isQuotable with
      | '"' :: rest => afterQuote? rest
      | _ => none
    else none
  | cs =>
    let value := cs.takeWhile isToken
    match cs.drop value.length with
    | [] => some []
    | ';' :: rest => if value.isEmpty then none else some rest
    | _ => none

/-- Whether a text is parameters of the form `name=value` between semicolons. Each takes two
characters at least. -/
def areParameters : Nat → List Char → Bool
  | 0, cs => cs.isEmpty
  | fuel + 1, cs =>
    match cs.dropWhile (· = ' ') with
    | [] => true
    | cs =>
      let name := cs.takeWhile isToken
      match cs.drop name.length with
      | '=' :: rest => !name.isEmpty && (afterValue? rest).any (areParameters fuel)
      | _ => false

/-- The last plus sign of a subtype sets off a suffix, unless the subtype begins with it. What
counts is `json` as the suffix or as all before it. -/
def isJsonSubtype (subtype : List Char) : Bool :=
  let json := "json".toList
  match (Text.pieces '+' (Text.asciiLower subtype)).reverse with
  | [] => false
  | [whole] => whole = json
  | [_, []] => false
  | suffix :: rest => suffix = json || rest = [json]

/-- Whether a media type announces JSON. -/
def isJson (s : String) : Bool :=
  match Text.cut? '/' s.toList with
  | none => false
  | some (type, rest) =>
    let subtype := rest.takeWhile isToken
    let parameters := rest.drop subtype.length
    Text.asciiLower type = "application".toList && isJsonSubtype subtype &&
      match parameters with
      | [] => true
      | c :: cs => c = ';' && areParameters s.length cs

end Namebook.Http.MediaType
