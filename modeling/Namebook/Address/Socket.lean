import Namebook.Address.Ip

/-!
An address with a port: `ip:port`, with brackets around an address of version 6. Inside the
brackets a scope number may follow a percent sign.
-/

namespace Namebook.Address

structure Socket where
  ip : Ip
  /-- The scope of a version 6 address; zero stands for none. -/
  scope : Nat := 0
  port : UInt16
  deriving DecidableEq, Repr

namespace Socket

def port? (cs : List Char) : Option (UInt16 × List Char) :=
  (decimal? 65536 cs).map fun (n, rest) => (UInt16.ofNat n, rest)

/-- The scope number, where the text goes on with one. -/
def takeScope (cs : List Char) : Nat × List Char :=
  match Text.after? '%' cs >>= decimal? UInt32.size with
  | some (n, rest) => (n, rest)
  | none => (0, cs)

def v4? (cs : List Char) : Option (Socket × List Char) := do
  let (ip, cs) ← ip4? cs
  let (port, cs) ← Text.after? ':' cs >>= port?
  some ({ ip := .v4 ip, port }, cs)

def v6? (cs : List Char) : Option (Socket × List Char) := do
  let (ip, cs) ← Text.after? '[' cs >>= ip6?
  let (scope, cs) := takeScope cs
  let cs ← Text.after? ']' cs
  let (port, cs) ← Text.after? ':' cs >>= port?
  some ({ ip := .v6 ip, scope, port }, cs)

def parseChars? (cs : List Char) : Option Socket :=
  whole? (match v4? cs with
    | some found => some found
    | none => v6? cs)

def parse? (s : String) : Option Socket := parseChars? s.toList

def renderChars (a : Socket) : List Char :=
  let port := Text.digits a.port.toNat
  match a.ip with
  | .v4 ip => ip.render ++ ':' :: port
  | .v6 ip =>
    let scope := if a.scope = 0 then [] else '%' :: Text.digits a.scope
    '[' :: ip.render ++ scope ++ ']' :: ':' :: port

def render (a : Socket) : String := String.ofList a.renderChars

end Socket

end Namebook.Address
