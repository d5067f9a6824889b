import Namebook.Address.Ip
import Namebook.Dns.Name

/-!
Looking up names. A resolver answers with the addresses of a host or the canonical name of an
alias; one that asks a name server is built from a way to exchange a question for a response.
-/

namespace Namebook.Dns

inductive LookupError where
  | invalidName (name reason : String)
  /-- No response came. -/
  | queryFailed (name server reason : String)
  /-- The server answered with a code that is no success. -/
  | errorResponse (name server code : String)
  | noRecords (name type : String)
  | interrupted (name reason : String)
  deriving DecidableEq, Repr

def LookupError.message : LookupError → String
  | invalidName name reason => "Invalid DNS name '" ++ name ++ "': " ++ reason
  | queryFailed name server reason =>
    "DNS query for '" ++ name ++ "' to " ++ server ++ " failed: " ++ reason
  | errorResponse name server code =>
    "DNS server " ++ server ++ " answered " ++ code ++ " for '" ++ name ++ "'"
  | noRecords name type => "No " ++ type ++ " records found for '" ++ name ++ "'"
  | interrupted name reason =>
    "DNS lookup task for '" ++ name ++ "' did not complete: " ++ reason

/-- The record types that can be asked for. -/
inductive Question where
  | a
  | aaaa
  | cname
  deriving DecidableEq, Repr

def Question.word : Question → String
  | a => "A"
  | aaaa => "AAAA"
  | cname => "CNAME"

inductive Answer where
  | a (ip : Address.Ip4)
  | aaaa (ip : Address.Ip6)
  | cname (name : Name)
  /-- A record of another type. -/
  | other
  deriving DecidableEq, Repr

namespace Answer

def isOf : Question → Answer → Bool
  | .a, .a _ => true
  | .aaaa, .aaaa _ => true
  | .cname, .cname _ => true
  | _, _ => false

def address? : Answer → Option String
  | .a ip => some (Address.Ip.v4 ip).render
  | .aaaa ip => some (Address.Ip.v6 ip).render
  | _ => none

def canonical? : Answer → Option String
  | .cname name => some name.render
  | _ => none

end Answer

/-- `failure` is the response code, where it is no success. -/
structure Response where
  failure : Option String
  answers : List Answer

/-- Sends a question to a server; the error says why no response came. -/
abbrev Exchange := Name → Question → Except String Response

/-- The exchange of a machine without a network. -/
def Exchange.offline (reason : String) : Exchange := fun _ _ => .error reason

structure Resolver where
  /-- The addresses of a name, of both versions. -/
  host : String → Except LookupError (List String)
  /-- The name that an alias stands for. -/
  canonical : String → Except LookupError String

/-- The answers of the type that was asked for. -/
def ask (server : String) (exchange : Exchange) (name : String) (question : Question) :
    Except LookupError (List Answer) :=
  match Name.parse name with
  | .error flaw => .error (.invalidName name flaw.message)
  | .ok parsed =>
    match exchange parsed question with
    | .error reason => .error (.queryFailed name server reason)
    | .ok response =>
      match response.failure with
      | some code => .error (.errorResponse name server code)
      | none => .ok (response.answers.filter (Answer.isOf question))

/-- Both questions are asked. Where neither gives an address, the later error counts. -/
def lookupHost (server : String) (exchange : Exchange) (name : String) :
    Except LookupError (List String) :=
  let replies := [Question.a, Question.aaaa].map (ask server exchange name)
  let addresses := replies.flatMap fun reply =>
    match reply with
    | .ok answers => answers.filterMap Answer.address?
    | .error _ => []
  let errors := replies.filterMap fun reply =>
    match reply with
    | .ok _ => none
    | .error e => some e
  if addresses.isEmpty then .error (errors.getLast?.getD (.noRecords name "A/AAAA"))
  else .ok addresses

def lookupCanonical (server : String) (exchange : Exchange) (name : String) :
    Except LookupError String := do
  let answers ← ask server exchange name .cname
  match answers.findSome? Answer.canonical? with
  | some canonical => .ok canonical
  | none => .error (.noRecords name Question.cname.word)

namespace Resolver

def asking (server : String) (exchange : Exchange) : Resolver where
  host := lookupHost server exchange
  canonical := lookupCanonical server exchange

/-- A resolver that knows the names of two tables, in exactly their spelling. -/
def ofTables (hosts : List (String × List String)) (aliases : List (String × String)) :
    Resolver where
  host name := match hosts.lookup name with
    | some addresses => .ok addresses
    | none => .error (.noRecords name "A/AAAA")
  canonical name := match aliases.lookup name with
    | some canonical => .ok canonical
    | none => .error (.noRecords name Question.cname.word)

end Resolver

end Namebook.Dns
