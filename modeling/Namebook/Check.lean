import Namebook.Dns.Resolver
import Namebook.Record

/-!
Comparing what a record declares with what live DNS answers. A lookup that fails, for whatever
reason, leaves the name not available.
-/

namespace Namebook

/-- `resolved` is what DNS answered. -/
structure CheckResult where
  status : SyncStatus
  resolved : List String
  deriving DecidableEq, Repr

namespace Check

def notAvailable : CheckResult := ⟨.notAvailable, []⟩

/-- A target as it is compared. -/
def form (target : String) : String := Text.lowercase (Text.trim target)

/-- As many targets, and the same ones once both lists are sorted. -/
def sameTargets (resolved expected : List String) : Bool :=
  let sorted (targets : List String) := (targets.map form).mergeSort
  resolved.length == expected.length && sorted resolved == sorted expected

/-- Whether a text is no address of the other version. -/
def inFamily (family : Address.Ip → Bool) (target : String) : Bool :=
  (Address.Ip.parse? (Text.trim target)).all family

def addresses (resolver : Dns.Resolver) (name : String) (expected : List String)
    (family : Address.Ip → Bool) : CheckResult :=
  match resolver.host name with
  | .error _ => notAvailable
  | .ok found =>
    let resolved := found.filter (inFamily family)
    ⟨if sameTargets resolved expected then .sync else .notSync, resolved⟩

/-- A trimmed name without the dot at its end. -/
def dotless (name : String) : List Char :=
  let cs := Text.trimChars name.toList
  if cs.getLast? = some '.' then cs.dropLast else cs

def sameCanonical (a b : String) : Bool :=
  Text.asciiLower (dotless a) == Text.asciiLower (dotless b)

/-- Only the first of the expected targets counts. -/
def canonical (resolver : Dns.Resolver) (name : String) (expected : List String) : CheckResult :=
  match resolver.canonical name with
  | .error _ => notAvailable
  | .ok found =>
    ⟨if expected.head?.any (sameCanonical · found) then .sync else .notSync, [found]⟩

/-- Any address at all will do. -/
def existence (resolver : Dns.Resolver) (name : String) : CheckResult :=
  match resolver.host name with
  | .error _ => notAvailable
  | .ok found => if found.isEmpty then notAvailable else ⟨.sync, found⟩

end Check

def check (resolver : Dns.Resolver) (name type : String) (expected : List String) : CheckResult :=
  let type := Text.normalizeType type
  if type = Dns.Question.a.word then Check.addresses resolver name expected Address.Ip.isV4
  else if type = Dns.Question.aaaa.word then
    Check.addresses resolver name expected fun ip => !ip.isV4
  else if type = Dns.Question.cname.word then Check.canonical resolver name expected
  else Check.existence resolver name

def CheckResult.toJson (r : CheckResult) : Json :=
  .record [("status", .text r.status.word), ("resolvedTargets", .texts r.resolved)]

end Namebook
