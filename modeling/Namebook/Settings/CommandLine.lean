import Namebook.Settings
import Namebook.Text.Decimal

/-!
Settings from the words of a command line and from variables of the environment. Words count
before variables, and the first fault in their order decides.
-/

namespace Namebook.Settings

/-- The options that take a value. -/
inductive Flag where
  | listenAddr
  | refreshIntervalSecs
  | watchNamespace
  | nameserver
  | dnsTimeoutSecs
  | defaultGroup
  | groupLabelKey
  | namespaceGroup
  | streamBuffer
  deriving DecidableEq, Repr

namespace Flag

def all : List Flag :=
  [listenAddr, refreshIntervalSecs, watchNamespace, nameserver, dnsTimeoutSecs, defaultGroup,
    groupLabelKey, namespaceGroup, streamBuffer]

def name : Flag → String
  | listenAddr => "listen-addr"
  | refreshIntervalSecs => "refresh-interval-secs"
  | watchNamespace => "watch-namespace"
  | nameserver => "nameserver"
  | dnsTimeoutSecs => "dns-timeout-secs"
  | defaultGroup => "default-group"
  | groupLabelKey => "group-label-key"
  | namespaceGroup => "namespace-group"
  | streamBuffer => "stream-buffer"

/-- The word that stands for the value in the help text, and ends the variable's name. -/
def placeholder : Flag → String
  | listenAddr => "LISTEN_ADDR"
  | refreshIntervalSecs => "REFRESH_INTERVAL_SECS"
  | watchNamespace => "WATCH_NAMESPACE"
  | nameserver => "NAMESERVER"
  | dnsTimeoutSecs => "DNS_TIMEOUT_SECS"
  | defaultGroup => "DEFAULT_GROUP"
  | groupLabelKey => "GROUP_LABEL_KEY"
  | namespaceGroup => "NAMESPACE_GROUPS"
  | streamBuffer => "STREAM_BUFFER"

def variableName (f : Flag) : String := "DNSPORTAL_" ++ f.placeholder

def ofName? (name : String) : Option Flag := all.find? fun f => f.name == name

end Flag

/-- What is wrong with a command line. -/
inductive Misuse where
  | badValue
  | unknownArgument
  | missingValue
  /-- A value for an option that takes none. -/
  | excessValue
  /-- An option that is given twice, and may be once only. -/
  | repeated
  deriving DecidableEq, Repr

def Misuse.message : Misuse → String
  | badValue => "a value does not have the form that its option needs"
  | unknownArgument => "an argument is not known"
  | missingValue => "an option lacks its value"
  | excessValue => "an option takes no value"
  | repeated => "an option is given more than once"

/-- Why a command line gives no settings. -/
inductive Stop where
  | misuse (why : Misuse)
  | help
  | version
  deriving DecidableEq, Repr

/-- The settings given so far. -/
structure Draft where
  listen : Option Address.Socket := none
  refreshInterval : Option Nat := none
  watch : Option String := none
  nameserver : Option String := none
  dnsTimeout : Option Nat := none
  defaultGroup : Option String := none
  labelKey : Option String := none
  spaceGroups : Option (List String) := none
  streamBuffer : Option Nat := none

namespace Draft

def isGiven (d : Draft) : Flag → Bool
  | .listenAddr => d.listen.isSome
  | .refreshIntervalSecs => d.refreshInterval.isSome
  | .watchNamespace => d.watch.isSome
  | .nameserver => d.nameserver.isSome
  | .dnsTimeoutSecs => d.dnsTimeout.isSome
  | .defaultGroup => d.defaultGroup.isSome
  | .groupLabelKey => d.labelKey.isSome
  | .namespaceGroup => d.spaceGroups.isSome
  | .streamBuffer => d.streamBuffer.isSome

def wellFormed {α : Type} : Option α → Except Stop α
  | some x => .ok x
  | none => .error (.misuse .badValue)

/-- The values between commas. -/
def listed (value : String) : List String := (Text.pieces ',' value.toList).map String.ofList

/-- Only namespace groups may be given more than once. -/
def put (d : Draft) (flag : Flag) (value : String) : Except Stop Draft :=
  match flag with
  | .namespaceGroup => .ok { d with spaceGroups := some (d.spaceGroups.getD [] ++ listed value) }
  | flag =>
    if d.isGiven flag then .error (.misuse .repeated)
    else match flag with
      | .listenAddr => do
        return { d with listen := some (← wellFormed (Address.Socket.parse? value)) }
      | .refreshIntervalSecs => do
        return { d with refreshInterval := some (← wellFormed (Text.word? value)) }
      | .watchNamespace => .ok { d with watch := some value }
      | .nameserver => .ok { d with nameserver := some value }
      | .dnsTimeoutSecs => do
        return { d with dnsTimeout := some (← wellFormed (Text.word? value)) }
      | .defaultGroup => .ok { d with defaultGroup := some value }
      | .groupLabelKey => .ok { d with labelKey := some value }
      | .namespaceGroup => .ok d
      | .streamBuffer => do
        return { d with streamBuffer := some (← wellFormed (Text.word? value)) }

def complete (d : Draft) : Settings where
  listen := d.listen.getD defaultListen
  refreshInterval := d.refreshInterval.getD defaultRefreshInterval
  watch := d.watch
  nameserver := d.nameserver
  dnsTimeout := d.dnsTimeout.getD defaultDnsTimeout
  defaultGroup := d.defaultGroup.getD ""
  labelKey := d.labelKey
  spaceGroups := d.spaceGroups.getD []
  streamBuffer := d.streamBuffer.getD defaultStreamBuffer

end Draft

/-- What one word of a command line looks like. -/
inductive Word where
  /-- Two hyphens: no option comes after them. -/
  | stop
  | long (name : String) (value : Option String)
  /-- Letters after one hyphen. -/
  | short (first : Char)
  | plain (text : String)

def Word.of (text : String) : Word :=
  match text.toList with
  | ['-', '-'] => .stop
  | '-' :: '-' :: cs =>
    match Text.cut? '=' cs with
    | some (name, value) => .long (String.ofList name) (some (String.ofList value))
    | none => .long (String.ofList cs) none
  | '-' :: c :: _ => .short c
  | _ => .plain text

/-- An option whose value is not put into the draft yet, and the value once it was met. -/
abbrev Open := Option (Flag × Option String)

def close (d : Draft) : Open → Except Stop Draft
  | none => .ok d
  | some (_, none) => .error (.misuse .missingValue)
  | some (flag, some value) => d.put flag value

/-- The option by which the settings are not wanted at all. -/
def stopOf? (name : String) : Option Stop :=
  if name = "help" then some .help else if name = "version" then some .version else none

def scan (d : Draft) (pending : Open) : List String → Except Stop Draft
  | [] => close d pending
  | word :: rest =>
    match Word.of word with
    | .stop => if rest.isEmpty then close d pending else .error (.misuse .unknownArgument)
    | .long name value =>
      match Flag.ofName? name, value with
      | some flag, none => do
        let d ← close d pending
        scan d (some (flag, none)) rest
      | some flag, some value => do
        let d ← close d pending
        let d ← d.put flag value
        scan d none rest
      | none, value =>
        match stopOf? name, value with
        | none, _ => .error (.misuse .unknownArgument)
        | some _, some _ => .error (.misuse .excessValue)
        | some stop, none => do
          let _ ← close d pending
          .error stop
    | .short c =>
      if c = 'h' ∨ c = 'V' then do
        let _ ← close d pending
        .error (if c = 'h' then .help else .version)
      else .error (.misuse .unknownArgument)
    | .plain text =>
      match pending with
      | some (flag, none) => scan d (some (flag, some text)) rest
      | _ => .error (.misuse .unknownArgument)

/-- The variables of the environment, by name. -/
abbrev Environment := List (String × String)

/-- A variable counts where its option was not given. -/
def addVariable (env : Environment) (d : Draft) (flag : Flag) : Except Stop Draft :=
  match env.lookup flag.variableName with
  | some value => if d.isGiven flag then .ok d else d.put flag value
  | none => .ok d

/-- The settings of a command line, without the name of the program. -/
def ofCommandLine (args : List String) (env : Environment) : Except Stop Settings := do
  let d ← scan {} none args
  let d ← Flag.all.foldlM (addVariable env) d
  return d.complete

end Namebook.Settings
