import Namebook.Settings.CommandLine
import Namebook.Text.Terminal

/-!
What the program says about itself, and how it ends when it does not start to serve.
-/

namespace Namebook.Settings

def programName : String := "dnsportal"

def programVersion : String := "0.1.0"

def about : String :=
  "Aggregated, continuously-updated view of DNS records published by Kubernetes " ++
    "DNSRecordSet resources"

namespace Flag

def help : Flag → String
  | listenAddr => "Address the HTTP API listens on"
  | refreshIntervalSecs => "Seconds between snapshot refreshes"
  | watchNamespace => "Only read DNSRecordSets from this namespace"
  | nameserver =>
    "Nameserver used for sync checks (\x60ip\x60 or \x60ip:port\x60); defaults to /etc/resolv.conf"
  | dnsTimeoutSecs => "Timeout for a single DNS query, in seconds"
  | defaultGroup => "Group used when no label or namespace rule applies"
  | groupLabelKey => "Label whose value names the group of an object"
  | namespaceGroup =>
    "Namespace to group mapping as \x60namespace=group\x60 (repeatable, or comma-separated)"
  | streamBuffer => "Events buffered per stream subscriber"

def default? : Flag → Option String
  | listenAddr => some defaultListen.render
  | refreshIntervalSecs => some (toString defaultRefreshInterval)
  | dnsTimeoutSecs => some (toString defaultDnsTimeout)
  | defaultGroup => some "\"\""
  | streamBuffer => some (toString defaultStreamBuffer)
  | watchNamespace => none
  | nameserver => none
  | groupLabelKey => none
  | namespaceGroup => none

/-- Explanations are indented by so much. -/
def indentation : Nat := 10

def explained (option explanation : String) : String :=
  option ++ Text.hang indentation ("\n" ++ explanation) ++ "\n"

/-- An option with the value that its variable has, and with its default. -/
def helpText (env : Environment) (f : Flag) : String :=
  explained ("      " ++ Text.Terminal.bold ("--" ++ f.name) ++ " <" ++ f.placeholder ++ ">")
    (f.help ++ " [env: " ++ f.variableName ++ "=" ++ (env.lookup f.variableName).getD "" ++ "]" ++
      ((f.default?.map fun value => " [default: " ++ value ++ "]").getD ""))

end Flag

/-- An option that only asks for a text. -/
def textOption (short long explanation : String) : String :=
  Flag.explained ("  " ++ Text.Terminal.bold short ++ ", " ++ Text.Terminal.bold long) explanation

def usage : String := "Usage: " ++ programName ++ " [OPTIONS]"

/-- The help text as a terminal shows it. -/
def styledHelpText (env : Environment) : String :=
  about ++ "\n\n" ++ Text.Terminal.heading "Usage:" ++ " " ++ Text.Terminal.bold programName ++
    " [OPTIONS]\n\n" ++ Text.Terminal.heading "Options:" ++ "\n" ++
    String.join (Flag.all.map (Flag.helpText env)) ++ textOption "-h" "--help" "Print help" ++
    textOption "-V" "--version" "Print version"

/-- The help text where there is no terminal. -/
def helpText (env : Environment) : String := Text.Terminal.plain (styledHelpText env)

def versionText : String := programName ++ " " ++ programVersion ++ "\n"

/-- How a start of the program goes. -/
inductive Start where
  /-- A text was asked for, and nothing else. -/
  | shown (text : String)
  /-- The command line makes no sense. -/
  | misused (why : Misuse)
  /-- The settings contradict each other. -/
  | refused (why : Problem)
  | ready (settings : Settings)

def start (args : List String) (env : Environment) : Start :=
  match ofCommandLine args env with
  | .error .help => .shown (helpText env)
  | .error .version => .shown versionText
  | .error (.misuse why) => .misused why
  | .ok settings =>
    match settings.validate with
    | .error problem => .refused problem
    | .ok _ => .ready settings

/-- What is said about a command line that makes no sense. -/
def misuseText (why : Misuse) : String := "error: " ++ why.message ++ "\n\n" ++ usage ++ "\n"

/-- What is said about settings that are refused. -/
def refusalText (problem : Problem) : String :=
  "Error: Invalid configuration\n\nCaused by:\n    " ++ Text.hang 4 problem.message ++ "\n"

end Namebook.Settings
