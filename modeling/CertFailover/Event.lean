import CertFailover.Credential
import CertFailover.Fault

/-!
Events, the records that operations log. No event holds a passcode, and a credential reference is
told at the level `debug` only.
-/

namespace CertFailover

inductive Level where
  | error
  | warn
  | info
  | debug
  deriving DecidableEq

def Level.name : Level → String
  | error => "error"
  | warn => "warn"
  | info => "info"
  | debug => "debug"

inductive Event where
  | groupEntry (group : String) (ordinal : Nat) (uri : String)
  | labelEntry (label uri : String)
  | configFailed (path : String) (fault : ConfigFault)
  | engineFileNotOpened (path : String) (cause : FileError)
  | engineFileNotRead (path : String) (cause : FileError)
  | engineLineSkipped (line : Nat) (path : String)
  | engineFound (engine path : String)
  | engineAbsent (key path : String)
  | selectorCreated (group configPath : String) (engine? : Option String)
  | selectorDestroyed (group : String)
  | checkOutAfterDestroy
  | checkOutOutOfTurn (phase : Phase)
  | certificateFileMissing (path : String)
  | certificateRenewed (uri : String)
  | certificateQuarantined (uri : String)
  | credentialFailed (fault : CredentialFault)
  | passcodeMissing (label : String)
  | passcodeTooLong (label : String)
  | groupUnusable (group : String)
  | checkedOut (uri : String) (ordinal : Nat) (group : String)
  | reportAfterDestroy
  | reportOutOfTurn (phase : Phase)
  | certificateRejected (code : Nat) (endpoint uri : String)
  | groupExhausted (group : String)
  | firstEntryLost (group : String) (fault : LookupFault)
  | otherFailure (endpoint : String) (code : Nat)
  | locatorCreated (configPath : String) (engine? : Option String)
  | labelUnknown (label : String)
  | labelFileMissing (path label : String)
  | located (uri label : String)
  deriving DecidableEq

namespace Event

def level : Event → Level
  | configFailed .. | checkOutAfterDestroy | checkOutOutOfTurn _ | reportAfterDestroy
  | reportOutOfTurn _ | certificateRejected .. | firstEntryLost .. => .error
  | engineFileNotRead .. | engineLineSkipped .. | passcodeMissing _ | passcodeTooLong _
  | groupUnusable _ | groupExhausted _ | labelFileMissing .. => .warn
  | selectorCreated .. | certificateRenewed _ | otherFailure .. => .info
  | groupEntry .. | labelEntry .. | engineFileNotOpened .. | engineFound .. | engineAbsent ..
  | selectorDestroyed _ | certificateFileMissing _ | certificateQuarantined _
  | credentialFailed _ | checkedOut .. | locatorCreated .. | labelUnknown _ | located .. => .debug

def engineText (engine? : Option String) : String :=
  "(engine: " ++ engine?.getD "none" ++ ")"

def message : Event → String
  | groupEntry group ordinal uri =>
    "group " ++ Text.quoted group ++ " ordinal " ++ toString ordinal ++ " is " ++ uri
  | labelEntry label uri => "label " ++ Text.quoted label ++ " is " ++ uri
  | configFailed path fault => "failed to read " ++ path ++ ": " ++ fault.message
  | engineFileNotOpened path cause => "no engine properties at " ++ path ++ ": " ++ cause.message
  | engineFileNotRead path cause => "failed to read " ++ path ++ ": " ++ cause.message
  | engineLineSkipped line path => "skipping unreadable line " ++ toString line ++ " of " ++ path
  | engineFound engine path => "engine " ++ Text.quoted engine ++ " from " ++ path
  | engineAbsent key path => "no " ++ key ++ " entry in " ++ path
  | selectorCreated group configPath engine? =>
    "certificate selector for group " ++ Text.quoted group ++ " from " ++ configPath ++ " "
      ++ engineText engine?
  | selectorDestroyed group =>
    "certificate selector for group " ++ Text.quoted group ++ " destroyed"
  | checkOutAfterDestroy => "get_cert on a destroyed certificate selector"
  | checkOutOutOfTurn phase => "get_cert called in state " ++ phase.name
  | certificateFileMissing path => "certificate file " ++ path ++ " is missing"
  | certificateRenewed uri => "certificate " ++ uri ++ " changed, trying it again"
  | certificateQuarantined uri => "certificate " ++ uri ++ " is quarantined"
  | credentialFailed fault => "credential lookup failed: " ++ fault.message
  | passcodeMissing label => "no passcode for " ++ label ++ ", skipping"
  | passcodeTooLong label =>
    "passcode for " ++ label ++ " exceeds " ++ toString Limit.passcode ++ " bytes, skipping"
  | groupUnusable group => "no usable certificate left in group " ++ Text.quoted group
  | checkedOut uri ordinal group =>
    "checked out " ++ uri ++ " (ordinal " ++ toString ordinal ++ ") for group "
      ++ Text.quoted group
  | reportAfterDestroy => "set_curl_status on a destroyed certificate selector"
  | reportOutOfTurn phase => "set_curl_status called in state " ++ phase.name
  | certificateRejected code endpoint uri =>
    "certificate error " ++ toString code ++ " connecting to " ++ endpoint ++ " with " ++ uri
  | groupExhausted group => "no more certificates in group " ++ Text.quoted group
  | firstEntryLost group fault =>
    "cannot restore first certificate of group " ++ Text.quoted group ++ ": " ++ fault.message
  | otherFailure endpoint code =>
    "connection to " ++ endpoint ++ " failed with " ++ toString code
      ++ ", not a certificate error"
  | locatorCreated configPath engine? =>
    "certificate locator for " ++ configPath ++ " " ++ engineText engine?
  | labelUnknown label => "no certificate labelled " ++ Text.quoted label
  | labelFileMissing path label =>
    "certificate file " ++ path ++ " for " ++ Text.quoted label ++ " is missing"
  | located uri label => "located " ++ uri ++ " for " ++ Text.quoted label

end Event

end CertFailover
