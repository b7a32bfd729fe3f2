import CertFailover.Files.Basic
import CertFailover.Limit
import CertFailover.Phase
import CertFailover.Text.Quoted

/-!
What can go wrong, by cause. Every fault has a status, which callers branch on, and a message.
-/

namespace CertFailover

inductive Status where
  | generalFailure
  | badHandle
  | fileError
  | fileNotFound
  | badArgument
  deriving DecidableEq

namespace Status

def all : List Status :=
  [.generalFailure, .badHandle, .fileError, .fileNotFound, .badArgument]

def name : Status → String
  | generalFailure => "general_failure"
  | badHandle => "bad_pointer"
  | fileError => "file_error"
  | fileNotFound => "file_not_found"
  | badArgument => "bad_argument"

def tag : Status → String
  | generalFailure => "GeneralFailure"
  | badHandle => "BadPointer"
  | fileError => "FileError"
  | fileNotFound => "FileNotFound"
  | badArgument => "BadArgument"

/-- Zero is left for success. -/
def code : Status → Nat
  | generalFailure => 1
  | badHandle => 2
  | fileError => 3
  | fileNotFound => 4
  | badArgument => 5

end Status

def Field.excess (field : Field) (length : Nat) : String :=
  field.name ++ " is too long (limit=" ++ toString field.limit ++ ", actual=" ++ toString length
    ++ ")"

inductive ConfigFault where
  | notOpened (path : String)
  | notRead (path : String) (cause : FileError)
  | lineTooLong (line : Nat)
  | lineNotUtf8 (line : Nat)
  | missingFields (line : Nat)
  | fieldTooLong (line : Nat) (field : Field) (length : Nat)
  deriving DecidableEq

namespace ConfigFault

def message : ConfigFault → String
  | notOpened path => "config file not found: " ++ Text.quoted path
  | notRead path cause =>
    "failed to read config file " ++ Text.quoted path ++ ": " ++ cause.message
  | lineTooLong line => s!"line {line} exceeds {Limit.line} bytes"
  | lineNotUtf8 line => s!"line {line} is not valid utf-8"
  | missingFields line => s!"line {line} is missing required fields"
  | fieldTooLong line field length => "line " ++ toString line ++ ": " ++ field.excess length

def status : ConfigFault → Status
  | notOpened _ => .fileNotFound
  | _ => .fileError

end ConfigFault

inductive LookupFault where
  | noEntry
  | config (fault : ConfigFault)
  deriving DecidableEq

def LookupFault.message : LookupFault → String
  | noEntry => "no matching certificate entry"
  | config fault => fault.message

inductive Fault where
  | released
  | emptyArgument (field : Field)
  | reservedCharacter (field : Field) (character : Char)
  | argumentTooLong (field : Field) (length : Nat)
  | config (fault : ConfigFault)
  | groupExhausted (group : String)
  | labelUnknown (label : String)
  | certificateMissing (path : String)
  | credentialUnavailable (label : String)
  | outOfTurn (phase : Phase)
  deriving DecidableEq

namespace Fault

def message : Fault → String
  | released => "handle is no longer valid"
  | emptyArgument field => field.name ++ " is empty"
  | reservedCharacter field character =>
    field.name ++ " contains reserved character " ++ Text.quotedChar character
  | argumentTooLong field length => field.excess length
  | config fault => "configuration error: " ++ fault.message
  | groupExhausted group => "no usable certificate in group " ++ Text.quoted group
  | labelUnknown label => "no certificate labelled " ++ Text.quoted label
  | certificateMissing path => "certificate file not found: " ++ Text.quoted path
  | credentialUnavailable label =>
    "credential for certificate " ++ Text.quoted label ++ " is unavailable"
  | outOfTurn phase => "operation not allowed in state " ++ phase.name

def status : Fault → Status
  | released => .badHandle
  | emptyArgument _ | reservedCharacter .. | argumentTooLong .. => .badArgument
  | config fault => fault.status
  | groupExhausted _ | labelUnknown _ | certificateMissing _ => .fileNotFound
  | credentialUnavailable _ => .fileError
  | outOfTurn _ => .generalFailure

end Fault

def Field.validate (field : Field) (value : String) (reserved : List Char) : Except Fault Unit :=
  if value = "" then .error (.emptyArgument field)
  else match value.toList.find? reserved.contains with
    | some character => .error (.reservedCharacter field character)
    | none =>
      if field.fits value.utf8ByteSize then .ok ()
      else .error (.argumentTooLong field value.utf8ByteSize)

end CertFailover
