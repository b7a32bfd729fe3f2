import CertFailover.Engine
import CertFailover.Lookup
import CertFailover.Passcode
import CertFailover.Quarantine

/-!
Selectors. A selector serves one group of a configuration file: it holds the entry to be tried
next, the quarantine of the group and, while a certificate is checked out, its passcode.
-/

namespace CertFailover

structure Candidate where
  ordinal : Nat
  entry : Entry
  deriving DecidableEq

/-- Where a selector stands. Without a candidate, the next search begins at the first ordinal. -/
inductive Stage where
  | ready (candidate? : Option Candidate)
  | checkedOut (candidate : Candidate) (passcode : Passcode)
  | exhausted
  | destroyed
  deriving DecidableEq

structure Selector where
  configPath : String
  group : String
  engine? : Option String
  quarantine : Quarantine
  stage : Stage
  deriving DecidableEq

namespace Stage

def phase : Stage → Phase
  | ready _ => .readyToGive
  | checkedOut .. => .readyToCheck
  | exhausted => .noCertificate
  | destroyed => .unknown

def candidate? : Stage → Option Candidate
  | ready candidate? => candidate?
  | checkedOut candidate _ => some candidate
  | exhausted | destroyed => none

def passcode : Stage → Passcode
  | checkedOut _ passcode => passcode
  | _ => .empty

end Stage

namespace Selector

def phase (selector : Selector) : Phase :=
  selector.stage.phase

def candidate? (selector : Selector) : Option Candidate :=
  selector.stage.candidate?

def passcode (selector : Selector) : Passcode :=
  selector.stage.passcode

def ordinal (selector : Selector) : Nat :=
  (selector.candidate?.map Candidate.ordinal).getD 0

def candidateUri? (selector : Selector) : Option String :=
  selector.candidate?.map (·.entry.uri)

def describe (selector : Selector) : String :=
  Text.record "CertSelector"
    [("state", selector.phase.tag),
     ("cursor", Text.record "Cursor"
       [("config_path", Text.quoted selector.configPath),
        ("group", Text.quoted selector.group),
        ("index", toString selector.ordinal),
        ("candidate", Text.optional (·.entry.describe) selector.candidate?)]),
     ("quarantine", selector.quarantine.describe),
     ("secret", selector.passcode.describe),
     ("engine", Text.optional Text.quoted selector.engine?),
     ("resolver", CredentialSource.description)]

def seek (selector : Selector) (files : FileTree) (ordinal : Nat) :
    Logged (Except LookupFault Candidate) :=
  match Lookup.inGroup files selector.configPath selector.group ordinal with
  | .ok entry => do
    Logged.log (.groupEntry selector.group ordinal entry.uri)
    pure (.ok ⟨ordinal, entry⟩)
  | .error fault => pure (.error fault)

def giveUp (selector : Selector) : LookupFault → Logged Fault
  | .noEntry => do
    Logged.log (.groupUnusable selector.group)
    pure (.groupExhausted selector.group)
  | .config fault => do
    Logged.log (.configFailed selector.configPath fault)
    pure (.config fault)

def create (files : FileTree) (configPath propertiesPath group : String) :
    Logged (Except Fault Selector) :=
  let checked := do
    Field.group.validate group [Entry.fieldSeparator, Entry.tagSeparator]
    Field.configPath.validate configPath []
  match checked with
  | .error fault => pure (.error fault)
  | .ok () => do
    let fresh : Selector := ⟨configPath, group, none, .empty, .ready none⟩
    match ← fresh.seek files 0 with
    | .error fault => do
      let cause ← fresh.giveUp fault
      pure (.error cause)
    | .ok candidate => do
      let engine? ← Engine.read files propertiesPath
      Logged.log (.selectorCreated group configPath engine?)
      pure (.ok { fresh with engine? := engine?, stage := .ready (some candidate) })

def destroy (selector : Selector) : Logged Selector :=
  match selector.stage with
  | .destroyed => pure selector
  | _ => do
    Logged.log (.selectorDestroyed selector.group)
    pure { selector with engine? := none, quarantine := .empty, stage := .destroyed }

end Selector

end CertFailover
