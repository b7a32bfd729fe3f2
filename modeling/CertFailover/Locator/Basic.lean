import CertFailover.Engine
import CertFailover.Host
import CertFailover.Lookup

/-!
Locators look certificates up by label, without failover or quarantine. A locator keeps the entry
and the passcode of its last lookup, if that succeeded, until the next one.
-/

namespace CertFailover

structure Located where
  entry : Entry
  passcode : Passcode
  deriving DecidableEq

structure Locator where
  configPath : String
  engine? : Option String
  live : Bool
  current? : Option Located
  deriving DecidableEq

namespace Locator

def passcode (locator : Locator) : Passcode :=
  (locator.current?.map Located.passcode).getD .empty

def describe (locator : Locator) : String :=
  Text.record "CertLocator"
    [("live", toString locator.live),
     ("config_path", Text.quoted locator.configPath),
     ("engine", Text.optional Text.quoted locator.engine?),
     ("secret", locator.passcode.describe),
     ("current", Text.optional (·.entry.describe) locator.current?),
     ("resolver", CredentialSource.description)]

def create (files : FileTree) (configPath propertiesPath : String) :
    Logged (Except Fault Locator) :=
  match Field.configPath.validate configPath [] with
  | .error fault => pure (.error fault)
  | .ok () =>
    if !files.isFile configPath then pure (.error (.config (.notOpened configPath)))
    else do
      let engine? ← Engine.read files propertiesPath
      Logged.log (.locatorCreated configPath engine?)
      pure (.ok ⟨configPath, engine?, true, none⟩)

def seek (locator : Locator) (files : FileTree) (label : String) :
    Logged (Except Fault Entry) :=
  match Lookup.byLabel files locator.configPath label with
  | .ok entry => do
    Logged.log (.labelEntry label entry.uri)
    pure (.ok entry)
  | .error .noEntry => do
    Logged.log (.labelUnknown label)
    pure (.error (.labelUnknown label))
  | .error (.config fault) => do
    Logged.log (.configFailed locator.configPath fault)
    pure (.error (.config fault))

def openEntry (host : Host) (label : String) (entry : Entry) : Logged (Except Fault Located) :=
  match host.files.modified? entry.path with
  | none => do
    Logged.log (.labelFileMissing entry.path label)
    pure (.error (.certificateMissing entry.path))
  | some _ =>
    match host.credentials entry.credentialRef with
    | .error fault => do
      Logged.log (.credentialFailed fault)
      pure (.error (.credentialUnavailable label))
    | .ok value =>
      match Passcode.ofValue? value with
      | none => pure (.error (.credentialUnavailable label))
      | some passcode => do
        Logged.log (.located entry.uri label)
        pure (.ok ⟨entry, passcode⟩)

def find (locator : Locator) (host : Host) (label : String) : Logged (Except Fault Located) :=
  match Field.label.validate label [Entry.fieldSeparator] with
  | .error fault => pure (.error fault)
  | .ok () => do
    match ← locator.seek host.files label with
    | .error fault => pure (.error fault)
    | .ok entry => openEntry host label entry

def locate (locator : Locator) (host : Host) (label : String) :
    Logged (Locator × Except Fault Grant) :=
  if !locator.live then pure (locator, .error .released)
  else do
    match ← locator.find host label with
    | .error fault => pure ({ locator with current? := none }, .error fault)
    | .ok located =>
      pure
        ({ locator with current? := some located },
          .ok ⟨located.entry.uri, located.passcode⟩)

def destroy (locator : Locator) : Locator :=
  { locator with engine? := none, live := false, current? := none }

end Locator

end CertFailover
