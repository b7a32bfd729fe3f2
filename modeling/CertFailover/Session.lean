import CertFailover.Locator.Run
import CertFailover.Selector.Options
import CertFailover.Selector.Run

/-!
Sessions: any number of selectors and locators over one file tree, which may be edited between the
calls. Each handle keeps the source of its credentials.
-/

namespace CertFailover

inductive Handle where
  | selector (selector : Selector) (source : CredentialSource)
  | locator (locator : Locator) (source : CredentialSource)

structure Session where
  files : FileTree
  handles : List (String × Handle)

namespace Session

/-- What happens in a session. Opening under a name that is in use drops its handle first. -/
inductive Step where
  | edit (change : FileTree → FileTree)
  | openSelector (name : String) (options : SelectorOptions)
  | openLocator (name configPath propertiesPath : String) (source : CredentialSource)
  | onSelector (name : String) (call : Selector.Call)
  | onLocator (name : String) (call : Locator.Call)
  | destroy (name : String)

inductive Result where
  | edited
  | opened
  | refused (fault : Fault)
  | replied (reply : Reply)
  | noHandle
  | wrongHandle
  deriving DecidableEq

def handle? (session : Session) (name : String) : Option Handle :=
  session.handles.lookup name

def without (session : Session) (name : String) : Session :=
  { session with handles := session.handles.filter (·.1 != name) }

def hold (session : Session) (name : String) (handle : Handle) : Session :=
  { session with handles := (name, handle) :: (session.without name).handles }

def host (session : Session) (source : CredentialSource) : Host :=
  ⟨session.files, source.credentials session.files⟩

def drop (session : Session) (name : String) : Logged Session :=
  match session.handle? name with
  | some (.selector selector _) => do
    let _ ← selector.destroy
    pure (session.without name)
  | _ => pure (session.without name)

def onSelector (session : Session) (name : String) (selector : Selector)
    (source : CredentialSource) (call : Selector.Call) : Logged (Session × Result) := do
  let (next, reply) ← selector.call (session.host source) call
  pure (session.hold name (.selector next source), .replied reply)

def onLocator (session : Session) (name : String) (locator : Locator)
    (source : CredentialSource) (call : Locator.Call) : Logged (Session × Result) := do
  let (next, reply) ← locator.call (session.host source) call
  pure (session.hold name (.locator next source), .replied reply)

def step (session : Session) : Step → Logged (Session × Result)
  | .edit change => pure ({ session with files := change session.files }, .edited)
  | .openSelector name options => do
    let dropped ← session.drop name
    match ← options.build dropped.files with
    | .ok selector => pure (dropped.hold name (.selector selector options.source), .opened)
    | .error fault => pure (dropped, .refused fault)
  | .openLocator name configPath propertiesPath source => do
    let dropped ← session.drop name
    match ← Locator.create dropped.files configPath propertiesPath with
    | .ok locator => pure (dropped.hold name (.locator locator source), .opened)
    | .error fault => pure (dropped, .refused fault)
  | .onSelector name call =>
    match session.handle? name with
    | none => pure (session, .noHandle)
    | some (.locator ..) => pure (session, .wrongHandle)
    | some (.selector selector source) => session.onSelector name selector source call
  | .onLocator name call =>
    match session.handle? name with
    | none => pure (session, .noHandle)
    | some (.selector ..) => pure (session, .wrongHandle)
    | some (.locator locator source) => session.onLocator name locator source call
  | .destroy name =>
    match session.handle? name with
    | none => pure (session, .noHandle)
    | some (.selector selector source) => session.onSelector name selector source .destroy
    | some (.locator locator source) => session.onLocator name locator source .destroy

def run (session : Session) : List Step → Logged (Session × List Result)
  | [] => pure (session, [])
  | next :: rest => do
    let (after, result) ← session.step next
    let (last, results) ← after.run rest
    pure (last, result :: results)

end Session

end CertFailover
