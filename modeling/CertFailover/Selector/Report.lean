import CertFailover.Outcome
import CertFailover.Selector.Basic

/-!
Reporting how a connection went. Success makes the first entry of the group current again, an error
of the certificate quarantines it and moves on, and any other failure changes nothing. The passcode
is gone in each case.
-/

namespace CertFailover.Selector

def succeed (selector : Selector) (files : FileTree) (candidate : Candidate) :
    Logged (Selector × Decision) :=
  let cleared := { selector with quarantine := selector.quarantine.clear candidate.ordinal }
  if candidate.ordinal = 0 then
    pure ({ cleared with stage := .ready (some candidate) }, .noRetry)
  else do
    match ← cleared.seek files 0 with
    | .ok first => pure ({ cleared with stage := .ready (some first) }, .noRetry)
    | .error fault => do
      Logged.log (.firstEntryLost selector.group fault)
      pure ({ cleared with stage := .exhausted }, .retryError)

def reject (selector : Selector) (files : FileTree) (candidate : Candidate) (code : Nat)
    (endpoint : String) : Logged (Selector × Decision) := do
  Logged.log (.certificateRejected code endpoint candidate.entry.uri)
  let marked := { selector with
    quarantine := selector.quarantine.mark candidate.ordinal
      (files.modified? candidate.entry.path) }
  match ← marked.seek files (candidate.ordinal + 1) with
  | .ok next => pure ({ marked with stage := .ready (some next) }, .tryAnother)
  | .error fault => do
    match fault with
    | .config cause => Logged.log (.configFailed selector.configPath cause)
    | .noEntry => pure ()
    Logged.log (.groupExhausted selector.group)
    pure ({ marked with stage := .exhausted }, .noRetry)

/-- Takes the result code of the connection that was made with the certificate checked out. The
endpoint only serves the log. -/
def report (selector : Selector) (files : FileTree) (code : Nat) (endpoint : String) :
    Logged (Selector × Decision) :=
  match selector.stage with
  | .destroyed => do
    Logged.log .reportAfterDestroy
    pure (selector, .retryError)
  | .ready _ | .exhausted => do
    Logged.log (.reportOutOfTurn selector.phase)
    pure (selector, .retryError)
  | .checkedOut candidate _ =>
    match Outcome.ofCode code with
    | .success => selector.succeed files candidate
    | .certificateError => selector.reject files candidate code endpoint
    | .other => do
      Logged.log (.otherFailure endpoint code)
      pure ({ selector with stage := .ready (some candidate) }, .noRetry)

end CertFailover.Selector
