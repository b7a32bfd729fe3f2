import CertFailover.Host
import CertFailover.Selector.Basic

/-!
Checking a certificate out. The search goes from the candidate upwards and takes the first one whose
file exists, that is not in quarantine and whose passcode can be had.
-/

namespace CertFailover.Selector

def judge (host : Host) (quarantine : Quarantine) (candidate : Candidate) :
    Logged (Bool × Quarantine) :=
  match host.files.modified? candidate.entry.path with
  | none => do
    Logged.log (.certificateFileMissing candidate.entry.path)
    pure (false, quarantine.clear candidate.ordinal)
  | some time =>
    match quarantine.check candidate.ordinal time with
    | (.usable, checked) => pure (true, checked)
    | (.renewed, checked) => do
      Logged.log (.certificateRenewed candidate.entry.uri)
      pure (true, checked)
    | (.quarantined, checked) => do
      Logged.log (.certificateQuarantined candidate.entry.uri)
      pure (false, checked)

def unlock (host : Host) (entry : Entry) : Logged (Option Passcode) :=
  match host.credentials entry.credentialRef with
  | .error fault => do
    Logged.log (.credentialFailed fault)
    Logged.log (.passcodeMissing entry.label)
    pure none
  | .ok value =>
    match Passcode.ofValue? value with
    | some passcode => pure (some passcode)
    | none => do
      Logged.log (.passcodeTooLong entry.label)
      pure none

def attempt (host : Host) (quarantine : Quarantine) (candidate : Candidate) :
    Logged (Option Passcode × Quarantine) := do
  match ← judge host quarantine candidate with
  | (false, judged) => pure (none, judged)
  | (true, judged) =>
    let passcode? ← unlock host candidate.entry
    pure (passcode?, judged)

/-- Tries what a lookup gave and, as long as candidates prove unusable, the ordinals after it. The
result is the first usable candidate with its passcode, or the lookup's fault, and the quarantine
afterwards. Since ordinals are bounded, so is the number of tries. -/
def search (selector : Selector) (host : Host) :
    Nat → Except LookupFault Candidate → Quarantine →
      Logged (Except LookupFault (Candidate × Passcode) × Quarantine)
  | _, .error fault, quarantine => pure (.error fault, quarantine)
  | 0, .ok _, quarantine => pure (.error .noEntry, quarantine)
  | tries + 1, .ok candidate, quarantine => do
    match ← attempt host quarantine candidate with
    | (some passcode, judged) => pure (.ok (candidate, passcode), judged)
    | (none, judged) => do
      let next ← selector.seek host.files (candidate.ordinal + 1)
      selector.search host tries next judged

theorem search_error (selector : Selector) (host : Host) (tries : Nat) (fault : LookupFault)
    (quarantine : Quarantine) :
    selector.search host tries (.error fault) quarantine = pure (.error fault, quarantine) := by
  cases tries <;> rfl

theorem search_succ (selector : Selector) (host : Host) (tries : Nat) (candidate : Candidate)
    (quarantine : Quarantine) :
    selector.search host (tries + 1) (.ok candidate) quarantine = (do
      match ← attempt host quarantine candidate with
      | (some passcode, judged) => pure (.ok (candidate, passcode), judged)
      | (none, judged) =>
        let following ← selector.seek host.files (candidate.ordinal + 1)
        selector.search host tries following judged) := by
  rfl

def begin (selector : Selector) (files : FileTree) : Logged (Except LookupFault Candidate) :=
  match selector.candidate? with
  | some candidate => pure (.ok candidate)
  | none => selector.seek files 0

/-- Checks the next usable certificate out, which must be reported before the next check-out. A
search that fails leaves no candidate, so that the next one begins at the first ordinal. -/
def checkOut (selector : Selector) (host : Host) : Logged (Selector × Except Fault Grant) :=
  match selector.stage with
  | .destroyed => do
    Logged.log .checkOutAfterDestroy
    pure (selector, .error .released)
  | .checkedOut .. => do
    Logged.log (.checkOutOutOfTurn selector.phase)
    pure (selector, .error (.outOfTurn selector.phase))
  | .ready _ | .exhausted => do
    let first ← selector.begin host.files
    match ← selector.search host Limit.ordinals first selector.quarantine with
    | (.error fault, quarantine) => do
      let cause ← selector.giveUp fault
      pure ({ selector with quarantine := quarantine, stage := .ready none }, .error cause)
    | (.ok (candidate, passcode), quarantine) => do
      Logged.log (.checkedOut candidate.entry.uri candidate.ordinal selector.group)
      pure
        ({ selector with quarantine := quarantine, stage := .checkedOut candidate passcode },
          .ok ⟨candidate.entry.uri, passcode⟩)

end CertFailover.Selector
