import CertFailover.Proofs.Soundness

/-!
A selector as a machine of independent registers. Its operations move index, entry, state and secret
one by one and a guard wipes the secret. Nothing keeps the registers consistent: where they are not,
a fallback is taken, and so it is if the loop of a search goes on for too long.
-/

namespace CertFailover

structure Registers where
  live : Bool
  phase : Phase
  configPath : String
  group : String
  index : Nat
  candidate? : Option Entry
  quarantine : Quarantine
  secret : Passcode
  engine? : Option String

namespace Registers

/-- What to do when a search has no entry to try, when it ended well without an entry, when a report
meets an index out of range, and when a search has not ended after a number of rounds. -/
structure Fallback where
  searching : Registers → Logged (Registers × Except Fault Unit)
  granting : Registers → Logged (Registers × Except Fault Grant)
  reporting : Registers → Logged (Registers × Decision)
  rounds : Nat
  enough : Limit.ordinals ≤ rounds
  unfinished : Registers → Logged (Registers × Except Fault Unit)

def locate (registers : Registers) (files : FileTree) :
    Logged (Registers × Except LookupFault Unit) :=
  match Lookup.inGroup files registers.configPath registers.group registers.index with
  | .ok entry => do
    Logged.log (.groupEntry registers.group registers.index entry.uri)
    pure ({ registers with candidate? := some entry }, .ok ())
  | .error fault => pure ({ registers with candidate? := none }, .error fault)

def advance (registers : Registers) (files : FileTree) :
    Logged (Registers × Except LookupFault Unit) :=
  { registers with index := registers.index + 1 }.locate files

def rewind (registers : Registers) (files : FileTree) :
    Logged (Registers × Except LookupFault Unit) :=
  { registers with index := 0 }.locate files

def reset (registers : Registers) : Registers :=
  { registers with index := 0, candidate? := none }

def giveUp (registers : Registers) : LookupFault → Logged (Registers × Except Fault Unit)
  | .noEntry => do
    Logged.log (.groupUnusable registers.group)
    pure (registers.reset, .error (.groupExhausted registers.group))
  | .config fault => do
    Logged.log (.configFailed registers.configPath fault)
    pure (registers.reset, .error (.config fault))

/-- What the operations themselves would do. After a search without an entry the secret stays. -/
def Fallback.standard : Fallback where
  searching registers := registers.giveUp .noEntry
  granting registers := pure (registers, .error (.outOfTurn registers.phase))
  reporting registers := pure (registers, .retryError)
  rounds := Limit.ordinals
  enough := Nat.le_refl _
  unfinished registers := registers.giveUp .noEntry

def unlock (registers : Registers) (host : Host) (entry : Entry) : Logged (Registers × Bool) :=
  match host.credentials entry.credentialRef with
  | .error fault => do
    Logged.log (.credentialFailed fault)
    Logged.log (.passcodeMissing entry.label)
    pure (registers, false)
  | .ok value =>
    match registers.secret.fill value with
    | (filled, none) => pure ({ registers with secret := filled }, true)
    | (filled, some _) => do
      Logged.log (.passcodeTooLong entry.label)
      pure ({ registers with secret := filled }, false)

def attempt (registers : Registers) (host : Host) (entry : Entry) :
    Logged (Registers × Bool) := do
  let (usable, judged) ← Selector.judge host registers.quarantine ⟨registers.index, entry⟩
  let marked := { registers with quarantine := judged }
  if usable then marked.unlock host entry else pure (marked, false)

def search (fallback : Fallback) (host : Host) :
    Nat → Registers → Logged (Registers × Except Fault Unit)
  | 0, registers => fallback.unfinished registers
  | rounds + 1, registers =>
    match registers.candidate? with
    | none => fallback.searching registers
    | some entry => do
      match ← registers.attempt host entry with
      | (after, true) => pure (after, .ok ())
      | (after, false) =>
        match ← after.advance host.files with
        | (missed, .error fault) => missed.giveUp fault
        | (found, .ok ()) => search fallback host rounds found

theorem search_succ {registers : Registers} {entry : Entry} (fallback : Fallback) (host : Host)
    (rounds : Nat) (held : registers.candidate? = some entry) :
    search fallback host (rounds + 1) registers = (do
      match ← registers.attempt host entry with
      | (after, true) => pure (after, .ok ())
      | (after, false) =>
        match ← after.advance host.files with
        | (missed, .error fault) => missed.giveUp fault
        | (found, .ok ()) => search fallback host rounds found) := by
  obtain ⟨live, phase, path, group, index, candidate?, quarantine, secret, engine?⟩ := registers
  subst held
  rfl

def select (fallback : Fallback) (host : Host) (registers : Registers) :
    Logged (Registers × Except Fault Unit) :=
  match registers.candidate? with
  | some _ => search fallback host fallback.rounds registers
  | none => do
    match ← registers.rewind host.files with
    | (found, .ok ()) => search fallback host fallback.rounds found
    | (missed, .error fault) => missed.giveUp fault

theorem select_of_none {registers : Registers} (fallback : Fallback) (host : Host)
    (empty : registers.candidate? = none) :
    registers.select fallback host = (do
      match ← registers.rewind host.files with
      | (found, .ok ()) => search fallback host fallback.rounds found
      | (missed, .error fault) => missed.giveUp fault) := by
  obtain ⟨live, phase, path, group, index, candidate?, quarantine, secret, engine?⟩ := registers
  subst empty
  rfl

def wipe (registers : Registers) : Registers :=
  { registers with secret := registers.secret.wipe }

def grant (fallback : Fallback) :
    Registers × Except Fault Unit → Logged (Registers × Except Fault Grant)
  | (after, .error fault) => pure ({ after.wipe with phase := .readyToGive }, .error fault)
  | (after, .ok ()) =>
    match after.candidate? with
    | none => fallback.granting after
    | some entry => do
      Logged.log (.checkedOut entry.uri after.index after.group)
      pure ({ after with phase := .readyToCheck }, .ok ⟨entry.uri, after.secret⟩)

def checkOut (fallback : Fallback) (registers : Registers) (host : Host) :
    Logged (Registers × Except Fault Grant) :=
  if !registers.live then do
    Logged.log .checkOutAfterDestroy
    pure (registers, .error .released)
  else match registers.phase with
    | .unknown | .readyToCheck => do
      Logged.log (.checkOutOutOfTurn registers.phase)
      pure (registers, .error (.outOfTurn registers.phase))
    | .readyToGive | .noCertificate => do
      let searched ← registers.select fallback host
      grant fallback searched

def succeed (registers : Registers) (files : FileTree) : Logged (Registers × Decision) :=
  let cleared := { registers with quarantine := registers.quarantine.clear registers.index }
  if registers.index = 0 then pure ({ cleared with phase := .readyToGive }, .noRetry)
  else do
    match ← cleared.rewind files with
    | (found, .ok ()) => pure ({ found with phase := .readyToGive }, .noRetry)
    | (missed, .error fault) => do
      Logged.log (.firstEntryLost missed.group fault)
      pure ({ missed with phase := .noCertificate }, .retryError)

def reject (registers : Registers) (files : FileTree) (code : Nat) (endpoint : String) :
    Logged (Registers × Decision) := do
  let uri? := registers.candidate?.map Entry.uri
  Logged.log (.certificateRejected code endpoint (uri?.getD "<none>"))
  let time? := uri?.bind fun uri => files.modified? (Entry.pathOfUri uri)
  let marked := { registers with quarantine := registers.quarantine.mark registers.index time? }
  match ← marked.advance files with
  | (found, .ok ()) => pure ({ found with phase := .readyToGive }, .tryAnother)
  | (missed, .error fault) => do
    match fault with
    | .config cause => Logged.log (.configFailed missed.configPath cause)
    | .noEntry => pure ()
    Logged.log (.groupExhausted missed.group)
    pure ({ missed.reset with phase := .noCertificate }, .noRetry)

def settle (fallback : Fallback) (registers : Registers) (files : FileTree) (code : Nat)
    (endpoint : String) : Logged (Registers × Decision) :=
  if !registers.live then do
    Logged.log .reportAfterDestroy
    pure (registers, .retryError)
  else if registers.phase ≠ .readyToCheck then do
    Logged.log (.reportOutOfTurn registers.phase)
    pure (registers, .retryError)
  else if Limit.ordinals ≤ registers.index then fallback.reporting registers
  else match Outcome.ofCode code with
    | .success => registers.succeed files
    | .certificateError => registers.reject files code endpoint
    | .other => do
      Logged.log (.otherFailure endpoint code)
      pure ({ registers with phase := .readyToGive }, .noRetry)

def report (fallback : Fallback) (registers : Registers) (files : FileTree) (code : Nat)
    (endpoint : String) : Logged (Registers × Decision) := do
  let (after, decision) ← registers.settle fallback files code endpoint
  pure (after.wipe, decision)

def destroy (registers : Registers) : Logged Registers :=
  if !registers.live then pure registers
  else do
    Logged.log (.selectorDestroyed registers.group)
    pure { registers.reset.wipe with
      quarantine := .empty, engine? := none, phase := .unknown, live := false }

def call (fallback : Fallback) (registers : Registers) (host : Host) :
    Selector.Call → Logged (Registers × Reply)
  | .checkOut => do
    let (next, result) ← registers.checkOut fallback host
    pure (next, .ofGrant result)
  | .report code endpoint => do
    let (next, decision) ← registers.report fallback host.files code endpoint
    pure (next, .decided decision)
  | .destroy => do
    let next ← registers.destroy
    pure (next, .destroyed)

def run (fallback : Fallback) (registers : Registers) :
    List (Host × Selector.Call) → Logged (Registers × List Reply)
  | [] => pure (registers, [])
  | (host, made) :: rest => do
    let (next, reply) ← registers.call fallback host made
    let (last, replies) ← next.run fallback rest
    pure (last, reply :: replies)

end Registers

def Selector.registers (selector : Selector) : Registers where
  live := selector.phase ≠ .unknown
  phase := selector.phase
  configPath := selector.configPath
  group := selector.group
  index := selector.ordinal
  candidate? := selector.candidate?.map Candidate.entry
  quarantine := selector.quarantine
  secret := selector.passcode
  engine? := selector.engine?

end CertFailover
