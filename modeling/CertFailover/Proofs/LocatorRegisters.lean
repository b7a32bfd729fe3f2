import CertFailover.Locator.Run
import CertFailover.Proofs.Refinement

/-!
A locator as a machine of independent registers. A lookup gives up the secret and the entry before it
looks at anything, and sets them again one by one where it succeeds. Locators refine the machine: they
reply and log the same, and their entries and passcodes are what the registers hold.
-/

namespace CertFailover.Locator

structure Registers where
  live : Bool
  configPath : String
  engine? : Option String
  secret : Passcode
  current? : Option Entry

namespace Registers

def giveUp (registers : Registers) : Registers :=
  { registers with secret := registers.secret.wipe, current? := none }

def seek (registers : Registers) (files : FileTree) (label : String) :
    Logged (Except Fault Entry) :=
  match Lookup.byLabel files registers.configPath label with
  | .ok entry => do
    Logged.log (.labelEntry label entry.uri)
    pure (.ok entry)
  | .error .noEntry => do
    Logged.log (.labelUnknown label)
    pure (.error (.labelUnknown label))
  | .error (.config fault) => do
    Logged.log (.configFailed registers.configPath fault)
    pure (.error (.config fault))

/-- A value that does not fit leaves the secret wiped. -/
def openEntry (registers : Registers) (host : Host) (label : String) (entry : Entry) :
    Logged (Registers × Except Fault Grant) :=
  match host.files.modified? entry.path with
  | none => do
    Logged.log (.labelFileMissing entry.path label)
    pure (registers, .error (.certificateMissing entry.path))
  | some _ =>
    match host.credentials entry.credentialRef with
    | .error fault => do
      Logged.log (.credentialFailed fault)
      pure (registers, .error (.credentialUnavailable label))
    | .ok value =>
      match registers.secret.fill value with
      | (filled, some _) =>
        pure ({ registers with secret := filled }, .error (.credentialUnavailable label))
      | (filled, none) => do
        Logged.log (.located entry.uri label)
        pure ({ registers with secret := filled, current? := some entry },
          .ok ⟨entry.uri, filled⟩)

def locate (registers : Registers) (host : Host) (label : String) :
    Logged (Registers × Except Fault Grant) :=
  if !registers.live then pure (registers, .error .released)
  else
    let cleared := registers.giveUp
    match Field.label.validate label [Entry.fieldSeparator] with
    | .error fault => pure (cleared, .error fault)
    | .ok () => do
      match ← cleared.seek host.files label with
      | .error fault => pure (cleared, .error fault)
      | .ok entry => cleared.openEntry host label entry

def destroy (registers : Registers) : Registers :=
  if !registers.live then registers
  else { registers.giveUp with engine? := none, live := false }

def call (registers : Registers) (host : Host) : Call → Logged (Registers × Reply)
  | .locate label => do
    let (next, result) ← registers.locate host label
    pure (next, .ofGrant result)
  | .destroy => pure (registers.destroy, .destroyed)

def run (registers : Registers) : List (Host × Call) → Logged (Registers × List Reply)
  | [] => pure (registers, [])
  | (host, made) :: rest => do
    let (next, reply) ← registers.call host made
    let (last, replies) ← next.run rest
    pure (last, reply :: replies)

end Registers

def registers (locator : Locator) : Registers where
  live := locator.live
  configPath := locator.configPath
  engine? := locator.engine?
  secret := locator.passcode
  current? := locator.current?.map Located.entry

def onRegisters {α : Type} : Locator × α → Registers × α
  | (locator, result) => (locator.registers, result)

def Sound (locator : Locator) : Prop :=
  locator.live = false → locator.engine? = none ∧ locator.current? = none

theorem sound_of_live {locator : Locator} (live : locator.live = true) : locator.Sound := by
  intro released
  rw [live] at released
  cases released

def Registers.settle (registers : Registers) :
    Except Fault Located → Registers × Except Fault Grant
  | .ok located =>
    ({ registers with secret := located.passcode, current? := some located.entry },
      .ok ⟨located.entry.uri, located.passcode⟩)
  | .error fault => (registers.giveUp, .error fault)

theorem registers_openEntry (registers : Registers) (host : Host) (label : String)
    (entry : Entry) :
    registers.giveUp.openEntry host label entry =
      registers.settle <$> Locator.openEntry host label entry := by
  rw [Registers.openEntry, Locator.openEntry]
  cases host.files.modified? entry.path with
  | none => rfl
  | some time =>
      cases host.credentials entry.credentialRef with
      | error fault => rfl
      | ok value =>
          simp only [Passcode.fill]
          cases Passcode.ofValue? value <;> rfl

theorem registers_find {registers : Registers} (live : registers.live = true) (locator : Locator)
    (path : registers.configPath = locator.configPath) (host : Host) (label : String) :
    registers.locate host label = registers.settle <$> locator.find host label := by
  rw [Registers.locate, live, find]
  simp only [Bool.not_true, Bool.false_eq_true, if_false]
  cases Field.label.validate label [Entry.fieldSeparator] with
  | error fault => rfl
  | ok _ =>
      have sought : registers.giveUp.seek host.files label = locator.seek host.files label := by
        have same : registers.giveUp.configPath = locator.configPath := path
        cases found : Lookup.byLabel host.files locator.configPath label with
        | ok entry => simp [Registers.seek, seek, same, found]
        | error fault => cases fault <;> simp [Registers.seek, seek, same, found]
      simp only [sought, map_bind]
      congr 1
      funext result
      cases result with
      | error fault => rfl
      | ok entry => exact registers_openEntry registers host label entry

theorem registers_locate (locator : Locator) (host : Host) (label : String) :
    locator.registers.locate host label = onRegisters <$> locator.locate host label := by
  obtain ⟨configPath, engine?, live, current?⟩ := locator
  cases live with
  | false => rfl
  | true =>
      rw [registers_find rfl ⟨configPath, engine?, true, current?⟩ rfl, locate]
      simp only [Bool.not_true, Bool.false_eq_true, if_false, map_bind]
      rw [map_eq_pure_bind]
      congr 1
      funext result
      cases result <;> rfl

theorem Sound.call {locator : Locator} (sound : locator.Sound) (host : Host) (made : Call) :
    (locator.call host made).value.1.Sound := by
  obtain ⟨configPath, engine?, live, current?⟩ := locator
  cases made with
  | destroy => exact fun _ => ⟨rfl, rfl⟩
  | locate label =>
      cases live with
      | false => exact sound
      | true =>
          simp only [Locator.call, locate, Bool.not_true, Bool.false_eq_true, if_false,
            Logged.value_bind]
          cases (find _ host label).value <;> exact sound_of_live rfl

theorem registers_destroy {locator : Locator} (sound : locator.Sound) :
    locator.registers.destroy = locator.destroy.registers := by
  obtain ⟨configPath, engine?, live, current?⟩ := locator
  cases live with
  | true => rfl
  | false =>
      obtain ⟨rfl, rfl⟩ := sound rfl
      rfl

theorem registers_call {locator : Locator} (sound : locator.Sound) (host : Host) (made : Call) :
    locator.registers.call host made = onRegisters <$> locator.call host made := by
  cases made with
  | locate label =>
      simp only [Registers.call, call, registers_locate, bind_map_left, map_bind]
      rfl
  | destroy =>
      simp only [Registers.call, call, registers_destroy sound]
      rfl

theorem registers_run {locator : Locator} (sound : locator.Sound) (steps : List (Host × Call)) :
    locator.registers.run steps = onRegisters <$> locator.run steps := by
  induction steps generalizing locator with
  | nil => rfl
  | cons step rest ih =>
      obtain ⟨host, made⟩ := step
      simp only [Registers.run, run, registers_call sound, bind_map_left, map_bind]
      apply Logged.bind_congr
      simp only [onRegisters, ih (sound.call host made), bind_map_left]
      rfl

end CertFailover.Locator
