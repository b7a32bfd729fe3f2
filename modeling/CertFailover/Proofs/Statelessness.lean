import CertFailover.Proofs.LocatorRegisters

/-!
Lookups by label leave no trace in each other. What one comes to is decided by the surroundings that
it meets, and it leaves a certificate with its passcode behind if it succeeds and nothing if it fails.
-/

namespace CertFailover.Locator

/-- What a label comes to in given surroundings: the certificate with its passcode, or one of six ways
to fail, each of them where none before it applies. -/
inductive Sought (host : Host) (configPath label : String) : Except Fault Located → Prop
  | refused {fault}
      (invalid : Field.label.validate label [Entry.fieldSeparator] = .error fault) :
      Sought host configPath label (.error fault)
  | unreadable {fault} (valid : Field.label.validate label [Entry.fieldSeparator] = .ok ())
      (lookup : Lookup.byLabel host.files configPath label = .error (.config fault)) :
      Sought host configPath label (.error (.config fault))
  | unknown (valid : Field.label.validate label [Entry.fieldSeparator] = .ok ())
      (lookup : Lookup.byLabel host.files configPath label = .error .noEntry) :
      Sought host configPath label (.error (.labelUnknown label))
  | missing {entry} (valid : Field.label.validate label [Entry.fieldSeparator] = .ok ())
      (lookup : Lookup.byLabel host.files configPath label = .ok entry)
      (absent : host.files.modified? entry.path = none) :
      Sought host configPath label (.error (.certificateMissing entry.path))
  | unresolved {entry time fault}
      (valid : Field.label.validate label [Entry.fieldSeparator] = .ok ())
      (lookup : Lookup.byLabel host.files configPath label = .ok entry)
      (present : host.files.modified? entry.path = some time)
      (refusal : host.credentials entry.credentialRef = .error fault) :
      Sought host configPath label (.error (.credentialUnavailable label))
  | oversized {entry time value bytes}
      (valid : Field.label.validate label [Entry.fieldSeparator] = .ok ())
      (lookup : Lookup.byLabel host.files configPath label = .ok entry)
      (present : host.files.modified? entry.path = some time)
      (answer : host.credentials entry.credentialRef = .ok value)
      (whole : Passcode.Whole value bytes) (long : Limit.passcode ≤ bytes.length) :
      Sought host configPath label (.error (.credentialUnavailable label))
  | located {found time value}
      (valid : Field.label.validate label [Entry.fieldSeparator] = .ok ())
      (lookup : Lookup.byLabel host.files configPath label = .ok found.entry)
      (present : host.files.modified? found.entry.path = some time)
      (answer : host.credentials found.entry.credentialRef = .ok value)
      (whole : Passcode.Whole value found.passcode.bytes) :
      Sought host configPath label (.ok found)

theorem sought_openEntry {host : Host} {configPath label : String} {entry : Entry}
    (valid : Field.label.validate label [Entry.fieldSeparator] = .ok ())
    (lookup : Lookup.byLabel host.files configPath label = .ok entry) :
    Sought host configPath label (openEntry host label entry).value := by
  rw [openEntry]
  cases modified : host.files.modified? entry.path with
  | none => exact .missing valid lookup modified
  | some time =>
      cases answer : host.credentials entry.credentialRef with
      | error fault => exact .unresolved valid lookup modified answer
      | ok value =>
          cases filled : Passcode.ofValue? value with
          | none =>
              obtain ⟨bytes, whole, long⟩ := Passcode.ofValue?_eq_none_iff.mp filled
              simpa [filled] using Sought.oversized valid lookup modified answer whole long
          | some passcode =>
              have found : Sought host configPath label (.ok ⟨entry, passcode⟩) :=
                .located valid lookup modified answer (Passcode.ofValue?_eq_some_iff.mp filled)
              simpa [filled] using found

theorem sought_find (locator : Locator) (host : Host) (label : String) :
    Sought host locator.configPath label (locator.find host label).value := by
  rw [find]
  cases valid : Field.label.validate label [Entry.fieldSeparator] with
  | error fault => exact .refused valid
  | ok _ =>
      simp only [seek]
      cases lookup : Lookup.byLabel host.files locator.configPath label with
      | ok entry => exact sought_openEntry valid lookup
      | error fault =>
          cases fault with
          | noEntry => exact .unknown valid lookup
          | config cause => exact .unreadable valid lookup

theorem settle_identity (registers : Registers) (outcome : Except Fault Located) :
    (registers.settle outcome).1.live = registers.live ∧
      (registers.settle outcome).1.configPath = registers.configPath ∧
      (registers.settle outcome).1.engine? = registers.engine? := by
  cases outcome <;> exact ⟨rfl, rfl, rfl⟩

theorem settle_congr {registers twin : Registers} (live : registers.live = twin.live)
    (path : registers.configPath = twin.configPath) (engine : registers.engine? = twin.engine?) :
    registers.settle = twin.settle := by
  funext outcome
  cases outcome <;> simp [Registers.settle, Registers.giveUp, Passcode.wipe, live, path, engine]

theorem Registers.run_identity {registers : Registers} (live : registers.live = true)
    {steps : List (Host × Call)} (kept : .destroy ∉ steps.map Prod.snd) :
    (registers.run steps).value.1.live = true ∧
      (registers.run steps).value.1.configPath = registers.configPath ∧
      (registers.run steps).value.1.engine? = registers.engine? := by
  induction steps generalizing registers with
  | nil => exact ⟨live, rfl, rfl⟩
  | cons step rest ih =>
      obtain ⟨host, made⟩ := step
      rw [List.map_cons, List.mem_cons, not_or] at kept
      cases made with
      | destroy => exact absurd rfl kept.1
      | locate label =>
          let locator : Locator := ⟨registers.configPath, none, true, none⟩
          have next : (registers.locate host label).value.1 =
              (registers.settle (locator.find host label).value).1 := by
            rw [registers_find live locator rfl, Logged.value_map]
          obtain ⟨sameLive, samePath, sameEngine⟩ :=
            settle_identity registers (locator.find host label).value
          rw [← next] at sameLive samePath sameEngine
          obtain ⟨lastLive, lastPath, lastEngine⟩ := ih (sameLive.trans live) kept.2
          exact ⟨lastLive, lastPath.trans samePath, lastEngine.trans sameEngine⟩

/-- Whatever two live locators of the same configuration and engine have looked up before, the next
lookup goes the same way for both and leaves both in the same state, and this is the one that the
label comes to in the surroundings of that lookup. -/
theorem lookups_stateless {first second : Locator} (live : first.live = true)
    (otherLive : second.live = true) (path : first.configPath = second.configPath)
    (engine : first.engine? = second.engine?) {past other : List (Host × Call)}
    (kept : .destroy ∉ past.map Prod.snd) (otherKept : .destroy ∉ other.map Prod.snd)
    (host : Host) (label : String) :
    let one := (first.registers.run past).value.1
    let two := (second.registers.run other).value.1
    first.registers.run past = onRegisters <$> first.run past ∧
      one.locate host label = two.locate host label ∧
      ∃ outcome, Sought host first.configPath label outcome ∧
        (one.locate host label).value =
          match outcome with
          | .ok located =>
            ({ live := true
               configPath := first.configPath
               engine? := first.engine?
               secret := located.passcode
               current? := some located.entry },
              .ok ⟨located.entry.uri, located.passcode⟩)
          | .error fault =>
            ({ live := true
               configPath := first.configPath
               engine? := first.engine?
               secret := .empty
               current? := none },
              .error fault) := by
  intro one two
  obtain ⟨oneLive, onePath, oneEngine⟩ := first.registers.run_identity live kept
  obtain ⟨twoLive, twoPath, twoEngine⟩ := second.registers.run_identity otherLive otherKept
  have settled : one.locate host label = first.registers.settle <$> first.find host label := by
    rw [registers_find oneLive first onePath,
      @settle_congr _ first.registers (oneLive.trans live.symm) onePath oneEngine]
  have settledOther : two.locate host label =
      first.registers.settle <$> first.find host label := by
    rw [registers_find twoLive first (twoPath.trans path.symm),
      @settle_congr _ first.registers (twoLive.trans live.symm)
        (twoPath.trans path.symm) (twoEngine.trans engine.symm)]
  refine ⟨registers_run (sound_of_live live) past, settled.trans settledOther.symm, _,
    sought_find first host label, ?_⟩
  rw [settled, Logged.value_map]
  cases (first.find host label).value with
  | error fault => simp [Registers.settle, Registers.giveUp, Passcode.wipe, registers, live]
  | ok located => simp [Registers.settle, registers, live]

/-- One locator has found the first certificate and the other nothing; then the file of the second
one is gone. -/
theorem lookups_stateless_sample :
    let fresh : Locator := ⟨"c.cfg", none, true, none⟩
    let past := [(Selector.sampleHost, Call.locate "L")]
    let other := [(Selector.sampleHost, Call.locate "N")]
    let host : Host :=
      { Selector.sampleHost with files := Selector.sampleFiles.remove "b.p12" }
    let one := (fresh.registers.run past).value.1
    let two := (fresh.registers.run other).value.1
    one.current? = some ⟨"L", "a.p12", "pc"⟩ ∧ two.current? = none ∧
      one.locate host "M" = two.locate host "M" ∧
      (one.locate host "M").value.2 = .error (.certificateMissing "b.p12") ∧
      (one.locate host "M").value.1.current? = none := by
  intro fresh past other host one two
  refine ⟨by decide +kernel +revert, by decide +kernel +revert, ?_, by decide +kernel +revert,
    by decide +kernel +revert⟩
  exact (@lookups_stateless fresh fresh rfl rfl rfl rfl past other (by decide) (by decide) host
    "M").2.1

end CertFailover.Locator
