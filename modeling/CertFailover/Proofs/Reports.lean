import CertFailover.Proofs.Provenance
import CertFailover.Proofs.Refinement

/-!
What a report comes to while a certificate is checked out. Decision, phase, index and entry go
together, by the outcome and by what the lookup after it gives, and of the slots only that of the
ordinal reported can change.
-/

namespace CertFailover

namespace Outcome

theorem ofCode_of_success {code : Nat} (success : code = successCode) :
    ofCode code = .success := by
  rw [ofCode, if_pos success]

theorem not_success_of_mem {code : Nat} (bad : code ∈ certificateErrorCodes) :
    code ≠ successCode := by
  rintro rfl
  exact absurd bad (by decide)

theorem ofCode_of_mem {code : Nat} (bad : code ∈ certificateErrorCodes) :
    ofCode code = .certificateError := by
  rw [ofCode, if_neg (not_success_of_mem bad), if_pos bad]

theorem ofCode_of_not_mem {code : Nat} (failed : code ≠ successCode)
    (harmless : code ∉ certificateErrorCodes) : ofCode code = .other := by
  rw [ofCode, if_neg failed, if_neg harmless]

end Outcome

namespace Registers

structure InTurn (registers : Registers) : Prop where
  live : registers.live = true
  phase : registers.phase = .readyToCheck
  index : registers.index < Limit.ordinals

def settled (registers : Registers) (phase : Phase) (index : Nat) (candidate? : Option Entry)
    (quarantine : Quarantine) : Registers :=
  { registers with
    phase := phase, index := index, candidate? := candidate?, quarantine := quarantine,
    secret := .empty }

variable {registers : Registers} {files : FileTree} {code : Nat}

theorem value_locate_of_ok {entry : Entry}
    (found : Lookup.inGroup files registers.configPath registers.group registers.index =
      .ok entry) :
    (registers.locate files).value = ({ registers with candidate? := some entry }, .ok ()) := by
  simp only [locate, found]
  rfl

theorem value_locate_of_error {fault : LookupFault}
    (missed : Lookup.inGroup files registers.configPath registers.group registers.index =
      .error fault) :
    (registers.locate files).value = ({ registers with candidate? := none }, .error fault) := by
  simp only [locate, missed]
  rfl

def marked (registers : Registers) (files : FileTree) : Quarantine :=
  registers.quarantine.mark registers.index
    (registers.candidate?.bind fun held => files.modified? held.path)

theorem value_reject_of_ok {entry : Entry} (endpoint : String)
    (found : Lookup.inGroup files registers.configPath registers.group (registers.index + 1) =
      .ok entry) :
    (registers.reject files code endpoint).value =
      ({ registers with
          quarantine := registers.marked files
          index := registers.index + 1
          candidate? := some entry
          phase := .readyToGive }, .tryAnother) := by
  simp only [reject, advance, Logged.value_bind]
  rw [value_locate_of_ok found]
  cases held : registers.candidate? <;> simp [marked, held, Entry.path]

theorem value_reject_of_error {fault : LookupFault} (endpoint : String)
    (missed : Lookup.inGroup files registers.configPath registers.group (registers.index + 1) =
      .error fault) :
    (registers.reject files code endpoint).value =
      ({ registers with
          quarantine := registers.marked files
          index := 0
          candidate? := none
          phase := .noCertificate }, .noRetry) := by
  simp only [reject, advance, Logged.value_bind]
  rw [value_locate_of_error missed]
  cases held : registers.candidate? <;> cases fault <;> simp [marked, held, Entry.path, reset]

theorem value_succeed_of_zero (first : registers.index = 0) :
    (registers.succeed files).value =
      ({ registers with
          quarantine := registers.quarantine.clear registers.index
          phase := .readyToGive }, .noRetry) := by
  simp only [succeed, first, if_true]
  rfl

theorem value_succeed_of_ok {entry : Entry} (later : registers.index ≠ 0)
    (found : Lookup.inGroup files registers.configPath registers.group 0 = .ok entry) :
    (registers.succeed files).value =
      ({ registers with
          quarantine := registers.quarantine.clear registers.index
          index := 0
          candidate? := some entry
          phase := .readyToGive }, .noRetry) := by
  simp only [succeed, later, if_false, rewind, Logged.value_bind]
  rw [value_locate_of_ok found]
  rfl

theorem value_succeed_of_error {fault : LookupFault} (later : registers.index ≠ 0)
    (missed : Lookup.inGroup files registers.configPath registers.group 0 = .error fault) :
    (registers.succeed files).value =
      ({ registers with
          quarantine := registers.quarantine.clear registers.index
          index := 0
          candidate? := none
          phase := .noCertificate }, .retryError) := by
  simp only [succeed, later, if_false, rewind, Logged.value_bind]
  rw [value_locate_of_error missed]
  rfl

theorem value_report (inTurn : registers.InTurn) (fallback : Fallback) (files : FileTree)
    (code : Nat) (endpoint : String) :
    (registers.report fallback files code endpoint).value =
      Prod.map wipe id
        (match Outcome.ofCode code with
        | .success => (registers.succeed files).value
        | .certificateError => (registers.reject files code endpoint).value
        | .other => ({ registers with phase := .readyToGive }, .noRetry)) := by
  have range : ¬Limit.ordinals ≤ registers.index := Nat.not_le.mpr inTurn.index
  simp only [report, settle, inTurn.live, inTurn.phase, range, Bool.not_true, Bool.false_eq_true,
    ne_eq, not_true_eq_false, if_false]
  cases Outcome.ofCode code <;> rfl

theorem report_advanced (inTurn : registers.InTurn) (fallback : Fallback) (endpoint : String)
    (bad : code ∈ Outcome.certificateErrorCodes) {entry : Entry}
    (found : Lookup.inGroup files registers.configPath registers.group (registers.index + 1) =
      .ok entry) :
    (registers.report fallback files code endpoint).value =
      (registers.settled .readyToGive (registers.index + 1) (some entry)
        (registers.marked files), .tryAnother) := by
  rw [value_report inTurn, Outcome.ofCode_of_mem bad]
  simp only [value_reject_of_ok endpoint found]
  rfl

theorem report_ended (inTurn : registers.InTurn) (fallback : Fallback) (endpoint : String)
    (bad : code ∈ Outcome.certificateErrorCodes) {fault : LookupFault}
    (missed : Lookup.inGroup files registers.configPath registers.group (registers.index + 1) =
      .error fault) :
    (registers.report fallback files code endpoint).value =
      (registers.settled .noCertificate 0 none (registers.marked files), .noRetry) := by
  rw [value_report inTurn, Outcome.ofCode_of_mem bad]
  simp only [value_reject_of_error endpoint missed]
  rfl

theorem report_cleared (inTurn : registers.InTurn) (fallback : Fallback) (files : FileTree)
    (endpoint : String) (success : code = Outcome.successCode) (first : registers.index = 0) :
    (registers.report fallback files code endpoint).value =
      (registers.settled .readyToGive 0 registers.candidate?
        (registers.quarantine.clear registers.index), .noRetry) := by
  rw [value_report inTurn, Outcome.ofCode_of_success success]
  simp only [value_succeed_of_zero first]
  rw [settled, ← first]
  rfl

theorem report_restored (inTurn : registers.InTurn) (fallback : Fallback) (endpoint : String)
    (success : code = Outcome.successCode) (later : registers.index ≠ 0) {entry : Entry}
    (found : Lookup.inGroup files registers.configPath registers.group 0 = .ok entry) :
    (registers.report fallback files code endpoint).value =
      (registers.settled .readyToGive 0 (some entry)
        (registers.quarantine.clear registers.index), .noRetry) := by
  rw [value_report inTurn, Outcome.ofCode_of_success success]
  simp only [value_succeed_of_ok later found]
  rfl

theorem report_lost (inTurn : registers.InTurn) (fallback : Fallback) (endpoint : String)
    (success : code = Outcome.successCode) (later : registers.index ≠ 0) {fault : LookupFault}
    (missed : Lookup.inGroup files registers.configPath registers.group 0 = .error fault) :
    (registers.report fallback files code endpoint).value =
      (registers.settled .noCertificate 0 none
        (registers.quarantine.clear registers.index), .retryError) := by
  rw [value_report inTurn, Outcome.ofCode_of_success success]
  simp only [value_succeed_of_error later missed]
  rfl

theorem report_kept (inTurn : registers.InTurn) (fallback : Fallback) (files : FileTree)
    (endpoint : String) (failed : code ≠ Outcome.successCode)
    (harmless : code ∉ Outcome.certificateErrorCodes) :
    (registers.report fallback files code endpoint).value =
      (registers.settled .readyToGive registers.index registers.candidate? registers.quarantine,
        .noRetry) := by
  rw [value_report inTurn, Outcome.ofCode_of_not_mem failed harmless]
  rfl

theorem eq_settled {outcome : Registers × Decision} {phase : Phase} {index : Nat}
    {candidate? : Option Entry} {quarantine : Quarantine} {decision : Decision}
    (value : outcome = (registers.settled phase index candidate? quarantine, decision)) :
    outcome = (registers.settled phase index candidate? outcome.1.quarantine, decision) := by
  rw [value]
  rfl

theorem report_eq_tryAnother_iff (inTurn : registers.InTurn) (fallback : Fallback)
    (files : FileTree) (code : Nat) (endpoint : String) :
    (registers.report fallback files code endpoint).value.2 = .tryAnother ↔
      code ∈ Outcome.certificateErrorCodes ∧ ∃ entry,
        Lookup.inGroup files registers.configPath registers.group (registers.index + 1) =
          .ok entry := by
  by_cases bad : code ∈ Outcome.certificateErrorCodes
  · cases next : Lookup.inGroup files registers.configPath registers.group (registers.index + 1) with
    | ok entry => simp [report_advanced inTurn fallback endpoint bad next, bad]
    | error fault => simp [report_ended inTurn fallback endpoint bad next]
  · simp only [bad, false_and, iff_false]
    by_cases success : code = Outcome.successCode
    · by_cases first : registers.index = 0
      · simp [report_cleared inTurn fallback files endpoint success first]
      · cases restored : Lookup.inGroup files registers.configPath registers.group 0 with
        | ok entry => simp [report_restored inTurn fallback endpoint success first restored]
        | error fault => simp [report_lost inTurn fallback endpoint success first restored]
    · simp [report_kept inTurn fallback files endpoint success bad]

theorem report_eq_retryError_iff (inTurn : registers.InTurn) (fallback : Fallback)
    (files : FileTree) (code : Nat) (endpoint : String) :
    (registers.report fallback files code endpoint).value.2 = .retryError ↔
      code = Outcome.successCode ∧ 0 < registers.index ∧ ∃ fault,
        Lookup.inGroup files registers.configPath registers.group 0 = .error fault := by
  by_cases success : code = Outcome.successCode
  · by_cases first : registers.index = 0
    · simp [report_cleared inTurn fallback files endpoint success first, first]
    · have later := Nat.pos_of_ne_zero first
      cases restored : Lookup.inGroup files registers.configPath registers.group 0 with
      | ok entry => simp [report_restored inTurn fallback endpoint success first restored]
      | error fault =>
          rw [report_lost inTurn fallback endpoint success first restored]
          simp [success, later]
  · simp only [success, false_and, iff_false]
    by_cases bad : code ∈ Outcome.certificateErrorCodes
    · cases next : Lookup.inGroup files registers.configPath registers.group
          (registers.index + 1) with
      | ok entry => simp [report_advanced inTurn fallback endpoint bad next]
      | error fault => simp [report_ended inTurn fallback endpoint bad next]
    · simp [report_kept inTurn fallback files endpoint success bad]

end Registers

namespace Selector

theorem Sound.inTurn {selector : Selector} (sound : selector.Sound)
    (held : selector.phase = .readyToCheck) : selector.registers.InTurn where
  live := by simp [registers, held]
  phase := held
  index := sound.ordinal_lt

/-- A report on the certificate checked out decides by its code and by one lookup at most, and
leaves the selector as the decision has it. -/
theorem report_settled {files : FileTree} {selector : Selector} (made : Made files selector)
    {steps : List (Host × Call)}
    (held : (selector.run steps).value.1.phase = .readyToCheck) (host : Host) (code : Nat)
    (endpoint : String) :
    let current := (selector.run steps).value.1
    let start := current.registers
    let outcome := onRegisters (current.report host.files code endpoint).value
    let last := outcome.1.quarantine
    let first := Lookup.inGroup host.files start.configPath start.group 0
    let next := Lookup.inGroup host.files start.configPath start.group (start.index + 1)
    ∃ entry, start.candidate? = some entry ∧
      (∀ fallback, start.report fallback host.files code endpoint =
        onRegisters <$> current.report host.files code endpoint) ∧
      (outcome.2 = .tryAnother ↔
        code ∈ Outcome.certificateErrorCodes ∧ ∃ following, next = .ok following) ∧
      (outcome.2 = .retryError ↔
        code = Outcome.successCode ∧ 0 < start.index ∧ ∃ fault, first = .error fault) ∧
      (code ∈ Outcome.certificateErrorCodes →
        last.slot? start.index = host.files.modified? entry.path ∧
          (∀ following, next = .ok following →
            outcome = (start.settled .readyToGive (start.index + 1) (some following) last,
              .tryAnother)) ∧
          ∀ fault, next = .error fault →
            outcome = (start.settled .noCertificate 0 none last, .noRetry)) ∧
      (code = Outcome.successCode →
        last.slot? start.index = none ∧
          (start.index = 0 →
            outcome = (start.settled .readyToGive 0 (some entry) last, .noRetry)) ∧
          (0 < start.index →
            (∀ restored, first = .ok restored →
              outcome = (start.settled .readyToGive 0 (some restored) last, .noRetry)) ∧
            ∀ fault, first = .error fault →
              outcome = (start.settled .noCertificate 0 none last, .retryError))) ∧
      (code ≠ Outcome.successCode → code ∉ Outcome.certificateErrorCodes →
        outcome = (start.settled .readyToGive start.index (some entry) start.quarantine,
          .noRetry)) ∧
      ∀ ordinal, ordinal ≠ start.index →
        last.slot? ordinal = start.quarantine.slot? ordinal := by
  intro current start outcome last first next
  have sound : current.Sound := made.sound_run steps
  have inTurn : start.InTurn := sound.inTurn held
  obtain ⟨candidate, passcode, stage⟩ := readyToCheck_iff.mp held
  have some : current.candidate? = some candidate := candidate?_of_checkedOut stage
  have entry : start.candidate? = .some candidate.entry := by
    simp only [start, registers, some, Option.map_some]
  have index : start.index = candidate.ordinal := ordinal_of_candidate? some
  have machine (fallback : Registers.Fallback) :=
    registers_report current sound.ordinal_lt fallback host.files code endpoint
  have value : outcome = (start.report .standard host.files code endpoint).value := by
    rw [machine, Logged.value_map]
  have slots : last = _ := (report_turn current host code endpoint).quarantine_of_report stage
  rw [← index] at slots
  refine ⟨candidate.entry, entry, machine, ?_, ?_, fun bad => ⟨?_, ?_, ?_⟩,
    fun success => ⟨?_, ?_, fun later => ⟨?_, ?_⟩⟩, ?_, ?_⟩
  · rw [value]
    exact Registers.report_eq_tryAnother_iff inTurn .standard host.files code endpoint
  · rw [value]
    exact Registers.report_eq_retryError_iff inTurn .standard host.files code endpoint
  · rw [slots, Outcome.ofCode_of_mem bad, Quarantine.slot?_mark, if_pos ⟨rfl, inTurn.index⟩]
  · intro following found
    exact Registers.eq_settled (value.trans
      (Registers.report_advanced inTurn .standard endpoint bad found))
  · intro fault missed
    exact Registers.eq_settled (value.trans
      (Registers.report_ended inTurn .standard endpoint bad missed))
  · rw [slots, Outcome.ofCode_of_success success, Quarantine.slot?_clear, if_pos rfl]
  · intro zero
    rw [← entry]
    exact Registers.eq_settled (value.trans
      (Registers.report_cleared inTurn .standard host.files endpoint success zero))
  · intro restored found
    exact Registers.eq_settled (value.trans
      (Registers.report_restored inTurn .standard endpoint success (Nat.ne_of_gt later) found))
  · intro fault missed
    exact Registers.eq_settled (value.trans
      (Registers.report_lost inTurn .standard endpoint success (Nat.ne_of_gt later) missed))
  · intro failed harmless
    rw [← entry]
    exact value.trans
      (Registers.report_kept inTurn .standard host.files endpoint failed harmless)
  · intro ordinal other
    rw [slots]
    cases Outcome.ofCode code with
    | success => exact (Quarantine.slot?_clear ..).trans (if_neg (Ne.symm other))
    | certificateError =>
        exact (Quarantine.slot?_mark ..).trans (if_neg fun same => other same.1.symm)
    | other => rfl

theorem report_settled_sample :
    let steps :=
      [(sampleHost, Call.checkOut), (sampleHost, .report 58 "host"), (sampleHost, .checkOut)]
    let current := (sample.run steps).value.1
    let start := current.registers
    let host := { sampleHost with files := sampleFiles.remove "c.cfg" }
    let outcome := onRegisters (current.report host.files 0 "host").value
    Made sampleFiles sample ∧ current.phase = .readyToCheck ∧ start.index = 1 ∧
      outcome = (start.settled .noCertificate 0 none outcome.1.quarantine, .retryError) ∧
      outcome.1.quarantine.slot? 1 = none ∧ outcome.1.quarantine.slot? 0 = some .epoch := by
  intro steps current start host outcome
  have held : current.phase = .readyToCheck := by rfl
  have index : start.index = 1 := by rfl
  have later : 0 < start.index := by decide
  have missed : Lookup.inGroup (sampleFiles.remove "c.cfg") "c.cfg" "G" 0 =
      .error (.config (.notOpened "c.cfg")) := by decide +kernel
  obtain ⟨entry, _, _, _, _, _, succeeded, _, others⟩ :=
    report_settled sample_made held host 0 "host"
  obtain ⟨slot, _, restored⟩ := succeeded rfl
  exact ⟨sample_made, held, index, (restored later).2 _ missed, index ▸ slot,
    (others 0 (Nat.ne_of_lt later)).trans (by rfl)⟩

end Selector

end CertFailover
