import CertFailover.Proofs.Exhaustion
import CertFailover.Proofs.Refinement
import CertFailover.Proofs.Skips

/-!
What a check-out comes to, said without a loop. It gets to an ordinal if each one before it, from the
index on, has an entry that is not usable. It hands out the usable entry that it gets to, or fails as
the lookup does that it gets to, and it empties the slots of the entries that it gets to unless they
hold the times of their files.
-/

namespace CertFailover

namespace Registers

/-- The entry that a check-out meets at an ordinal. At the index it is the one held, if any. -/
def meets (registers : Registers) (files : FileTree) (ordinal : Nat) : Except LookupFault Entry :=
  let found := Lookup.inGroup files registers.configPath registers.group ordinal
  if ordinal = registers.index then registers.candidate?.elim found .ok else found

theorem meets_of_none {registers : Registers} (empty : registers.candidate? = none)
    (files : FileTree) (ordinal : Nat) :
    registers.meets files ordinal =
      Lookup.inGroup files registers.configPath registers.group ordinal := by
  simp [meets, empty]

/-- A check-out gets to an ordinal, since from the index on all before it exist and none is usable. -/
structure Arrives (registers : Registers) (host : Host) (ordinal : Nat) : Prop where
  upward : registers.index ≤ ordinal
  passed : ∀ earlier, registers.index ≤ earlier → earlier < ordinal →
    ∃ entry, registers.meets host.files earlier = .ok entry ∧
      ¬Selector.Usable host registers.quarantine ⟨earlier, entry⟩

theorem Arrives.not_lt {registers : Registers} {host : Host} {stop later : Nat}
    (here : registers.Arrives host stop) (there : registers.Arrives host later)
    (decisive : ∀ entry, registers.meets host.files stop = .ok entry →
      Selector.Usable host registers.quarantine ⟨stop, entry⟩) : ¬stop < later := by
  intro above
  obtain ⟨entry, found, useless⟩ := there.passed stop here.upward above
  exact useless (decisive entry found)

theorem Arrives.unique {registers : Registers} {host : Host} {first second : Nat}
    (one : registers.Arrives host first) (other : registers.Arrives host second)
    (decisive : ∀ entry, registers.meets host.files first = .ok entry →
      Selector.Usable host registers.quarantine ⟨first, entry⟩)
    (decisiveOther : ∀ entry, registers.meets host.files second = .ok entry →
      Selector.Usable host registers.quarantine ⟨second, entry⟩) : first = second := by
  have notBelow := one.not_lt other decisive
  have notAbove := other.not_lt one decisiveOther
  omega

end Registers

namespace Selector

structure Attains (selector : Selector) (host : Host) (ordinal : Nat)
    (first : Except LookupFault Candidate) (quarantine : Quarantine) (stop : Nat) : Prop where
  upward : ordinal ≤ stop
  passed : ∀ current, ordinal ≤ current → current < stop →
    ∃ candidate, selector.met host.files ordinal first current = .ok candidate ∧
      Passed host quarantine candidate

theorem Attains.refl (selector : Selector) (host : Host) (ordinal : Nat)
    (first : Except LookupFault Candidate) (quarantine : Quarantine) :
    selector.Attains host ordinal first quarantine ordinal := by
  refine ⟨Nat.le_refl _, ?_⟩
  intro current lower upper
  omega

theorem Attains.first {selector : Selector} {host : Host} {ordinal stop : Nat}
    {first : Except LookupFault Candidate} {quarantine : Quarantine}
    (attains : selector.Attains host ordinal first quarantine stop) :
    stop = ordinal ∨ ordinal < stop ∧
      ∃ candidate, first = .ok candidate ∧ Passed host quarantine candidate := by
  rcases Nat.eq_or_lt_of_le attains.upward with same | above
  · exact .inl same.symm
  · obtain ⟨candidate, found, passed⟩ := attains.passed ordinal (Nat.le_refl _) above
    rw [met_self] at found
    exact .inr ⟨above, candidate, found, passed⟩

theorem not_attains_error {selector : Selector} {host : Host} {ordinal stop : Nat}
    {fault : LookupFault} {quarantine : Quarantine} {candidate : Candidate} :
    ¬(selector.Attains host ordinal (.error fault) quarantine stop ∧
      selector.met host.files ordinal (.error fault) stop = .ok candidate) := by
  rintro ⟨attains, found⟩
  rcases attains.first with same | ⟨_, other, given, _⟩
  · rw [same, met_self] at found
    cases found
  · cases given

theorem met_succ {selector : Selector} {files : FileTree} {candidate : Candidate} {current : Nat}
    (above : candidate.ordinal < current) :
    selector.met files candidate.ordinal (.ok candidate) current =
      selector.met files (candidate.ordinal + 1)
        (selector.entryAt files (candidate.ordinal + 1)) current := by
  rw [met_of_lt above, met_entryAt]

theorem attains_succ_iff {selector : Selector} {host : Host} {candidate : Candidate}
    {quarantine : Quarantine} {stop : Nat}
    (tried : (attempt host quarantine candidate).value.1 = none)
    (above : candidate.ordinal < stop) :
    selector.Attains host candidate.ordinal (.ok candidate) quarantine stop ↔
      selector.Attains host (candidate.ordinal + 1)
        (selector.entryAt host.files (candidate.ordinal + 1))
        (attempt host quarantine candidate).value.2 stop := by
  have passed_iff {current : Nat} {other : Candidate} (beyond : candidate.ordinal < current)
      (found : selector.entryAt host.files current = .ok other) :
      Passed host (attempt host quarantine candidate).value.2 other ↔
        Passed host quarantine other := by
    have number := (entryAt_eq_ok_iff.mp found).1
    rw [Passed, Passed, barred_attempt_of_ne (by omega)]
  constructor
  · intro attains
    refine ⟨above, ?_⟩
    intro current lower upper
    obtain ⟨other, found, passed⟩ := attains.passed current (by omega) upper
    rw [met_of_lt lower] at found
    refine ⟨other, ?_, (passed_iff lower found).mpr passed⟩
    rw [met_entryAt, found]
  · intro attains
    refine ⟨by omega, ?_⟩
    intro current lower upper
    by_cases here : current = candidate.ordinal
    · subst here
      exact ⟨candidate, met_self _ _ _ _, attempt_eq_none_iff.mp tried⟩
    · obtain ⟨other, found, passed⟩ := attains.passed current (by omega) upper
      rw [met_entryAt] at found
      refine ⟨other, ?_, (passed_iff (by omega) found).mp passed⟩
      rw [met_of_lt (by omega), found]

theorem mem_visits_iff {selector : Selector} {host : Host} {tries ordinal : Nat}
    {first : Except LookupFault Candidate} {quarantine : Quarantine} {candidate : Candidate}
    (own : ∀ other, first = .ok other → other.ordinal = ordinal)
    (enough : ∀ other, first = .ok other →
      0 < tries ∧ Limit.ordinals ≤ other.ordinal + tries) :
    candidate ∈ selector.visits host tries first quarantine ↔
      selector.Attains host ordinal first quarantine candidate.ordinal ∧
        selector.met host.files ordinal first candidate.ordinal = .ok candidate := by
  induction tries generalizing first quarantine ordinal with
  | zero =>
      cases first with
      | ok lowest => exact absurd (enough lowest rfl).1 (Nat.lt_irrefl 0)
      | error fault => exact iff_of_false (by simp [visits]) not_attains_error
  | succ tries ih =>
      cases first with
      | error fault => exact iff_of_false (by simp [visits]) not_attains_error
      | ok lowest =>
          have here := own lowest rfl
          subst here
          have later := @ih (lowest.ordinal + 1)
            (selector.entryAt host.files (lowest.ordinal + 1))
            (attempt host quarantine lowest).value.2
            (fun _ found => (entryAt_eq_ok_iff.mp found).1)
            (by
              intro other found
              have number := (entryAt_eq_ok_iff.mp found).1
              have bound := entryAt_lt found
              have room := (enough lowest rfl).2
              omega)
          rw [mem_visits_succ_iff, later]
          constructor
          · rintro (same | ⟨tried, attains, found⟩)
            · subst same
              exact ⟨.refl _ _ _ _ _, met_self _ _ _ _⟩
            · have above : lowest.ordinal < candidate.ordinal := attains.upward
              exact ⟨(attains_succ_iff tried above).mpr attains, (met_succ above).trans found⟩
          · rintro ⟨attains, found⟩
            rcases attains.first with same | ⟨above, other, given, passed⟩
            · rw [same, met_self] at found
              cases found
              exact .inl rfl
            · cases given
              have tried := attempt_eq_none_iff.mpr passed
              exact .inr ⟨tried, (attains_succ_iff tried above).mp attains,
                (met_succ above).symm.trans found⟩

theorem met_begin_eq (selector : Selector) (files : FileTree) (current : Nat) :
    selector.met files selector.ordinal (selector.begin files).value current =
      (selector.registers.meets files current).map (⟨current, ·⟩) := by
  rw [met, Registers.meets]
  by_cases here : current = selector.ordinal
  · have same : current = selector.registers.index := here
    rw [if_pos here, if_pos same, value_begin]
    cases held : selector.candidate? with
    | none =>
        have first := here.trans (ordinal_of_none held)
        simp [registers, held, entryAt, first]
    | some candidate =>
        have number := here.trans (ordinal_of_candidate? held)
        simp [registers, held, number, Except.map]
  · have different : ¬current = selector.registers.index := here
    rw [if_neg here, if_neg different]
    rfl

theorem met_begin_eq_ok_iff {selector : Selector} {files : FileTree} {current : Nat}
    {candidate : Candidate} :
    selector.met files selector.ordinal (selector.begin files).value current = .ok candidate ↔
      candidate.ordinal = current ∧
        selector.registers.meets files current = .ok candidate.entry := by
  obtain ⟨number, entry⟩ := candidate
  rw [met_begin_eq]
  cases selector.registers.meets files current with
  | error fault => simp [Except.map]
  | ok found => simp [Except.map, eq_comm]

theorem met_begin_eq_error_iff {selector : Selector} {files : FileTree} {current : Nat}
    {fault : LookupFault} :
    selector.met files selector.ordinal (selector.begin files).value current = .error fault ↔
      selector.registers.meets files current = .error fault := by
  rw [met_begin_eq]
  cases selector.registers.meets files current <;> simp [Except.map]

theorem attains_begin_iff {selector : Selector} {host : Host} {stop : Nat} :
    selector.Attains host selector.ordinal (selector.begin host.files).value selector.quarantine
        stop ↔ selector.registers.Arrives host stop := by
  constructor
  · rintro ⟨upward, passed⟩
    refine ⟨upward, fun earlier lower upper => ?_⟩
    obtain ⟨candidate, found, useless⟩ := passed earlier lower upper
    obtain ⟨rfl, met⟩ := met_begin_eq_ok_iff.mp found
    exact ⟨candidate.entry, met, fun usable => usable_iff.mp usable useless⟩
  · rintro ⟨upward, passed⟩
    refine ⟨upward, fun current lower upper => ?_⟩
    obtain ⟨entry, met, useless⟩ := passed current lower upper
    refine ⟨⟨current, entry⟩, met_begin_eq_ok_iff.mpr ⟨rfl, met⟩, ?_⟩
    by_contra unpassed
    exact useless (usable_iff.mpr unpassed)

theorem mem_visited_iff {selector : Selector} (idle : selector.Idle) {host : Host}
    {candidate : Candidate} :
    candidate ∈ selector.visited host ↔
      selector.registers.Arrives host candidate.ordinal ∧
        selector.registers.meets host.files candidate.ordinal = .ok candidate.entry := by
  have room : ∀ other, (selector.begin host.files).value = .ok other →
      0 < Limit.ordinals ∧ Limit.ordinals ≤ other.ordinal + Limit.ordinals :=
    fun _ _ => ⟨by decide, Nat.le_add_left _ _⟩
  rw [visited_of_idle idle, mem_visits_iff (fun _ first => begin_ordinal first) room,
    attains_begin_iff, met_begin_eq_ok_iff]
  simp

theorem Idle.live {selector : Selector} (idle : selector.Idle) :
    selector.registers.live = true := by
  rcases idle with phase | phase <;> simp [registers, phase]

theorem Idle.registers_checkedOut {selector : Selector} (idle : selector.Idle)
    (last : Quarantine) (ordinal : Nat) (entry : Entry) (passcode : Passcode) :
    registers { selector with
        quarantine := last
        stage := .checkedOut ⟨ordinal, entry⟩ passcode } =
      { selector.registers with
        phase := .readyToCheck
        index := ordinal
        candidate? := some entry
        quarantine := last
        secret := passcode } := by
  simp only [idle.live]
  rfl

theorem Idle.registers_emptied {selector : Selector} (idle : selector.Idle) (last : Quarantine) :
    registers { selector with quarantine := last, stage := .ready none } =
      { selector.registers with
        phase := .readyToGive
        index := 0
        candidate? := none
        quarantine := last
        secret := .empty } := by
  simp only [idle.live]
  rfl

theorem Idle.stops {selector : Selector} (idle : selector.Idle) (fallback : Registers.Fallback)
    (host : Host) :
    let start := selector.registers
    let last := (selector.checkOut host).value.1.quarantine
    ∃ stop, start.Arrives host stop ∧
      ((∃ entry passcode, start.meets host.files stop = .ok entry ∧
          Usable host start.quarantine ⟨stop, entry⟩ ∧ service? host entry = some passcode ∧
          (start.checkOut fallback host).value =
            ({ start with
                phase := .readyToCheck
                index := stop
                candidate? := some entry
                quarantine := last
                secret := passcode },
              .ok ⟨entry.uri, passcode⟩)) ∨
        ∃ fault, start.meets host.files stop = .error fault ∧
          (start.checkOut fallback host).value =
            ({ start with
                phase := .readyToGive
                index := 0
                candidate? := none
                quarantine := last
                secret := .empty },
              .error (selector.refusal fault))) := by
  intro start last
  obtain ⟨result, quarantine, searched, value⟩ := idle.checkOut host
  obtain ⟨stop, reached⟩ := searched.reached selector.ordinal (fun _ first => begin_ordinal first)
  have arrives : start.Arrives host stop :=
    attains_begin_iff.mp ⟨reached.upward, reached.passed⟩
  have same : quarantine = last := by
    simp only [last, value]
    cases result <;> rfl
  subst same
  refine ⟨stop, arrives, ?_⟩
  rw [registers_checkOut, Logged.value_map, value]
  cases result with
  | error fault =>
      refine .inr ⟨fault, met_begin_eq_error_iff.mp (reached.missed fault rfl), ?_⟩
      rw [onRegisters, idle.registers_emptied]
  | ok found =>
      obtain ⟨candidate, passcode⟩ := found
      obtain ⟨met, unbarred, served⟩ := reached.found candidate passcode rfl
      obtain ⟨rfl, meets⟩ := met_begin_eq_ok_iff.mp met
      have usable : Usable host start.quarantine candidate := by
        rw [usable_iff, Passed, served]
        simpa [start, registers] using unbarred
      refine .inl ⟨candidate.entry, passcode, meets, usable, served, ?_⟩
      rw [onRegisters, idle.registers_checkedOut]

theorem Idle.checkOut_usable {selector : Selector} (idle : selector.Idle)
    (fallback : Registers.Fallback) {host : Host} {ordinal : Nat} {entry : Entry}
    (there : selector.registers.Arrives host ordinal)
    (met : selector.registers.meets host.files ordinal = .ok entry)
    (usable : Usable host selector.registers.quarantine ⟨ordinal, entry⟩) :
    ∃ passcode, service? host entry = some passcode ∧
      (selector.registers.checkOut fallback host).value =
        ({ selector.registers with
            phase := .readyToCheck
            index := ordinal
            candidate? := some entry
            quarantine := (selector.checkOut host).value.1.quarantine
            secret := passcode },
          .ok ⟨entry.uri, passcode⟩) := by
  obtain ⟨stop, arrives, stops⟩ := idle.stops fallback host
  have decisive : ∀ other, selector.registers.meets host.files stop = .ok other →
      Usable host selector.registers.quarantine ⟨stop, other⟩ := by
    intro other same
    rcases stops with ⟨found, _, given, useful, _⟩ | ⟨fault, missed, _⟩
    · cases given.symm.trans same
      exact useful
    · cases missed.symm.trans same
  have own : ∀ other, selector.registers.meets host.files ordinal = .ok other →
      Usable host selector.registers.quarantine ⟨ordinal, other⟩ := by
    intro other same
    cases met.symm.trans same
    exact usable
  obtain rfl := there.unique arrives own decisive
  rcases stops with ⟨found, passcode, given, _, served, value⟩ | ⟨fault, missed, _⟩
  · cases met.symm.trans given
    exact ⟨passcode, served, value⟩
  · cases met.symm.trans missed

theorem slot?_checkOut_iff {selector : Selector} (idle : selector.Idle) {host : Host}
    {ordinal : Nat} {time : Timestamp} :
    (selector.checkOut host).value.1.quarantine.slot? ordinal = some time ↔
      selector.quarantine.slot? ordinal = some time ∧
        ∀ entry, selector.registers.Arrives host ordinal →
          selector.registers.meets host.files ordinal = .ok entry →
            host.files.modified? entry.path = some time := by
  rw [slot?_checkOut_eq_some_iff]
  refine and_congr_right fun slot => ?_
  constructor
  · intro barred entry arrives met
    obtain ⟨other, modified, marked⟩ :=
      barred ⟨ordinal, entry⟩ ((mem_visited_iff idle).mpr ⟨arrives, met⟩) rfl
    rw [slot] at marked
    cases marked
    exact modified
  · rintro kept candidate visit rfl
    obtain ⟨arrives, met⟩ := (mem_visited_iff idle).mp visit
    exact ⟨time, kept candidate.entry arrives met, slot⟩

/-- A check-out in turn is decided at the first ordinal from the index on where the entry is usable
or the lookup fails. It hands that entry out, or it fails as the lookup does. It empties the slots of
the entries that it gets to unless they hold the times that the files have. -/
theorem checkOut_first_usable {selector : Selector} (idle : selector.Idle)
    (fallback : Registers.Fallback) (host : Host) :
    let start := selector.registers
    let outcome := (start.checkOut fallback host).value
    let last := outcome.1.quarantine
    (start.candidate? = none → start.index = 0) ∧
      (∀ ordinal, (∃ grant, outcome.2 = .ok grant ∧ outcome.1.index = ordinal) ↔
        start.Arrives host ordinal ∧ ∃ entry, start.meets host.files ordinal = .ok entry ∧
          Usable host start.quarantine ⟨ordinal, entry⟩) ∧
      (∀ ordinal entry, start.Arrives host ordinal →
        start.meets host.files ordinal = .ok entry →
        Usable host start.quarantine ⟨ordinal, entry⟩ →
          ∃ value passcode, host.credentials entry.credentialRef = .ok value ∧
            Passcode.Whole value passcode.bytes ∧
            outcome =
              ({ start with
                  phase := .readyToCheck
                  index := ordinal
                  candidate? := some entry
                  quarantine := last
                  secret := passcode },
                .ok ⟨entry.uri, passcode⟩)) ∧
      ((∀ grant, outcome.2 ≠ .ok grant) →
        ∃ ordinal fault, start.Arrives host ordinal ∧
          start.meets host.files ordinal = .error fault ∧
          outcome =
            ({ start with
                phase := .readyToGive
                index := 0
                candidate? := none
                quarantine := last
                secret := .empty },
              .error (selector.refusal fault))) ∧
      ∀ ordinal time, last.slot? ordinal = some time ↔
        start.quarantine.slot? ordinal = some time ∧
          ∀ entry, start.Arrives host ordinal → start.meets host.files ordinal = .ok entry →
            host.files.modified? entry.path = some time := by
  intro start outcome last
  have quarantine : last = (selector.checkOut host).value.1.quarantine := by
    simp only [last, outcome, start, registers_checkOut, Logged.value_map]
    rfl
  refine ⟨fun empty => ordinal_of_none (Option.map_eq_none_iff.mp empty), ?_, ?_, ?_, ?_⟩
  · intro ordinal
    constructor
    · rintro ⟨grant, granted, rfl⟩
      obtain ⟨stop, arrives, ⟨entry, _, met, usable, _, value⟩ | ⟨fault, _, value⟩⟩ :=
        idle.stops fallback host
      · have index : outcome.1.index = stop := congrArg (·.1.index) value
        rw [index]
        exact ⟨arrives, entry, met, usable⟩
      · cases (congrArg Prod.snd value).symm.trans granted
    · rintro ⟨there, entry, met, usable⟩
      obtain ⟨passcode, _, value⟩ := idle.checkOut_usable fallback there met usable
      exact ⟨⟨entry.uri, passcode⟩, congrArg Prod.snd value, congrArg (·.1.index) value⟩
  · intro ordinal entry there met usable
    obtain ⟨passcode, served, value⟩ := idle.checkOut_usable fallback there met usable
    obtain ⟨_, answer, answered, whole⟩ := service?_eq_some_iff.mp served
    rw [← quarantine] at value
    exact ⟨answer, passcode, answered, whole, value⟩
  · intro failed
    obtain ⟨stop, arrives, ⟨entry, passcode, _, _, _, value⟩ | ⟨fault, missed, value⟩⟩ :=
      idle.stops fallback host
    · exact absurd (congrArg Prod.snd value) (failed ⟨entry.uri, passcode⟩)
    · rw [← quarantine] at value
      exact ⟨stop, fault, arrives, missed, value⟩
  · intro ordinal time
    rw [quarantine]
    exact slot?_checkOut_iff idle

/-- Both certificates have been reported bad, and the second one has been renewed since. -/
theorem checkOut_first_usable_sample :
    let round := [(sampleHost, Call.checkOut), (sampleHost, .report 58 "host")]
    let selector := (sample.run (round ++ round)).value.1
    let host := { sampleHost with files := sampleFiles.touch "b.p12" ⟨1⟩ }
    let start := selector.registers
    let outcome := (start.checkOut .standard host).value
    selector.Idle ∧ start.phase = .noCertificate ∧ start.Arrives host 1 ∧
      start.meets host.files 1 = .ok ⟨"M", "b.p12", "pd"⟩ ∧
      Usable host start.quarantine ⟨1, ⟨"M", "b.p12", "pd"⟩⟩ ∧
      (∃ passcode, passcode.bytes = Bytes.ofText "pd" ∧ outcome.2 = .ok ⟨"b.p12", passcode⟩ ∧
        outcome.1.index = 1) ∧
      outcome.1.quarantine.slot? 0 = some .epoch ∧ outcome.1.quarantine.slot? 1 = none := by
  intro round selector host start outcome
  have idle : selector.Idle := .inr (by rfl)
  have lookup (ordinal : Nat) :
      start.meets host.files ordinal = Lookup.inGroup host.files "c.cfg" "G" ordinal :=
    start.meets_of_none (by rfl) host.files ordinal
  have first : start.meets host.files 0 = .ok ⟨"L", "a.p12", "pc"⟩ := (lookup 0).trans (by rfl)
  have met : start.meets host.files 1 = .ok ⟨"M", "b.p12", "pd"⟩ := (lookup 1).trans (by rfl)
  have useless : ¬Usable host start.quarantine ⟨0, ⟨"L", "a.p12", "pc"⟩⟩ := by
    rintro ⟨time, _, _, modified, free, _⟩
    cases (show some Timestamp.epoch = some time from modified)
    exact free (by rfl)
  have arrives : start.Arrives host 1 := by
    refine ⟨Nat.zero_le 1, ?_⟩
    intro earlier _ upper
    obtain rfl : earlier = 0 := by omega
    exact ⟨_, first, useless⟩
  have usable : Usable host start.quarantine ⟨1, ⟨"M", "b.p12", "pd"⟩⟩ :=
    ⟨⟨1⟩, Bytes.ofText "pd", _, by rfl, by decide, by rfl, .plain (by decide), by decide⟩
  obtain ⟨_, _, granted, _, slots⟩ := checkOut_first_usable idle .standard host
  obtain ⟨value, passcode, answered, whole, same⟩ := granted 1 _ arrives met usable
  cases (show Except.ok (Bytes.ofText "pd") = Except.ok value from answered)
  refine ⟨idle, by rfl, arrives, met, usable,
    ⟨passcode, whole.unique (.plain (by decide)), ?_, ?_⟩, ?_, ?_⟩
  · exact congrArg Prod.snd same
  · exact congrArg (·.1.index) same
  · refine (slots 0 .epoch).mpr ⟨by rfl, fun entry _ found => ?_⟩
    cases first.symm.trans found
    rfl
  · rw [Option.eq_none_iff_forall_ne_some]
    intro time kept
    have modified := ((slots 1 time).mp kept).2 _ arrives met
    cases (show some (Timestamp.mk 1) = some time from modified)
    exact absurd ((slots 1 ⟨1⟩).mp kept).1 (by decide)

end Selector

end CertFailover
