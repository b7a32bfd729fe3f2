import CertFailover.Proofs.Visits

/-!
What it means that a group is exhausted. From the current ordinal upwards no candidate is usable,
and each ordinal below was tried to no avail since the cursor last stood at or under it. Nothing is
said of what has become of those meanwhile, nor of an entry that has replaced the one held.
-/

namespace CertFailover.Selector

/-- The file of the candidate exists, it is not in quarantine as it now is, and its passcode
fits. -/
def Usable (host : Host) (quarantine : Quarantine) (candidate : Candidate) : Prop :=
  ∃ time value bytes, host.files.modified? candidate.entry.path = some time ∧
    quarantine.slot? candidate.ordinal ≠ some time ∧
    host.credentials candidate.entry.credentialRef = .ok value ∧
    Passcode.Whole value bytes ∧ bytes.length ≤ Limit.passcode - 1

inductive Tried (selector : Selector) (host : Host) (ordinal : Nat) : Call → Prop
  | skipped {candidate} (visit : candidate ∈ selector.visited host)
      (here : candidate.ordinal = ordinal)
      (useless : ¬Usable host selector.quarantine candidate) :
      Tried selector host ordinal .checkOut
  | rejected {candidate passcode code endpoint}
      (held : selector.stage = .checkedOut candidate passcode)
      (here : candidate.ordinal = ordinal)
      (bad : Outcome.ofCode code = .certificateError) :
      Tried selector host ordinal (.report code endpoint)

theorem usable_iff {host : Host} {quarantine : Quarantine} {candidate : Candidate} :
    Usable host quarantine candidate ↔ ¬Passed host quarantine candidate := by
  rw [Passed, not_or, ← ne_eq (service? host candidate.entry), Option.ne_none_iff_exists']
  simp only [service?_eq_some_iff]
  constructor
  · rintro ⟨time, value, bytes, modified, free, answered, whole, short⟩
    refine ⟨?_, ⟨bytes, Nat.lt_of_le_pred (by decide) short⟩, by simp [modified], value, answered,
      whole⟩
    rintro ⟨other, present, slot⟩
    rw [modified] at present
    cases present
    exact free slot
  · rintro ⟨unbarred, passcode, present, value, answered, whole⟩
    obtain ⟨time, modified⟩ := Option.isSome_iff_exists.mp present
    exact ⟨time, value, passcode.bytes, modified, fun slot => unbarred ⟨time, modified, slot⟩,
      answered, whole, Nat.le_sub_one_of_lt passcode.short⟩

theorem entryAt_of_met_error {selector : Selector} {files : FileTree} {ordinal : Nat}
    {fault : LookupFault}
    (missed : selector.met files selector.ordinal (selector.begin files).value ordinal =
      .error fault) : selector.entryAt files ordinal = .error fault := by
  rw [met] at missed
  split at missed
  · rename_i here
    rw [value_begin] at missed
    cases held : selector.candidate? with
    | none =>
        rw [here, ordinal_of_none held]
        simpa [held] using missed
    | some candidate => simp [held] at missed
  · exact missed

theorem Searched.useless {selector : Selector} {host : Host} {last : Quarantine}
    (searched : Searched selector host (selector.begin host.files).value selector.quarantine
      (.error .noEntry) last) {ordinal : Nat} (above : selector.ordinal ≤ ordinal)
    {candidate : Candidate}
    (found : selector.met host.files selector.ordinal (selector.begin host.files).value ordinal =
      .ok candidate) : ¬Usable host selector.quarantine candidate := by
  obtain ⟨stop, reached⟩ := searched.reached selector.ordinal (fun _ first => begin_ordinal first)
  have missed := reached.missed .noEntry rfl
  have upward := reached.upward
  rw [usable_iff, not_not]
  rcases Nat.lt_or_ge ordinal stop with below | beyond
  · obtain ⟨other, same, passed⟩ := reached.passed ordinal above below
    rw [found] at same
    cases same
    exact passed
  · -- Past the end there are no entries, and the candidate held is not past it.
    have ended := entryAt_eq_error_iff.mp (entryAt_of_met_error missed)
    have none := entryAt_eq_error_iff.mpr (Lookup.inGroup_noEntry ended beyond)
    by_cases here : ordinal = stop
    · rw [← here, found] at missed
      cases missed
    · rw [met_of_lt (by omega), none] at found
      cases found

theorem Turn.ordinal_of_failed {selector next : Selector} {host : Host} {fault : Fault}
    (turn : Turn selector host .checkOut next (.failed fault)) :
    next.ordinal = 0 ∨ next = selector := by
  cases turn with
  | failed idle searched => exact .inl rfl
  | checkOutHeld held => exact .inr rfl
  | checkOutReleased released => exact .inr rfl

theorem Turn.ordinal_of_destroy {selector next : Selector} {host : Host} {reply : Reply}
    (turn : Turn selector host .destroy next reply) : next.ordinal = 0 := by
  cases turn with
  | destroyed live => rfl
  | destroyedAgain released => rw [ordinal, candidate?, released]; rfl

theorem tried_of_checkOut {selector : Selector} {host : Host} {ordinal : Nat}
    (lower : selector.ordinal ≤ ordinal)
    (upper : ordinal < (selector.checkOut host).value.1.ordinal) :
    Tried selector host ordinal .checkOut := by
  have turn := checkOut_turn selector host
  cases result : (selector.checkOut host).value.2 with
  | error fault =>
      rw [result] at turn
      rcases turn.ordinal_of_failed with first | same
      · omega
      · rw [same] at upper
        omega
  | ok grant =>
      obtain ⟨candidate, visit, here, passed⟩ := checkOut_passed result ordinal lower upper
      refine .skipped visit here ?_
      rw [usable_iff, not_not]
      exact passed

theorem Turn.tried_of_report {selector next : Selector} {host : Host} {code : Nat}
    {endpoint : String} {reply : Reply} {ordinal : Nat}
    (turn : Turn selector host (.report code endpoint) next reply)
    (lower : selector.ordinal ≤ ordinal) (upper : ordinal < next.ordinal) :
    Tried selector host ordinal (.report code endpoint) := by
  have current {candidate : Candidate} {passcode : Passcode}
      (held : selector.stage = .checkedOut candidate passcode) :
      selector.ordinal = candidate.ordinal := ordinal_of_candidate? (candidate?_of_checkedOut held)
  cases turn with
  | reportIdle idle => omega
  | @cleared candidate _ _ _ held outcome first =>
      change ordinal < candidate.ordinal at upper
      have here := current held
      omega
  | @restored _ _ _ _ restored held outcome later found =>
      change ordinal < restored.ordinal at upper
      have first := (entryAt_eq_ok_iff.mp found).1
      omega
  | lost held outcome later missed => exact absurd upper (Nat.not_lt_zero ordinal)
  | @advanced candidate _ _ _ following held outcome found =>
      change ordinal < following.ordinal at upper
      have next := (entryAt_eq_ok_iff.mp found).1
      have here := current held
      exact .rejected held (by omega) outcome
  | ended held outcome missed => exact absurd upper (Nat.not_lt_zero ordinal)
  | @kept candidate _ _ _ held outcome =>
      change ordinal < candidate.ordinal at upper
      have here := current held
      omega

theorem tried_of_call {selector : Selector} {host : Host} {made : Call} {ordinal : Nat}
    (lower : selector.ordinal ≤ ordinal)
    (upper : ordinal < (selector.call host made).value.1.ordinal) :
    Tried selector host ordinal made := by
  cases made with
  | checkOut => exact tried_of_checkOut lower upper
  | report code endpoint =>
      exact (report_turn selector host code endpoint).tried_of_report lower upper
  | destroy =>
      have released := (destroy_turn selector host).ordinal_of_destroy
      change ordinal < selector.destroy.value.ordinal at upper
      omega

theorem Turn.exhausted {selector next : Selector} {host : Host} {group : String}
    (turn : Turn selector host .checkOut next (.failed (.groupExhausted group))) :
    group = selector.group ∧ next.Idle ∧ next.candidate? = none ∧
      ∃ last, Searched selector host (selector.begin host.files).value selector.quarantine
        (.error .noEntry) last := by
  generalize given : Reply.failed (.groupExhausted group) = reply at turn
  cases turn with
  | granted idle searched => cases given
  | @failed fault last idle searched =>
      cases fault with
      | noEntry =>
          cases given
          exact ⟨rfl, .inl rfl, rfl, last, searched⟩
      | config cause => cases given
  | checkOutHeld held => cases given
  | checkOutReleased released => cases given

theorem met_begin {selector : Selector} {files : FileTree} {ordinal : Nat}
    {candidate : Candidate} (reach : selector.candidate? = none ∨ selector.ordinal < ordinal)
    (found : selector.entryAt files ordinal = .ok candidate) :
    selector.met files selector.ordinal (selector.begin files).value ordinal = .ok candidate := by
  rw [met]
  split
  · rename_i here
    rcases reach with empty | later
    · rw [value_begin, empty, Option.elim_none, ← found, here, ordinal_of_none empty]
    · omega
  · exact found

theorem Made.tried_run {files : FileTree} {selector : Selector} (made : Made files selector)
    (steps : List (Host × Call)) {ordinal : Nat}
    (below : ordinal < (selector.run steps).value.1.ordinal) :
    ∃ before earlier call after, steps = before ++ (earlier, call) :: after ∧
      Tried (selector.run before).value.1 earlier ordinal call ∧
      ∀ middle, middle <+: after →
        ordinal < (selector.run (before ++ (earlier, call) :: middle)).value.1.ordinal := by
  have start : ¬ordinal < selector.ordinal := by
    obtain ⟨_, entry, stage, _⟩ := made.first
    simp [Selector.ordinal, candidate?, stage, Stage.candidate?]
  obtain ⟨before, earlier, call, after, split, not, since⟩ :=
    @run_since (fun current => ordinal < current.ordinal) _ start _ below
  refine ⟨before, earlier, call, after, split, ?_, since⟩
  have upper := since [] List.nil_prefix
  rw [value_run_concat] at upper
  exact tried_of_call (Nat.le_of_not_lt not) upper

/-- What the exhaustion of a group tells, after whatever has gone before: of the candidate held and
of the entries after it none is usable, and each ordinal before has been tried to no avail since the
cursor last stood at or under it. The next search covers the whole group. -/
theorem run_exhausted {files : FileTree} {selector : Selector} (made : Made files selector)
    (steps : List (Host × Call)) {host : Host} {group : String}
    (exhausted : ((selector.run steps).value.1.checkOut host).value.2 =
      .error (.groupExhausted group)) :
    let last := (selector.run steps).value.1
    let next := (last.checkOut host).value.1
    (∀ candidate, last.candidate? = some candidate → ¬Usable host last.quarantine candidate) ∧
      (∀ ordinal entry, last.candidate? = none ∨ last.ordinal < ordinal →
        Lookup.inGroup host.files selector.configPath selector.group ordinal = .ok entry →
          ¬Usable host last.quarantine ⟨ordinal, entry⟩) ∧
      (∀ ordinal, ordinal < last.ordinal →
        ∃ before earlier call after, steps = before ++ (earlier, call) :: after ∧
          Tried (selector.run before).value.1 earlier ordinal call ∧
          ∀ middle, middle <+: after →
            ordinal < (selector.run (before ++ (earlier, call) :: middle)).value.1.ordinal) ∧
      next.Idle ∧ next.candidate? = none ∧ group = selector.group := by
  intro last next
  have turn := checkOut_turn last host
  rw [show (last.checkOut host).value.2 = _ from exhausted] at turn
  obtain ⟨same, idle, none, quarantine, searched⟩ := turn.exhausted
  have identity := run_identity selector steps
  refine ⟨?_, ?_, ?_, idle, none, same.trans identity.2⟩
  · intro candidate held
    refine searched.useless (Nat.le_refl _) ?_
    rw [met_self, value_begin, held, Option.elim_some]
  · intro ordinal entry reach found
    have located : last.entryAt host.files ordinal = .ok ⟨ordinal, entry⟩ := by
      rw [entryAt_congr identity.1 identity.2]
      exact entryAt_eq_ok_iff.mpr ⟨rfl, found⟩
    have above : last.ordinal ≤ ordinal := by
      rcases reach with empty | later
      · rw [ordinal_of_none empty]
        exact Nat.zero_le _
      · exact Nat.le_of_lt later
    exact searched.useless above (met_begin reach located)
  · exact fun ordinal below => made.tried_run steps below

theorem run_exhausted_sample :
    let steps := [(sampleHost, .checkOut), (sampleHost, .report 58 "host")]
    let host := { sampleHost with files := sampleFiles.remove "b.p12" }
    let last := (sample.run steps).value.1
    Made sampleFiles sample ∧ (last.checkOut host).value.2 = .error (.groupExhausted "G") ∧
      last.candidate? = some ⟨1, ⟨"M", "b.p12", "pd"⟩⟩ ∧
      ¬Usable host last.quarantine ⟨1, ⟨"M", "b.p12", "pd"⟩⟩ ∧
      (last.checkOut host).value.1.candidate? = none := by
  have told := @run_exhausted _ _ sample_made
    [(sampleHost, .checkOut), (sampleHost, .report 58 "host")]
    { sampleHost with files := sampleFiles.remove "b.p12" } "G" (by rfl)
  exact ⟨sample_made, by rfl, by rfl, told.1 _ (by rfl), told.2.2.2.2.1⟩

/-- A group can be exhausted while one of its certificates is usable: below the cursor, where the
first certificate has been renewed since it was rejected, or at the cursor, where the configuration
now names another one than the candidate held. -/
theorem exhausted_beside_usable :
    (let steps := [(sampleHost, .checkOut), (sampleHost, .report 58 "host")]
      let host := { sampleHost with files := (sampleFiles.touch "a.p12" ⟨1⟩).remove "b.p12" }
      let last := (sample.run steps).value.1
      Made sampleFiles sample ∧ (last.checkOut host).value.2 = .error (.groupExhausted "G") ∧
        Lookup.inGroup host.files "c.cfg" "G" 0 = .ok ⟨"L", "a.p12", "pc"⟩ ∧
        Usable host last.quarantine ⟨0, ⟨"L", "a.p12", "pc"⟩⟩) ∧
    (let rewritten := sampleFiles.write "c.cfg" (Bytes.ofText "G,M,P12,b.p12,pd\n") .epoch
      let host := { sampleHost with files := rewritten.remove "a.p12" }
      Made sampleFiles sample ∧ (sample.checkOut host).value.2 = .error (.groupExhausted "G") ∧
        Lookup.inGroup host.files "c.cfg" "G" 0 = .ok ⟨"M", "b.p12", "pd"⟩ ∧
        Usable host sample.quarantine ⟨0, ⟨"M", "b.p12", "pd"⟩⟩) := by
  refine ⟨⟨sample_made, by rfl, by rfl, ⟨1⟩, Bytes.ofText "pc", Bytes.ofText "pc", ?_⟩,
    sample_made, by rfl, by rfl, .epoch, Bytes.ofText "pd", Bytes.ofText "pd", ?_⟩
  · exact ⟨by rfl, by decide, by rfl, .plain (by decide), by decide⟩
  · exact ⟨by rfl, by decide, by rfl, .plain (by decide), by decide⟩

end CertFailover.Selector
