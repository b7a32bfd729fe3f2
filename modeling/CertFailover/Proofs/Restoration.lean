import CertFailover.Proofs.Pairing

/-!
What a report of success restores. At a later ordinal it makes the first entry of the group current,
as the configuration now names it; at the first ordinal it keeps the certificate that has worked.
Where the configuration names what is then held, the selector goes on like one made anew.
-/

namespace CertFailover.Selector

theorem seek_congr {selector next : Selector} (path : next.configPath = selector.configPath)
    (group : next.group = selector.group) : next.seek = selector.seek := by
  funext files ordinal
  rw [seek, seek, path, group]

theorem search_congr {selector next : Selector} (path : next.configPath = selector.configPath)
    (group : next.group = selector.group) (host : Host) (tries : Nat)
    (first : Except LookupFault Candidate) (quarantine : Quarantine) :
    next.search host tries first quarantine = selector.search host tries first quarantine := by
  induction tries generalizing first quarantine with
  | zero => cases first <;> rfl
  | succ tries ih =>
      cases first with
      | error fault => rw [search_error, search_error]
      | ok candidate =>
          rw [search_succ, search_succ, seek_congr path group]
          simp only [ih]

theorem result_checkOut_of_idle {selector : Selector} (idle : selector.Idle) (host : Host) :
    (selector.checkOut host).value.2 =
      match (selector.search host Limit.ordinals (selector.begin host.files).value
        selector.quarantine).value.1 with
      | .error fault => .error (selector.refusal fault)
      | .ok (candidate, passcode) => .ok ⟨candidate.entry.uri, passcode⟩ := by
  rw [value_checkOut_of_idle idle]
  generalize (selector.search host Limit.ordinals (selector.begin host.files).value
    selector.quarantine).value = outcome
  obtain ⟨result, last⟩ := outcome
  cases result <;> rfl

/-- What a check-out comes to depends on the quarantine and the candidate at hand, for a group of a
configuration file. The engine has no part in it. -/
theorem result_checkOut_congr {selector next : Selector} (idle : selector.Idle)
    (idleNext : next.Idle) (path : next.configPath = selector.configPath)
    (group : next.group = selector.group) (slots : next.quarantine = selector.quarantine)
    (held : next.candidate? = selector.candidate?) (host : Host) :
    (next.checkOut host).value.2 = (selector.checkOut host).value.2 := by
  have first : (next.begin host.files).value = (selector.begin host.files).value := by
    rw [value_begin, value_begin, held, entryAt_congr path group]
  rw [result_checkOut_of_idle idle, result_checkOut_of_idle idleNext, first, slots,
    search_congr path group, refusal_congr selector group]

def Admitted (configPath group : String) : Prop :=
  Field.group.validate group [Entry.fieldSeparator, Entry.tagSeparator] = .ok () ∧
    Field.configPath.validate configPath [] = .ok ()

theorem value_create_of_admitted {configPath group : String} (admitted : Admitted configPath group)
    (files : FileTree) (propertiesPath : String) :
    (create files configPath propertiesPath group).value =
      match Lookup.inGroup files configPath group 0 with
      | .error fault =>
        .error (refusal ⟨configPath, group, none, .empty, .ready none⟩ fault)
      | .ok entry =>
        .ok ⟨configPath, group, (Engine.read files propertiesPath).value, .empty,
          .ready (some ⟨0, entry⟩)⟩ := by
  have checked : (do
      Field.group.validate group [Entry.fieldSeparator, Entry.tagSeparator]
      Field.configPath.validate configPath []) = Except.ok () := by
    rw [admitted.1, admitted.2]
    rfl
  simp only [create, checked, Logged.value_bind, value_seek, entryAt]
  cases Lookup.inGroup files configPath group 0 with
  | error fault => simp [Except.map]
  | ok entry => rfl

theorem admitted_of_create {files : FileTree} {configPath propertiesPath group : String}
    {selector : Selector}
    (created : (create files configPath propertiesPath group).value = .ok selector) :
    Admitted configPath group := by
  simp only [create] at created
  split at created
  · cases created
  · rename_i checked
    cases valid : Field.group.validate group [Entry.fieldSeparator, Entry.tagSeparator] with
    | error fault =>
        rw [valid] at checked
        cases checked
    | ok _ =>
        rw [valid] at checked
        exact ⟨valid, checked⟩

theorem Made.admitted {files : FileTree} {selector : Selector} (made : Made files selector) :
    Admitted selector.configPath selector.group := by
  have ofCreate {configPath propertiesPath group : String}
      (created : (Selector.create files configPath propertiesPath group).value = .ok selector) :
      Admitted selector.configPath selector.group := by
    obtain ⟨path, same, _⟩ := create_eq_ok created
    rw [path, same]
    exact admitted_of_create created
  cases made with
  | create created => exact ofCreate created
  | build built =>
      simp only [SelectorOptions.build] at built
      split at built
      · cases built
      · exact ofCreate built

theorem Turn.succeeded {selector next : Selector} {host : Host} {code : Nat} {endpoint : String}
    (turn : Turn selector host (.report code endpoint) next (.decided .noRetry))
    (outcome : Outcome.ofCode code = .success) :
    ∃ candidate passcode first, selector.stage = .checkedOut candidate passcode ∧
      next.stage = .ready (some first) ∧ first.ordinal = 0 ∧
      (candidate.ordinal = 0 → first = candidate) ∧
      (candidate.ordinal ≠ 0 → selector.entryAt host.files 0 = .ok first) := by
  generalize settled : Reply.decided .noRetry = reply at turn
  cases turn with
  | reportIdle idle => cases settled
  | @cleared candidate passcode _ _ held success first =>
      exact ⟨candidate, passcode, candidate, held, rfl, first, fun _ => rfl, absurd first⟩
  | @restored candidate passcode _ _ restored held success later found =>
      refine ⟨candidate, passcode, restored, held, rfl, (entryAt_eq_ok_iff.mp found).1, ?_, ?_⟩
      · exact fun first => absurd first later
      · exact fun _ => found
  | lost held success later missed => cases settled
  | advanced held bad found => cases settled
  | ended held bad missed => cases outcome.symm.trans bad
  | kept held other => cases outcome.symm.trans other

/-- A report of success leaves the selector at the first ordinal. From a later ordinal, what is then
held is what the configuration now names first; from the first, it is the certificate reported on.
As long as the configuration names it first, the next check-out comes to what it would of a selector
made anew, with the same quarantine. -/
theorem run_restored {files : FileTree} {selector : Selector} (made : Made files selector)
    (steps : List (Host × Call)) {now : FileTree} {endpoint : String}
    (settled : ((selector.run steps).value.1.report now Outcome.successCode endpoint).value.2 =
      .noRetry) :
    let last := (selector.run steps).value.1
    let next := (last.report now Outcome.successCode endpoint).value.1
    let locate (seen : FileTree) := Lookup.inGroup seen selector.configPath selector.group 0
    next.ordinal = 0 ∧
      ∃ entry, next.candidate? = some ⟨0, entry⟩ ∧
        (last.ordinal ≠ 0 → locate now = .ok entry) ∧
        (last.ordinal = 0 → last.candidate? = some ⟨0, entry⟩ ∧
          ∃ seen ∈ files :: steps.map (·.1.files), locate seen = .ok entry) ∧
        (locate now = .ok entry → ∀ propertiesPath,
          ∃ fresh, (create now selector.configPath propertiesPath selector.group).value =
              .ok fresh ∧
            ∀ credentials, (next.checkOut ⟨now, credentials⟩).value.2 =
              ({ fresh with quarantine := next.quarantine }.checkOut ⟨now, credentials⟩).value.2) := by
  intro last next locate
  have turn := report_turn last ⟨now, fun reference => .error (.notFound reference)⟩
    Outcome.successCode endpoint
  rw [show (last.report now Outcome.successCode endpoint).value.2 = _ from settled] at turn
  obtain ⟨candidate, passcode, first, held, ready, number, kept, moved⟩ := turn.succeeded (by rfl)
  obtain ⟨ordinal, entry⟩ := first
  cases number
  have identity := run_identity selector steps
  have after := turn.identity
  have current : next.candidate? = some ⟨0, entry⟩ := by rw [candidate?, ready, Stage.candidate?]
  have reported : last.candidate? = some candidate := candidate?_of_checkedOut held
  refine ⟨ordinal_of_candidate? current, entry, current, ?_, ?_, ?_⟩
  · intro later
    rw [ordinal_of_candidate? reported] at later
    have found := (entryAt_eq_ok_iff.mp (moved later)).2
    rwa [identity.1, identity.2] at found
  · intro atFirst
    rw [ordinal_of_candidate? reported] at atFirst
    have same := kept atFirst
    subst same
    obtain ⟨seen, member, found⟩ := made.origin_run steps reported
    exact ⟨reported, seen, member, (entryAt_eq_ok_iff.mp found).2⟩
  · intro named propertiesPath
    have created := value_create_of_admitted made.admitted now propertiesPath
    rw [show Lookup.inGroup now selector.configPath selector.group 0 = _ from named] at created
    refine ⟨_, created, fun credentials => ?_⟩
    apply result_checkOut_congr
    · exact .inl rfl
    · exact idle_iff.mpr (.inl ⟨_, ready⟩)
    · exact after.1.trans identity.1
    · exact after.2.trans identity.2
    · rfl
    · exact current

theorem run_restored_sample :
    let steps := [(sampleHost, .checkOut), (sampleHost, .report 58 "host"), (sampleHost, .checkOut)]
    let last := (sample.run steps).value.1
    let now := sampleFiles.write "c.cfg" (Bytes.ofText "G,M,P12,b.p12,pd\n") .epoch
    let next := (last.report now Outcome.successCode "host").value.1
    Made sampleFiles sample ∧ (last.report now Outcome.successCode "host").value.2 = .noRetry ∧
      last.ordinal = 1 ∧ Lookup.inGroup now "c.cfg" "G" 0 = .ok ⟨"M", "b.p12", "pd"⟩ ∧
      next.ordinal = 0 ∧ next.candidate? = some ⟨0, ⟨"M", "b.p12", "pd"⟩⟩ ∧
      ∃ fresh, (create now "c.cfg" "hrot.properties" "G").value = .ok fresh ∧
        ∀ credentials, (next.checkOut ⟨now, credentials⟩).value.2 =
          ({ fresh with quarantine := next.quarantine }.checkOut ⟨now, credentials⟩).value.2 := by
  intro steps last now next
  have settled : (last.report now Outcome.successCode "host").value.2 = .noRetry := by
    decide +kernel +revert
  have second : last.ordinal = 1 := by rfl
  have named : Lookup.inGroup now "c.cfg" "G" 0 = .ok ⟨"M", "b.p12", "pd"⟩ := by rfl
  obtain ⟨first, entry, held, moved, _, anew⟩ := run_restored sample_made steps settled
  have located := moved (by rw [second]; decide)
  cases named.symm.trans located
  exact ⟨sample_made, settled, second, named, first, held, anew named "hrot.properties"⟩

/-- The first certificate of the group can be replaced in the configuration while it is checked out.
A report of success then keeps it, where a selector made anew goes by the configuration. -/
theorem replaced_beside_success :
    let steps := [(sampleHost, .checkOut)]
    let last := (sample.run steps).value.1
    let now := sampleFiles.write "c.cfg" (Bytes.ofText "G,M,P12,b.p12,pd\n") .epoch
    let host := { sampleHost with files := now }
    let next := (last.report now Outcome.successCode "host").value.1
    Made sampleFiles sample ∧ last.phase = .readyToCheck ∧
      (last.report now Outcome.successCode "host").value.2 = .noRetry ∧
      Lookup.inGroup now "c.cfg" "G" 0 = .ok ⟨"M", "b.p12", "pd"⟩ ∧
      next.candidate? = some ⟨0, ⟨"L", "a.p12", "pc"⟩⟩ ∧
      (next.checkOut host).value.2 = .ok ⟨"a.p12", Bytes.ofText "pc", by decide⟩ ∧
      ∃ fresh, (create now "c.cfg" "hrot.properties" "G").value = .ok fresh ∧
        ({ fresh with quarantine := next.quarantine }.checkOut host).value.2 =
          .ok ⟨"b.p12", Bytes.ofText "pd", by decide⟩ :=
  ⟨sample_made, by rfl, by rfl, by rfl, by rfl, by rfl, _, by rfl, by rfl⟩

end CertFailover.Selector
