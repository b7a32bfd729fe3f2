import CertFailover.Proofs.Reports

/-!
Failures that are not the fault of the certificate. A check-out leaves the slot of what it hands out
empty, and the report of such a failure keeps the candidate. So the next check-out tries it first,
without a look at the configuration, finds nothing against it and ends where the one before did.
-/

namespace CertFailover

theorem Quarantine.check_of_empty {quarantine : Quarantine} {ordinal : Nat}
    (free : quarantine.slot? ordinal = none) (time : Timestamp) :
    quarantine.check ordinal time = (.usable, quarantine) := by
  rw [check, free]

namespace Selector

structure Failure where
  code : Nat
  endpoint : String
  reported : Host
  again : Host

def Failure.calls (failure : Failure) : List (Host × Call) :=
  [(failure.reported, .report failure.code failure.endpoint), (failure.again, .checkOut)]

theorem Failure.prefix_calls_append {failure : Failure} {taken rest : List (Host × Call)}
    (initial : taken <+: failure.calls ++ rest) :
    taken = [] ∨ taken = [(failure.reported, .report failure.code failure.endpoint)] ∨
      ∃ later, taken = failure.calls ++ later ∧ later <+: rest := by
  rw [calls, List.cons_append, List.prefix_cons_iff] at initial
  rcases initial with none | ⟨tail, rfl, initial⟩
  · exact .inl none
  · rw [List.cons_append, List.prefix_cons_iff] at initial
    rcases initial with rfl | ⟨later, rfl, initial⟩
    · exact .inr (.inl rfl)
    · exact .inr (.inr ⟨later, rfl, initial⟩)

theorem service?_of_same {host again : Host} {entry : Entry} {passcode : Passcode}
    (served : service? host entry = some passcode)
    (present : (again.files.modified? entry.path).isSome)
    (answer : again.credentials entry.credentialRef = host.credentials entry.credentialRef) :
    service? again entry = some passcode := by
  rw [service?_eq_some_iff, answer]
  exact ⟨present, (service?_eq_some_iff.mp served).2⟩

theorem attempt_of_empty {host : Host} {quarantine : Quarantine} {candidate : Candidate}
    {passcode : Passcode} (free : quarantine.slot? candidate.ordinal = none)
    (served : service? host candidate.entry = some passcode) :
    (attempt host quarantine candidate).value = (some passcode, quarantine) := by
  obtain ⟨present, _⟩ := service?_eq_some_iff.mp served
  obtain ⟨time, modified⟩ := Option.isSome_iff_exists.mp present
  have unlocked : (unlock host candidate.entry).value = some passcode := by
    simpa [service?, modified] using served
  rw [attempt_of_modified quarantine modified, Quarantine.check_of_empty free, free, unlocked]
  rfl

theorem checkOut_of_ready {selector : Selector} {host : Host} {candidate : Candidate}
    {passcode : Passcode} (ready : selector.stage = .ready (some candidate))
    (free : selector.quarantine.slot? candidate.ordinal = none)
    (served : service? host candidate.entry = some passcode) :
    (selector.checkOut host).value =
      ({ selector with stage := .checkedOut candidate passcode },
        .ok ⟨candidate.entry.uri, passcode⟩) := by
  have tried := attempt_of_empty free served
  have first : (selector.begin host.files).value = .ok candidate := by
    rw [value_begin, candidate?, ready]
    rfl
  have found : (selector.search host Limit.ordinals (.ok candidate) selector.quarantine).value =
      (.ok (candidate, passcode), selector.quarantine) := by
    have taken := search_taken selector (Limit.ordinals - 1) (congrArg Prod.fst tried)
    rwa [tried] at taken
  rw [value_checkOut_of_idle (idle_iff.mpr (.inl ⟨_, ready⟩)), first, found]

structure Holding (selector : Selector) (candidate : Candidate) (passcode : Passcode) : Prop where
  held : selector.stage = .checkedOut candidate passcode
  free : selector.quarantine.slot? candidate.ordinal = none

theorem Turn.holding {selector next : Selector} {host : Host} {grant : Grant}
    (turn : Turn selector host .checkOut next (.granted grant)) :
    ∃ candidate, next.Holding candidate grant.passcode ∧ candidate.entry.uri = grant.uri ∧
      service? host candidate.entry = some grant.passcode := by
  cases turn with
  | granted idle searched => exact ⟨_, ⟨rfl, searched.slot?⟩, rfl, searched.served⟩

section Rounds

variable {selector : Selector} {candidate : Candidate} {passcode : Passcode}

theorem Holding.report_other (holding : selector.Holding candidate passcode) {code : Nat}
    (harmless : Outcome.ofCode code = .other) (files : FileTree) (endpoint : String) :
    (selector.report files code endpoint).value =
      ({ selector with stage := .ready (some candidate) }, .noRetry) := by
  rw [report, holding.held]
  simp only [harmless]
  rfl

theorem Holding.value_call_report (holding : selector.Holding candidate passcode)
    {failure : Failure} (harmless : Outcome.ofCode failure.code = .other) :
    (selector.call failure.reported (.report failure.code failure.endpoint)).value =
      ({ selector with stage := .ready (some candidate) }, .decided .noRetry) := by
  rw [call, Logged.value_bind,
    holding.report_other harmless failure.reported.files failure.endpoint]
  rfl

theorem Holding.value_run_calls (holding : selector.Holding candidate passcode)
    {failure : Failure} (harmless : Outcome.ofCode failure.code = .other)
    (served : service? failure.again candidate.entry = some passcode) :
    (selector.run failure.calls).value =
      (selector, [.decided .noRetry, .granted ⟨candidate.entry.uri, passcode⟩]) := by
  have back := @checkOut_of_ready { selector with stage := .ready (some candidate) } failure.again
    candidate passcode rfl holding.free served
  have same : { selector with stage := .checkedOut candidate passcode } = selector := by
    rw [← holding.held]
  rw [same] at back
  rw [Failure.calls, value_run_cons, holding.value_call_report harmless, value_run_cons, call,
    Logged.value_bind, back]
  rfl

theorem Holding.value_run_flatMap (holding : selector.Holding candidate passcode)
    (failures : List Failure)
    (harmless : ∀ failure ∈ failures, Outcome.ofCode failure.code = .other)
    (served : ∀ failure ∈ failures, service? failure.again candidate.entry = some passcode) :
    (selector.run (failures.flatMap Failure.calls)).value =
      (selector, failures.flatMap fun _ =>
        [.decided .noRetry, .granted ⟨candidate.entry.uri, passcode⟩]) := by
  induction failures with
  | nil => rfl
  | cons failure rest ih =>
      rw [List.forall_mem_cons] at harmless served
      rw [List.flatMap_cons, value_run_append, holding.value_run_calls harmless.1 served.1,
        ih harmless.2 served.2, List.flatMap_cons]

theorem Holding.run_prefix (holding : selector.Holding candidate passcode)
    (failures : List Failure)
    (harmless : ∀ failure ∈ failures, Outcome.ofCode failure.code = .other)
    (served : ∀ failure ∈ failures, service? failure.again candidate.entry = some passcode)
    {taken : List (Host × Call)} (initial : taken <+: failures.flatMap Failure.calls) :
    (selector.run taken).value.1.candidate? = some candidate ∧
      (selector.run taken).value.1.quarantine = selector.quarantine := by
  induction failures generalizing taken with
  | nil =>
      rw [List.prefix_nil.mp initial]
      exact ⟨candidate?_of_checkedOut holding.held, rfl⟩
  | cons failure rest ih =>
      rw [List.forall_mem_cons] at harmless served
      rcases Failure.prefix_calls_append initial with rfl | rfl | ⟨later, rfl, within⟩
      · exact ⟨candidate?_of_checkedOut holding.held, rfl⟩
      · rw [value_run_cons, holding.value_call_report harmless.1]
        exact ⟨rfl, rfl⟩
      · rw [value_run_append, holding.value_run_calls harmless.1 served.1]
        exact ih harmless.2 served.2 within

end Rounds

/-- Whatever a selector has been through, the certificate that it hands out outlasts any number of
failures that are no errors of the certificate: after the report of each it is handed out again. That
takes a file at its path, whatever the time of it, and the same answer to its reference; all else may
change between any two calls. -/
theorem checkOut_repeated {selector : Selector} {host : Host} {grant : Grant}
    (granted : (selector.checkOut host).value.2 = .ok grant) :
    let first := (selector.checkOut host).value.1
    ∃ candidate, first.stage = .checkedOut candidate grant.passcode ∧
      candidate.entry.uri = grant.uri ∧
      ∀ failures : List Failure,
        (∀ failure ∈ failures, failure.code ≠ Outcome.successCode ∧
          failure.code ∉ Outcome.certificateErrorCodes) →
        (∀ failure ∈ failures,
          (failure.again.files.modified? candidate.entry.path).isSome ∧
            failure.again.credentials candidate.entry.credentialRef =
              host.credentials candidate.entry.credentialRef) →
        (first.run (failures.flatMap Failure.calls)).value =
            (first, failures.flatMap fun _ => [.decided .noRetry, .granted grant]) ∧
          ∀ taken, taken <+: failures.flatMap Failure.calls →
            let current := (first.run taken).value.1
            current.candidate? = some candidate ∧ current.ordinal = candidate.ordinal ∧
              ∀ ordinal, current.quarantine.slot? ordinal = first.quarantine.slot? ordinal := by
  intro first
  have turn := checkOut_turn selector host
  rw [granted] at turn
  obtain ⟨candidate, holding, uri, served⟩ := turn.holding
  refine ⟨candidate, holding.held, uri, ?_⟩
  intro failures codes unchanged
  have harmless : ∀ failure ∈ failures, Outcome.ofCode failure.code = .other :=
    fun failure member =>
      Outcome.ofCode_of_not_mem (codes failure member).1 (codes failure member).2
  have again : ∀ failure ∈ failures,
      service? failure.again candidate.entry = some grant.passcode :=
    fun failure member =>
      service?_of_same served (unchanged failure member).1 (unchanged failure member).2
  refine ⟨?_, ?_⟩
  · rw [holding.value_run_flatMap failures harmless again, uri]
  · intro taken initial current
    obtain ⟨kept, quarantine⟩ := holding.run_prefix failures harmless again initial
    exact ⟨kept, ordinal_of_candidate? kept, fun ordinal => by rw [quarantine]⟩

/-- The first certificate has been found bad and renewed since, and the configuration is gone before
the first report. -/
theorem checkOut_repeated_sample :
    let past := [(sampleHost, Call.checkOut), (sampleHost, .report 58 "host"),
      (sampleHost, .checkOut), (sampleHost, .report 0 "host")]
    let last := (sample.run past).value.1
    let renewed := { sampleHost with files := sampleFiles.touch "a.p12" (.ofSeconds 1 0) }
    let bare := { sampleHost with files := renewed.files.remove "c.cfg" }
    let grant : Grant := ⟨"a.p12", Bytes.ofText "pc", by decide⟩
    let first := (last.checkOut renewed).value.1
    last.quarantine.slot? 0 = some .epoch ∧ (last.checkOut renewed).value.2 = .ok grant ∧
      first.quarantine.slot? 0 = none ∧
      (first.run [(bare, .report 7 "host"), (bare, .checkOut), (bare, .report 28 "host"),
          (bare, .checkOut)]).value =
        (first, [.decided .noRetry, .granted grant, .decided .noRetry, .granted grant]) := by
  intro past last renewed bare grant first
  have granted : (last.checkOut renewed).value.2 = .ok grant := by decide +kernel
  refine ⟨by rfl, granted, by decide +kernel, ?_⟩
  obtain ⟨candidate, held, uri, repeated⟩ := checkOut_repeated granted
  have known : first.stage = .checkedOut ⟨0, ⟨"L", "a.p12", "pc"⟩⟩ grant.passcode := by
    decide +kernel
  cases held.symm.trans known
  let failures : List Failure := [⟨7, "host", bare, bare⟩, ⟨28, "host", bare, bare⟩]
  exact (repeated failures (by decide) (by decide +kernel)).1

end Selector

end CertFailover
