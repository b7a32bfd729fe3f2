import CertFailover.Proofs.Confinement
import CertFailover.Proofs.Pairing
import CertFailover.Proofs.Skips

/-!
Renewals around a report. What counts is the time that the file has when its certificate is reported
bad, whatever it was at the check-out: with that time the certificate is passed over, with any other
it is tried again. A renewal while the certificate is checked out goes by unnoticed.
-/

namespace CertFailover

theorem Lookup.inGroup_congr {files now : FileTree} {path : String}
    (same : Lookup.lines now path = Lookup.lines files path) :
    Lookup.inGroup now path = Lookup.inGroup files path := by
  funext group ordinal
  rw [Lookup.inGroup, Lookup.inGroup, same]

namespace Selector

theorem entryAt_of_lines {files now : FileTree} {selector : Selector}
    (same : Lookup.lines now selector.configPath = Lookup.lines files selector.configPath) :
    selector.entryAt now = selector.entryAt files := by
  funext ordinal
  rw [entryAt, entryAt, Lookup.inGroup_congr same]

theorem Made.entryAt_of_held {files : FileTree} {selector : Selector}
    (made : Made files selector) {steps : List (Host × Call)}
    (configured : ∀ step ∈ steps,
      Lookup.lines step.1.files selector.configPath = Lookup.lines files selector.configPath)
    {candidate : Candidate} (held : (selector.run steps).value.1.candidate? = some candidate) :
    selector.entryAt files candidate.ordinal = .ok candidate := by
  obtain ⟨seen, member, found⟩ := made.origin_run steps held
  rcases List.mem_cons.mp member with first | later
  · rwa [first] at found
  · obtain ⟨step, inside, rfl⟩ := List.mem_map.mp later
    rwa [entryAt_of_lines (configured step inside)] at found

theorem Made.entryAt_of_visited {files : FileTree} {selector : Selector}
    (made : Made files selector) {steps : List (Host × Call)}
    (configured : ∀ step ∈ steps,
      Lookup.lines step.1.files selector.configPath = Lookup.lines files selector.configPath)
    {host : Host}
    (same : Lookup.lines host.files selector.configPath = Lookup.lines files selector.configPath)
    {candidate : Candidate} (visit : candidate ∈ (selector.run steps).value.1.visited host) :
    selector.entryAt files candidate.ordinal = .ok candidate := by
  rcases visited_origin visit with held | found
  · exact made.entryAt_of_held configured held
  · have identity := run_identity selector steps
    rwa [entryAt_congr identity.1 identity.2, entryAt_of_lines same] at found

theorem Made.confined_run {files : FileTree} {selector : Selector} (made : Made files selector)
    {before after : List (Host × Call)} {host : Host} {code : Nat} {endpoint : String}
    {candidate : Candidate} {passcode : Passcode} {time : Timestamp}
    (held : (selector.run before).value.1.stage = .checkedOut candidate passcode)
    (outcome : Outcome.ofCode code = .certificateError)
    (modified : host.files.modified? candidate.entry.path = some time)
    (live : ∀ step ∈ after, step.2 ≠ .destroy)
    (kept : ∀ step ∈ after, step.1.files.modified? candidate.entry.path = some time)
    (configured : ∀ step ∈ before ++ (host, .report code endpoint) :: after,
      Lookup.lines step.1.files selector.configPath = Lookup.lines files selector.configPath) :
    Confined candidate.ordinal candidate.entry.uri time
      (selector.run (before ++ (host, .report code endpoint) :: after)).value.1 := by
  have current := candidate?_of_checkedOut held
  have bound := (made.sound_run before).ordinal candidate current
  have located := made.entryAt_of_held
    (fun step member => configured step (List.mem_append_left _ member)) current
  have report := call_turn (selector.run before).value.1 host (.report code endpoint)
  have same := run_identity selector before
  rw [value_run_append, value_run_cons]
  apply (report.confined held outcome bound modified).run after live
  intro step member
  refine ⟨kept step member, ?_⟩
  rw [report.identity.1, report.identity.2, same.1, same.2]
  intro entry found
  have unedited := configured step (by simp [member])
  rw [Lookup.inGroup_congr unedited, (entryAt_eq_ok_iff.mp located).2] at found
  cases found
  rfl

/-- With an unchanged configuration, a certificate reported bad is passed over by those check-outs
that find its file with the time of the report. With another time, that of its check-out included,
it is handed out where it is visited, if its passcode can be had. -/
theorem run_renewal {files : FileTree} {selector : Selector} (made : Made files selector)
    {before after : List (Host × Call)} {host : Host} {code : Nat} {endpoint : String}
    {candidate : Candidate} {passcode : Passcode} {time : Timestamp}
    (held : (selector.run before).value.1.stage = .checkedOut candidate passcode)
    (outcome : Outcome.ofCode code = .certificateError)
    (modified : host.files.modified? candidate.entry.path = some time)
    (live : ∀ step ∈ after, step.2 ≠ .destroy)
    (kept : ∀ step ∈ after, step.1.files.modified? candidate.entry.path = some time)
    (configured : ∀ step ∈ before ++ (host, .report code endpoint) :: after,
      Lookup.lines step.1.files selector.configPath = Lookup.lines files selector.configPath)
    {next : Host}
    (same : Lookup.lines next.files selector.configPath = Lookup.lines files selector.configPath)
    {visit : Candidate} :
    let last := (selector.run (before ++ (host, .report code endpoint) :: after)).value.1
    visit ∈ last.visited next → visit.ordinal = candidate.ordinal →
      visit = candidate ∧
        (Skipped last next visit ↔ next.files.modified? visit.entry.path = some time) ∧
        ∀ other code, next.files.modified? visit.entry.path = some other → other ≠ time →
          service? next visit.entry = some code →
            (last.checkOut next).value.1.stage = .checkedOut visit code ∧
              (last.checkOut next).value.2 = .ok ⟨visit.entry.uri, code⟩ := by
  intro last visited here
  have confined := made.confined_run held outcome modified live kept configured
  have located := made.entryAt_of_held
    (fun step member => configured step (List.mem_append_left _ member))
    (candidate?_of_checkedOut held)
  have again := made.entryAt_of_visited configured same visited
  rw [here, located] at again
  cases again
  have barred : Barred next last.quarantine candidate ↔
      next.files.modified? candidate.entry.path = some time := by
    have slot : last.quarantine.slot? candidate.ordinal = some time := confined.slot
    rw [Barred, slot]
    constructor
    · rintro ⟨found, present, same⟩
      rw [present, same]
    · intro present
      exact ⟨time, present, rfl⟩
  refine ⟨rfl, ⟨fun skipped => barred.mp skipped.barred, fun now => ⟨visited, barred.mpr now⟩⟩, ?_⟩
  intro other code present different served
  apply checkOut_of_mem_visited visited _ served
  rw [barred, present]
  simpa using different

def renewedHost : Host :=
  { sampleHost with files := sampleFiles.touch "a.p12" (.ofSeconds 1 0) }

theorem run_renewal_sample :
    let before := [(sampleHost, Call.checkOut)]
    let after := [(renewedHost, Call.checkOut), (renewedHost, .report 0 "host")]
    let last := (sample.run (before ++ (renewedHost, .report 58 "host") :: after)).value.1
    let first : Candidate := ⟨0, ⟨"L", "a.p12", "pc"⟩⟩
    Made sampleFiles sample ∧
      (sample.run before).value.1.stage = .checkedOut first ⟨Bytes.ofText "pc", by decide⟩ ∧
      renewedHost.files.modified? "a.p12" = some (.ofSeconds 1 0) ∧
      first ∈ last.visited sampleHost ∧ sampleFiles.modified? "a.p12" = some .epoch ∧
      (last.checkOut sampleHost).value.2 = .ok ⟨"a.p12", Bytes.ofText "pc", by decide⟩ := by
  refine ⟨sample_made, by rfl, by rfl, by decide +kernel, by rfl, ?_⟩
  have held : (sample.run [(sampleHost, .checkOut)]).value.1.stage =
      .checkedOut ⟨0, ⟨"L", "a.p12", "pc"⟩⟩ ⟨Bytes.ofText "pc", by decide⟩ := by rfl
  have kept : ∀ step ∈ [(renewedHost, Call.checkOut), (renewedHost, .report 0 "host")],
      step.1.files.modified? "a.p12" = some (.ofSeconds 1 0) := by decide +kernel
  have back := @run_renewal sampleFiles sample sample_made _ _ renewedHost 58 "host" _ _ _ held
    (by decide) (by rfl) (by decide) kept (by decide +kernel) sampleHost (by rfl)
    ⟨0, ⟨"L", "a.p12", "pc"⟩⟩ (by decide +kernel) (by rfl)
  exact (back.2.2 .epoch _ (by rfl) (by decide) (by rfl)).2

/-- The certificate is renewed while it is checked out, and reported bad after that. The new file
has never been tried, and is passed over. -/
theorem untried_beside_renewal :
    let before := [(sampleHost, Call.checkOut)]
    let after := [(renewedHost, Call.checkOut), (renewedHost, .report 0 "host")]
    let last := (sample.run (before ++ (renewedHost, .report 58 "host") :: after)).value.1
    let first : Candidate := ⟨0, ⟨"L", "a.p12", "pc"⟩⟩
    Made sampleFiles sample ∧
      Lookup.lines renewedHost.files "c.cfg" = Lookup.lines sampleFiles "c.cfg" ∧
      (sample.run before).value.1.stage = .checkedOut first ⟨Bytes.ofText "pc", by decide⟩ ∧
      sampleFiles.modified? "a.p12" = some .epoch ∧
      renewedHost.files.modified? "a.p12" = some (.ofSeconds 1 0) ∧
      Skipped last renewedHost first :=
  ⟨sample_made, by decide +kernel, by rfl, by rfl, by decide +kernel, by decide +kernel,
    .ofSeconds 1 0, by rfl, by rfl⟩

end Selector

end CertFailover
