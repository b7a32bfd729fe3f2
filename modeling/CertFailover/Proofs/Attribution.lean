import CertFailover.Proofs.Pairing
import CertFailover.Proofs.Provenance
import CertFailover.Proofs.Skips

/-!
On whose account a certificate is passed over. Quarantine goes by ordinal and time: a check-out that
passes over a certificate goes back to a report of one at the same ordinal, whose file then had the
time that the other now has. The two are one certificate if the ordinal has not changed hands.
-/

namespace CertFailover.Selector

/-- The entries that an ordinal has in some file trees all have one address. -/
def NamedIn (selector : Selector) (seen : List FileTree) (ordinal : Nat) (uri : String) : Prop :=
  ∀ files ∈ seen, ∀ entry,
    Lookup.inGroup files selector.configPath selector.group ordinal = .ok entry → entry.uri = uri

theorem Made.uri_of_held {files : FileTree} {selector : Selector} (made : Made files selector)
    {steps : List (Host × Call)} {candidate : Candidate} {uri : String}
    (held : (selector.run steps).value.1.candidate? = some candidate)
    (named : selector.NamedIn (files :: steps.map (·.1.files)) candidate.ordinal uri) :
    candidate.entry.uri = uri := by
  obtain ⟨seen, member, found⟩ := made.origin_run steps held
  exact named seen member candidate.entry (entryAt_eq_ok_iff.mp found).2

theorem NamedIn.mono {selector : Selector} {seen fewer : List FileTree} {ordinal : Nat}
    {uri : String} (named : selector.NamedIn seen ordinal uri) (part : fewer ⊆ seen) :
    selector.NamedIn fewer ordinal uri :=
  fun files member => named files (part member)

theorem Made.uri_of_visited {files : FileTree} {selector : Selector} (made : Made files selector)
    {steps : List (Host × Call)} {host : Host} {candidate : Candidate} {uri : String}
    (visit : candidate ∈ (selector.run steps).value.1.visited host)
    (named : selector.NamedIn (files :: (steps.map (·.1.files) ++ [host.files])) candidate.ordinal
      uri) : candidate.entry.uri = uri := by
  rcases visited_origin visit with held | found
  · apply made.uri_of_held held
    apply named.mono
    exact List.cons_subset_cons _ (List.subset_append_left _ _)
  · have identity := run_identity selector steps
    rw [entryAt_congr identity.1 identity.2] at found
    refine named host.files ?_ candidate.entry (entryAt_eq_ok_iff.mp found).2
    simp

/-- A certificate that is passed over as quarantined, as the log tells, goes back to a certificate
error at its ordinal, reported when the file of the certificate then checked out had the time that
its own file has now. If the ordinal has named one certificate all along, it is the one reported. -/
theorem run_attributed {files : FileTree} {selector : Selector} (made : Made files selector)
    (steps : List (Host × Call)) (host : Host) :
    let last := (selector.run steps).value.1
    (∀ uri, .certificateQuarantined uri ∈ (last.checkOut host).events ↔
      ∃ candidate, Skipped last host candidate ∧ candidate.entry.uri = uri) ∧
      ∀ candidate, Skipped last host candidate →
        ∃ before origin code endpoint after reported passcode time,
          steps = before ++ (origin, .report code endpoint) :: after ∧
          Outcome.ofCode code = .certificateError ∧
          (selector.run before).value.1.stage = .checkedOut reported passcode ∧
          reported.ordinal = candidate.ordinal ∧
          origin.files.modified? reported.entry.path = some time ∧
          host.files.modified? candidate.entry.path = some time ∧
          ∀ uri, selector.NamedIn (files :: (steps.map (·.1.files) ++ [host.files]))
              candidate.ordinal uri →
            reported.entry.uri = uri ∧ candidate.entry.uri = uri := by
  intro last
  refine ⟨fun uri => quarantined_mem_checkOut_iff, ?_⟩
  rintro candidate ⟨visit, time, modified, slot⟩
  obtain ⟨before, origin, call, after, split, barred, _⟩ := (made.slot?_run_iff steps).mp slot
  cases barred with
  | @rejected reported passcode code endpoint held here bad marked =>
      refine ⟨before, origin, code, endpoint, after, reported, passcode, time, split, bad, held,
        here, marked, modified, ?_⟩
      intro uri named
      refine ⟨?_, made.uri_of_visited visit named⟩
      apply made.uri_of_held (candidate?_of_checkedOut held)
      rw [here]
      apply named.mono
      rw [split]
      simp

theorem run_attributed_sample :
    let steps := [(sampleHost, .checkOut), (sampleHost, .report 58 "host"), (sampleHost, .checkOut),
      (sampleHost, .report 0 "host")]
    let last := (sample.run steps).value.1
    Made sampleFiles sample ∧ last.ordinal = 0 ∧
      .certificateQuarantined "a.p12" ∈ (last.checkOut sampleHost).events ∧
      ∃ candidate, Skipped last sampleHost candidate ∧ candidate.entry.uri = "a.p12" := by
  intro steps last
  have logged : .certificateQuarantined "a.p12" ∈ (last.checkOut sampleHost).events := by decide
  exact ⟨sample_made, by rfl, logged, ((run_attributed sample_made steps sampleHost).1 _).mp logged⟩

/-- A certificate that was never reported is passed over if the configuration has moved it to the
ordinal of one that was, and the files of the two have the same time. -/
theorem skipped_beside_unreported :
    let now := sampleFiles.write "c.cfg" (Bytes.ofText "G,M,P12,b.p12,pd\n") .epoch
    let host := { sampleHost with files := now }
    let steps := [(sampleHost, .checkOut), (host, .report 58 "host")]
    let last := (sample.run steps).value.1
    Made sampleFiles sample ∧ Skipped last host ⟨0, ⟨"M", "b.p12", "pd"⟩⟩ ∧
      (last.checkOut host).value.2 = .error (.groupExhausted "G") ∧
      ∀ before origin code endpoint after reported passcode,
        steps = before ++ (origin, .report code endpoint) :: after →
          (sample.run before).value.1.stage = .checkedOut reported passcode →
            reported.entry.uri ≠ "b.p12" := by
  refine ⟨sample_made, ⟨by decide +kernel, .epoch, by rfl, by rfl⟩, by rfl, ?_⟩
  intro before origin code endpoint after reported passcode split held
  match before with
  | [] => cases split
  | [step] =>
      cases split
      cases held
      decide
  | [_, _] => cases split
  | _ :: _ :: _ :: _ => cases split

end CertFailover.Selector
