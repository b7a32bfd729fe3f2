import CertFailover.Proofs.Soundness

/-!
A certificate reported bad stays in quarantine. As long as its file keeps its time and its ordinal
still names it, no turn but a destroy empties its slot, and no check-out hands it out.
-/

namespace CertFailover.Selector

/-- What a turn meets while a certificate is unchanged: its file keeps its time and its ordinal, if
it has an entry, still names it. -/
structure Unchanged (selector : Selector) (files : FileTree) (ordinal : Nat) (uri : String)
    (time : Timestamp) : Prop where
  modified : files.modified? (Entry.pathOfUri uri) = some time
  named : ∀ entry, Lookup.inGroup files selector.configPath selector.group ordinal = .ok entry →
    entry.uri = uri

structure Confined (ordinal : Nat) (uri : String) (time : Timestamp) (selector : Selector) :
    Prop where
  slot : selector.quarantine.slot? ordinal = some time
  named : ∀ candidate, selector.candidate? = some candidate → candidate.ordinal = ordinal →
    candidate.entry.uri = uri
  free : ∀ candidate passcode, selector.stage = .checkedOut candidate passcode →
    candidate.ordinal ≠ ordinal

theorem Unchanged.entryAt {selector : Selector} {files : FileTree} {ordinal : Nat} {uri : String}
    {time : Timestamp} (unchanged : Unchanged selector files ordinal uri time)
    {candidate : Candidate} (found : selector.entryAt files ordinal = .ok candidate) :
    candidate.entry.uri = uri :=
  unchanged.named _ (entryAt_eq_ok_iff.mp found).2

theorem Confined.barred {ordinal : Nat} {uri : String} {time : Timestamp} {selector : Selector}
    {host : Host} (confined : Confined ordinal uri time selector)
    (unchanged : Unchanged selector host.files ordinal uri time) {candidate : Candidate}
    (found : selector.met host.files selector.ordinal (selector.begin host.files).value ordinal =
      .ok candidate) : Barred host selector.quarantine candidate := by
  have number := met_ordinal (fun _ first => begin_ordinal first) found
  have same : candidate.entry.uri = uri := by
    rw [met] at found
    split at found
    · rcases begin_eq_ok found with held | ⟨empty, located⟩
      · exact confined.named candidate held number
      · have first := (entryAt_eq_ok_iff.mp located).1
        rw [← first, number] at located
        exact unchanged.entryAt located
    · exact unchanged.entryAt found
  refine ⟨time, ?_, ?_⟩
  · rw [Entry.path, same]
    exact unchanged.modified
  · rw [number]
    exact confined.slot

theorem Confined.searched {ordinal : Nat} {uri : String} {time : Timestamp} {selector : Selector}
    {host : Host} (confined : Confined ordinal uri time selector)
    (unchanged : Unchanged selector host.files ordinal uri time)
    {result : Except LookupFault (Candidate × Passcode)} {last : Quarantine}
    (searched : Searched selector host (selector.begin host.files).value selector.quarantine
      result last) :
    last.slot? ordinal = some time ∧
      ∀ candidate passcode, result = .ok (candidate, passcode) → candidate.ordinal ≠ ordinal := by
  obtain ⟨stop, reached⟩ := searched.reached selector.ordinal (fun _ first => begin_ordinal first)
  constructor
  · rcases reached.slots ordinal with kept | ⟨_, _, _, candidate, found, unbarred⟩
    · rw [kept]
      exact confined.slot
    · exact absurd (confined.barred unchanged found) unbarred
  · intro candidate passcode taken here
    obtain ⟨found, unbarred, _⟩ := reached.found candidate passcode taken
    have number := met_ordinal (fun _ first => begin_ordinal first) found
    rw [← number, here] at found
    exact unbarred (confined.barred unchanged found)

theorem Confined.turn {ordinal : Nat} {uri : String} {time : Timestamp}
    {selector next : Selector} {host : Host} {made : Call} {reply : Reply}
    (confined : Confined ordinal uri time selector)
    (unchanged : Unchanged selector host.files ordinal uri time) (live : made ≠ .destroy)
    (turn : Turn selector host made next reply) : Confined ordinal uri time next := by
  -- A slot that is emptied or marked is that of the certificate checked out, another one.
  have slotClear {candidate : Candidate} {passcode : Passcode}
      (held : selector.stage = .checkedOut candidate passcode) :
      (selector.quarantine.clear candidate.ordinal).slot? ordinal = some time := by
    rw [Quarantine.slot?_clear, if_neg (confined.free candidate passcode held)]
    exact confined.slot
  have slotMark {candidate : Candidate} {passcode : Passcode}
      (held : selector.stage = .checkedOut candidate passcode) (time? : Option Timestamp) :
      (selector.quarantine.mark candidate.ordinal time?).slot? ordinal = some time := by
    have other := confined.free candidate passcode held
    rw [Quarantine.slot?_mark, if_neg (fun both => other both.1)]
    exact confined.slot
  have named {number : Nat} {candidate : Candidate}
      (found : selector.entryAt host.files number = .ok candidate)
      (here : candidate.ordinal = ordinal) : candidate.entry.uri = uri := by
    have own := (entryAt_eq_ok_iff.mp found).1
    rw [← own, here] at found
    exact unchanged.entryAt found
  cases turn with
  | @granted candidate passcode last idle searched =>
      obtain ⟨slot, other⟩ := confined.searched unchanged searched
      have free := other candidate passcode rfl
      refine ⟨slot, ?_, ?_⟩
      · rintro taken ⟨⟩ here
        exact absurd here free
      · rintro taken code ⟨⟩
        exact free
  | failed idle searched =>
      obtain ⟨slot, _⟩ := confined.searched unchanged searched
      refine ⟨slot, ?_, ?_⟩
      · rintro other ⟨⟩
      · rintro other code ⟨⟩
  | checkOutHeld held => exact confined
  | checkOutReleased released => exact confined
  | reportIdle idle => exact confined
  | @cleared candidate passcode _ _ held outcome first =>
      refine ⟨slotClear held, ?_, ?_⟩
      · rintro other ⟨⟩ here
        exact absurd here (confined.free candidate passcode held)
      · rintro other code ⟨⟩
  | restored held outcome later found =>
      refine ⟨slotClear held, ?_, ?_⟩
      · rintro other ⟨⟩ here
        exact named found here
      · rintro other code ⟨⟩
  | lost held outcome later missed =>
      refine ⟨slotClear held, ?_, ?_⟩
      · rintro other ⟨⟩
      · rintro other code ⟨⟩
  | advanced held outcome found =>
      refine ⟨slotMark held _, ?_, ?_⟩
      · rintro other ⟨⟩ here
        exact named found here
      · rintro other code ⟨⟩
  | ended held outcome missed =>
      refine ⟨slotMark held _, ?_, ?_⟩
      · rintro other ⟨⟩
      · rintro other code ⟨⟩
  | @kept candidate passcode _ _ held outcome =>
      refine ⟨confined.slot, ?_, ?_⟩
      · rintro other ⟨⟩ here
        exact absurd here (confined.free candidate passcode held)
      · rintro other code ⟨⟩
  | destroyed alive => exact absurd rfl live
  | destroyedAgain released => exact absurd rfl live

theorem Confined.ordinal_ne {ordinal : Nat} {uri : String} {time : Timestamp}
    {selector : Selector} (confined : Confined ordinal uri time selector)
    (current : selector.phase = .readyToCheck) : selector.ordinal ≠ ordinal := by
  obtain ⟨candidate, passcode, stage⟩ := readyToCheck_iff.mp current
  rw [ordinal_of_candidate? (candidate?_of_checkedOut stage)]
  exact confined.free candidate passcode stage

theorem Turn.readyToCheck_of_granted {selector next : Selector} {host : Host} {made : Call}
    {grant : Grant} (turn : Turn selector host made next (.granted grant)) :
    next.phase = .readyToCheck := by
  cases turn with
  | granted idle searched => rfl

theorem Unchanged.congr {selector next : Selector} {files : FileTree} {ordinal : Nat}
    {uri : String} {time : Timestamp} (unchanged : Unchanged selector files ordinal uri time)
    (path : next.configPath = selector.configPath) (group : next.group = selector.group) :
    Unchanged next files ordinal uri time := by
  refine ⟨unchanged.modified, ?_⟩
  rw [path, group]
  exact unchanged.named

theorem Confined.run {ordinal : Nat} {uri : String} {time : Timestamp} {selector : Selector}
    (confined : Confined ordinal uri time selector) (steps : List (Host × Call))
    (live : ∀ step, step ∈ steps → step.2 ≠ .destroy)
    (unchanged : ∀ step, step ∈ steps → Unchanged selector step.1.files ordinal uri time) :
    Confined ordinal uri time (selector.run steps).value.1 := by
  induction steps generalizing selector with
  | nil => exact confined
  | cons step rest ih =>
      obtain ⟨host, made⟩ := step
      have turn := call_turn selector host made
      have first := unchanged (host, made) List.mem_cons_self
      rw [value_run_cons]
      apply ih (confined.turn first (live (host, made) List.mem_cons_self) turn)
      · intro step member
        exact live step (List.mem_cons_of_mem _ member)
      · intro step member
        have later := unchanged step (List.mem_cons_of_mem _ member)
        exact later.congr turn.identity.1 turn.identity.2

theorem Turn.confined {selector next : Selector} {host : Host} {code : Nat} {endpoint : String}
    {reply : Reply} {candidate : Candidate} {passcode : Passcode} {time : Timestamp}
    (turn : Turn selector host (.report code endpoint) next reply)
    (held : selector.stage = .checkedOut candidate passcode)
    (outcome : Outcome.ofCode code = .certificateError)
    (bound : candidate.ordinal < Limit.ordinals)
    (modified : host.files.modified? candidate.entry.path = some time) :
    Confined candidate.ordinal candidate.entry.uri time next := by
  obtain ⟨idle, marked, following⟩ := turn.rejected held outcome
  refine ⟨?_, ?_, ?_⟩
  · rw [marked, Quarantine.slot?_mark, if_pos ⟨rfl, bound⟩, modified]
  · intro other found here
    have number := following other found
    omega
  · intro other code stage
    rcases idle_iff.mp idle with ⟨_, ready⟩ | ready
    · rw [ready] at stage
      cases stage
    · rw [ready] at stage
      cases stage

/-- After the report of a bad certificate, whatever follows but a destroy leaves it in quarantine
and no check-out hands its ordinal out, as long as the certificate is unchanged. -/
theorem run_confined {files : FileTree} {selector : Selector} (made : Made files selector)
    (before : List (Host × Call)) {host : Host} {code : Nat} {endpoint : String}
    {candidate : Candidate} {passcode : Passcode} {time : Timestamp}
    (held : (selector.run before).value.1.stage = .checkedOut candidate passcode)
    (outcome : Outcome.ofCode code = .certificateError)
    (modified : host.files.modified? (Entry.pathOfUri candidate.entry.uri) = some time)
    (after : List (Host × Call)) (live : ∀ step, step ∈ after → step.2 ≠ .destroy)
    (unchanged : ∀ step, step ∈ after →
      Unchanged selector step.1.files candidate.ordinal candidate.entry.uri time) :
    let last := (selector.run (before ++ (host, .report code endpoint) :: after)).value.1
    last.quarantine.isQuarantined candidate.ordinal = true ∧
      (last.phase = .readyToCheck → last.ordinal ≠ candidate.ordinal) ∧
      ∀ next : Host, Unchanged selector next.files candidate.ordinal candidate.entry.uri time →
        ∀ grant, (last.checkOut next).value.2 = .ok grant →
          (last.checkOut next).value.1.ordinal ≠ candidate.ordinal := by
  intro last
  have bound := (made.sound_run before).ordinal candidate (candidate?_of_checkedOut held)
  have report := call_turn (selector.run before).value.1 host (.report code endpoint)
  have start := report.confined held outcome bound modified
  have same := run_identity selector before
  have path := report.identity.1.trans same.1
  have group := report.identity.2.trans same.2
  have confined : Confined candidate.ordinal candidate.entry.uri time last := by
    rw [show last = _ from congrArg Prod.fst (value_run_append selector before _)]
    apply start.run after live
    intro step member
    exact (unchanged step member).congr path group
  refine ⟨?_, confined.ordinal_ne, ?_⟩
  · exact (Quarantine.isQuarantined_iff _ _).mpr ⟨time, confined.slot⟩
  · intro next unchangedNext grant granted
    have identity := run_identity selector (before ++ (host, .report code endpoint) :: after)
    have checkOut := checkOut_turn last next
    rw [granted] at checkOut
    have still := confined.turn (unchangedNext.congr identity.1 identity.2) (by simp) checkOut
    exact still.ordinal_ne checkOut.readyToCheck_of_granted

theorem sample_unchanged : Unchanged sample sampleFiles 0 "a.p12" .epoch := by
  refine ⟨by rfl, ?_⟩
  have first : Lookup.inGroup sampleFiles "c.cfg" "G" 0 = .ok ⟨"L", "a.p12", "pc"⟩ := by rfl
  intro entry found
  cases first.symm.trans found
  rfl

theorem run_confined_sample :
    let before := [(sampleHost, Call.checkOut)]
    let after := [(sampleHost, Call.checkOut), (sampleHost, .report 0 "host")]
    let last := (sample.run (before ++ (sampleHost, .report 58 "host") :: after)).value.1
    last.quarantine.isQuarantined 0 = true := by
  intro before after last
  have held : (sample.run before).value.1.stage =
      .checkedOut ⟨0, ⟨"L", "a.p12", "pc"⟩⟩ ⟨Bytes.ofText "pc", by decide⟩ := by rfl
  have live : ∀ step, step ∈ after → step.2 ≠ .destroy := by simp [after]
  have unchanged : ∀ step, step ∈ after → Unchanged sample step.1.files 0 "a.p12" .epoch := by
    simp only [after, List.mem_cons, List.not_mem_nil, or_false]
    rintro step (rfl | rfl)
    · exact sample_unchanged
    · exact sample_unchanged
  exact (run_confined sample_made before held (by rfl) (by rfl) after live unchanged).1

end CertFailover.Selector
