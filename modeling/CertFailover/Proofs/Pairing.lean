import CertFailover.Proofs.Refinement

/-!
Passcodes over runs. A passcode is held only while a certificate is checked out, and then it is the
one that the store answered for that certificate when it was checked out.
-/

namespace CertFailover

namespace Selector

theorem Turn.passcode_of_report {selector next : Selector} {host : Host} {reply : Reply}
    {code : Nat} {endpoint : String}
    (turn : Turn selector host (.report code endpoint) next reply) : next.passcode = .empty := by
  cases turn with
  | reportIdle idle => exact passcode_of_ne idle
  | cleared held outcome first => rfl
  | restored held outcome later found => rfl
  | lost held outcome later missed => rfl
  | advanced held outcome found => rfl
  | ended held outcome missed => rfl
  | kept held outcome => rfl

theorem Turn.passcode_of_failed {selector next : Selector} {host : Host} {fault : Fault}
    (turn : Turn selector host .checkOut next (.failed fault))
    (free : selector.phase ≠ .readyToCheck) : next.passcode = .empty := by
  cases turn with
  | failed idle searched => rfl
  | checkOutHeld held => exact absurd held free
  | checkOutReleased released => exact passcode_of_ne free

theorem Turn.passcode_of_destroy {selector next : Selector} {host : Host} {reply : Reply}
    (turn : Turn selector host .destroy next reply) : next.passcode = .empty := by
  cases turn with
  | destroyed live => rfl
  | destroyedAgain released => simp [passcode, released, Stage.passcode]

theorem Turn.checkedOut {selector next : Selector} {host : Host} {made : Call} {reply : Reply}
    {candidate : Candidate} {passcode : Passcode} (turn : Turn selector host made next reply)
    (held : next.stage = .checkedOut candidate passcode) :
    made = .checkOut ∧
      (next = selector ∨
        reply = .granted ⟨candidate.entry.uri, passcode⟩ ∧
          service? host candidate.entry = some passcode) := by
  cases turn with
  | granted idle searched =>
      cases held
      exact ⟨rfl, .inr ⟨rfl, searched.served⟩⟩
  | failed idle searched => cases held
  | checkOutHeld current => exact ⟨rfl, .inl rfl⟩
  | checkOutReleased released => simp [released] at held
  | reportIdle idle => exact absurd (readyToCheck_iff.mpr ⟨_, _, held⟩) idle
  | cleared before outcome first => cases held
  | restored before outcome later found => cases held
  | lost before outcome later missed => cases held
  | advanced before outcome found => cases held
  | ended before outcome missed => cases held
  | kept before outcome => cases held
  | destroyed live => cases held
  | destroyedAgain released => simp [released] at held

theorem Turn.origin {selector next : Selector} {host : Host} {made : Call} {reply : Reply}
    {candidate : Candidate} (turn : Turn selector host made next reply)
    (held : next.candidate? = some candidate) :
    selector.candidate? = some candidate ∨
      selector.entryAt host.files candidate.ordinal = .ok candidate := by
  have ofEntry {ordinal : Nat} {found : Candidate}
      (located : selector.entryAt host.files ordinal = .ok found)
      (same : some found = some candidate) :
      selector.entryAt host.files candidate.ordinal = .ok candidate := by
    cases same
    have ordinal := (entryAt_eq_ok_iff.mp located).1
    rwa [ordinal]
  cases turn with
  | granted idle searched =>
      cases held
      rcases searched.origin with first | found
      · rcases begin_eq_ok first with before | ⟨_, found⟩
        · exact .inl before
        · exact .inr (ofEntry found rfl)
      · exact .inr found
  | failed idle searched => cases held
  | checkOutHeld current => exact .inl held
  | checkOutReleased released => exact .inl held
  | reportIdle idle => exact .inl held
  | cleared before outcome first =>
      cases held
      exact .inl (candidate?_of_checkedOut before)
  | restored before outcome later found => exact .inr (ofEntry found held)
  | lost before outcome later missed => cases held
  | advanced before outcome found => exact .inr (ofEntry found held)
  | ended before outcome missed => cases held
  | kept before outcome =>
      cases held
      exact .inl (candidate?_of_checkedOut before)
  | destroyed live => cases held
  | destroyedAgain released => exact .inl held

theorem Made.origin_run {files : FileTree} {selector : Selector} (made : Made files selector)
    (steps : List (Host × Call)) {candidate : Candidate}
    (held : (selector.run steps).value.1.candidate? = some candidate) :
    ∃ seen ∈ files :: steps.map (·.1.files),
      selector.entryAt seen candidate.ordinal = .ok candidate := by
  induction steps using List.reverseRecOn with
  | nil =>
      obtain ⟨_, entry, stage, found⟩ := made.first
      have first : some ⟨0, entry⟩ = some candidate := by
        simpa [candidate?, stage, Stage.candidate?] using held
      cases first
      exact ⟨files, by simp, entryAt_eq_ok_iff.mpr ⟨rfl, found⟩⟩
  | append_singleton past step ih =>
      obtain ⟨host, call⟩ := step
      rw [value_run_concat] at held
      rcases (call_turn (selector.run past).value.1 host call).origin held with before | found
      · obtain ⟨seen, member, located⟩ := ih before
        refine ⟨seen, ?_, located⟩
        rw [List.map_append, ← List.cons_append]
        exact List.mem_append_left _ member
      · refine ⟨host.files, by simp, ?_⟩
        have same := run_identity selector past
        rwa [entryAt, same.1, same.2] at found

/-- While a certificate is checked out there is the check-out that handed it out, and since then
nothing but refused check-outs. -/
theorem checkedOut_run {selector : Selector} {steps : List (Host × Call)} {candidate : Candidate}
    {passcode : Passcode} (start : selector.phase ≠ .readyToCheck)
    (held : (selector.run steps).value.1.stage = .checkedOut candidate passcode) :
    ∃ before host after, steps = before ++ (host, .checkOut) :: after ∧
      (∀ step ∈ after, step.2 = .checkOut) ∧
      ((selector.run before).value.1.call host .checkOut).value =
        ((selector.run steps).value.1, .granted ⟨candidate.entry.uri, passcode⟩) ∧
      service? host candidate.entry = some passcode := by
  induction steps using List.reverseRecOn with
  | nil => exact absurd (readyToCheck_iff.mpr ⟨candidate, passcode, held⟩) start
  | append_singleton past step ih =>
      obtain ⟨host, call⟩ := step
      rw [value_run_concat] at held ⊢
      obtain ⟨rfl, same | ⟨granted, served⟩⟩ :=
        (call_turn (selector.run past).value.1 host call).checkedOut held
      · rw [same] at held ⊢
        obtain ⟨before, giver, after, rfl, refused, given, served⟩ := ih held
        refine ⟨before, giver, after ++ [(host, .checkOut)], by simp, ?_, given, served⟩
        intro step member
        rcases List.mem_append.mp member with earlier | last
        · exact refused step earlier
        · rw [List.mem_singleton.mp last]
      · exact ⟨past, host, [], rfl, by simp, Prod.ext rfl granted, served⟩

theorem Made.pairing_run {files : FileTree} {selector : Selector} (made : Made files selector)
    {steps : List (Host × Call)} {candidate : Candidate} {passcode : Passcode}
    (held : (selector.run steps).value.1.stage = .checkedOut candidate passcode) :
    ∃ before host after value seen,
      steps = before ++ (host, .checkOut) :: after ∧
      (∀ step ∈ after, step.2 = .checkOut) ∧
      ((selector.run before).value.1.call host .checkOut).value =
        ((selector.run steps).value.1, .granted ⟨candidate.entry.uri, passcode⟩) ∧
      host.credentials candidate.entry.credentialRef = .ok value ∧
      Passcode.Whole value passcode.bytes ∧
      seen ∈ files :: before.map (·.1.files) ++ [host.files] ∧
      selector.entryAt seen candidate.ordinal = .ok candidate := by
  obtain ⟨before, host, after, split, refused, given, served⟩ := checkedOut_run made.idle.ne held
  obtain ⟨_, value, answered, whole⟩ := service?_eq_some_iff.mp served
  have there : (selector.run (before ++ [(host, .checkOut)])).value.1.candidate? =
      some candidate := by
    rw [value_run_concat, given]
    exact candidate?_of_checkedOut held
  obtain ⟨seen, member, found⟩ := made.origin_run _ there
  exact ⟨before, host, after, value, seen, split, refused, given, answered, whole,
    by simpa using member, found⟩

/-- Passcodes over a run of the machine: when one is held, which calls leave none, and whose it
is. -/
theorem run_pairing {files : FileTree} {selector : Selector} (made : Made files selector)
    (fallback : Registers.Fallback) (steps : List (Host × Call)) :
    let last := (selector.registers.run fallback steps).value.1
    (last.secret ≠ .empty → last.phase = .readyToCheck) ∧
      last.secret.length ≤ Limit.passcode - 1 ∧
      (∀ host code endpoint,
        (last.call fallback host (.report code endpoint)).value.1.secret = .empty) ∧
      (∀ host fault, last.phase ≠ .readyToCheck →
        (last.call fallback host .checkOut).value.2 = .failed fault →
          (last.call fallback host .checkOut).value.1.secret = .empty) ∧
      (∀ host, (last.call fallback host .destroy).value.1.secret = .empty) ∧
      (last.phase = .readyToCheck →
        ∃ before host after entry value seen,
          steps = before ++ (host, .checkOut) :: after ∧
          (∀ step ∈ after, step.2 = .checkOut) ∧
          ((selector.registers.run fallback before).value.1.call fallback host .checkOut).value =
            (last, .granted ⟨entry.uri, last.secret⟩) ∧
          last.candidate? = some entry ∧
          host.credentials entry.credentialRef = .ok value ∧
          Passcode.Whole value last.secret.bytes ∧
          seen ∈ files :: before.map (·.1.files) ++ [host.files] ∧
          Lookup.inGroup seen last.configPath last.group last.index = .ok entry) := by
  have turn := call_turn (selector.run steps).value.1
  intro last
  simp only [last, made.registers_call]
  rw [made.registers_run]
  refine ⟨?_, ?_, ?_, ?_, ?_, ?_⟩
  · intro held
    by_contra free
    exact held (passcode_of_ne free)
  · exact Nat.le_sub_one_of_lt (selector.run steps).value.1.registers.secret.short
  · intro host code endpoint
    exact (turn host (.report code endpoint)).passcode_of_report
  · intro host fault free failed
    have refused := turn host .checkOut
    rw [show ((selector.run steps).value.1.call host .checkOut).value.2 = _ from failed] at refused
    exact refused.passcode_of_failed free
  · intro host
    exact (turn host .destroy).passcode_of_destroy
  · intro current
    obtain ⟨candidate, passcode, held⟩ := readyToCheck_iff.mp current
    obtain ⟨before, host, after, value, seen, split, refused, given, answered, whole, member,
      found⟩ := made.pairing_run held
    have secret : (selector.run steps).value.1.passcode = passcode := by
      rw [Selector.passcode, held, Stage.passcode]
    have some := candidate?_of_checkedOut held
    have identity := run_identity selector steps
    refine ⟨before, host, after, candidate.entry, value, seen, split, refused, ?_, ?_, answered,
      ?_, member, ?_⟩
    · simp [given, onRegisters, registers, secret]
    · simp [registers, some]
    · simpa [registers, secret] using whole
    · have located := (entryAt_eq_ok_iff.mp found).2
      simpa [registers, identity, ordinal_of_candidate? some] using located

theorem run_pairing_sample :
    let host := { sampleHost with
      credentials := fun reference => .ok (Bytes.ofText reference ++ [Passcode.newline]) }
    let last := (sample.registers.run .standard [(host, .checkOut)]).value.1
    Made sampleFiles sample ∧ last.phase = .readyToCheck ∧
      last.candidate? = some ⟨"L", "a.p12", "pc"⟩ ∧ last.secret.bytes = Bytes.ofText "pc" ∧
      (last.call .standard host (.report 58 "host")).value.1.secret = .empty := by
  intro host last
  have current : last.phase = .readyToCheck := by rfl
  have candidate : last.candidate? = some ⟨"L", "a.p12", "pc"⟩ := by rfl
  obtain ⟨_, _, reported, _, _, paired⟩ :=
    run_pairing sample_made .standard [(host, .checkOut)]
  obtain ⟨before, giver, after, entry, value, _, split, _, _, held, answered, whole, _⟩ :=
    paired current
  cases candidate.symm.trans held
  obtain ⟨rfl, same⟩ : before = [] ∧ (giver, Call.checkOut) = (host, Call.checkOut) := by
    cases before with
    | nil => exact ⟨rfl, (List.cons.inj split).1.symm⟩
    | cons first rest => simp at split
  cases same
  cases (show Except.ok (Bytes.ofText "pc" ++ [Passcode.newline]) = .ok value from answered)
  exact ⟨sample_made, current, candidate, whole.unique (.ended rfl), reported host 58 "host"⟩

end Selector

end CertFailover
