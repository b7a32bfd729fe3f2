import CertFailover.Proofs.Visits

/-!
Where the times in quarantine come from. A slot holds a time exactly when a certificate error at its
ordinal has put it there and every call since has left it: no other report came at that ordinal, and
each visit of it found the file unchanged and went on.
-/

namespace CertFailover.Selector

/-- The report that quarantines an ordinal, at the time that the file of its candidate then has. -/
inductive Bars (selector : Selector) (host : Host) (ordinal : Nat) (time : Timestamp) :
    Call → Prop
  | rejected {candidate passcode code endpoint}
      (held : selector.stage = .checkedOut candidate passcode)
      (here : candidate.ordinal = ordinal)
      (bad : Outcome.ofCode code = .certificateError)
      (modified : host.files.modified? candidate.entry.path = some time) :
      Bars selector host ordinal time (.report code endpoint)

inductive Spares (selector : Selector) (host : Host) (ordinal : Nat) (time : Timestamp) :
    Call → Prop
  | passed (skipped : ∀ candidate ∈ selector.visited host, candidate.ordinal = ordinal →
      host.files.modified? candidate.entry.path = some time ∧
        ∀ passcode, (selector.checkOut host).value.1.stage ≠ .checkedOut candidate passcode) :
      Spares selector host ordinal time .checkOut
  | reportedElsewhere {code endpoint}
      (apart : ∀ candidate passcode, selector.stage = .checkedOut candidate passcode →
        candidate.ordinal ≠ ordinal) :
      Spares selector host ordinal time (.report code endpoint)

theorem Sound.slot?_checkOut_iff {selector : Selector} (sound : selector.Sound)
    {host : Host} {ordinal : Nat} {time : Timestamp} :
    (selector.checkOut host).value.1.quarantine.slot? ordinal = some time ↔
      selector.quarantine.slot? ordinal = some time ∧
        Spares selector host ordinal time .checkOut := by
  constructor
  · intro kept
    obtain ⟨slot, barred⟩ := slot?_checkOut_eq_some_iff.mp kept
    refine ⟨slot, .passed ?_⟩
    intro candidate visit here
    obtain ⟨barring, modified, same⟩ := barred candidate visit here
    rw [here, slot] at same
    cases same
    refine ⟨modified, ?_⟩
    intro passcode handed
    have free := (sound.turn (checkOut_turn selector host)).unbarred candidate passcode handed
    rw [here, kept] at free
    cases free
  · rintro ⟨slot, ⟨skipped⟩⟩
    apply slot?_checkOut_eq_some_iff.mpr
    refine ⟨slot, ?_⟩
    intro candidate visit here
    refine ⟨time, (skipped candidate visit here).1, ?_⟩
    rw [here, slot]

theorem Turn.quarantine_of_report {selector next : Selector} {host : Host} {code : Nat}
    {endpoint : String} {reply : Reply} {candidate : Candidate} {passcode : Passcode}
    (turn : Turn selector host (.report code endpoint) next reply)
    (held : selector.stage = .checkedOut candidate passcode) :
    next.quarantine =
      match Outcome.ofCode code with
      | .success => selector.quarantine.clear candidate.ordinal
      | .certificateError => selector.quarantine.mark candidate.ordinal
          (host.files.modified? candidate.entry.path)
      | .other => selector.quarantine := by
  cases turn with
  | reportIdle idle => exact absurd (readyToCheck_iff.mpr ⟨candidate, passcode, held⟩) idle
  | cleared before outcome first =>
      cases held.symm.trans before
      rw [outcome]
  | restored before outcome later found =>
      cases held.symm.trans before
      rw [outcome]
  | lost before outcome later missed =>
      cases held.symm.trans before
      rw [outcome]
  | advanced before outcome found =>
      cases held.symm.trans before
      rw [outcome]
  | ended before outcome missed =>
      cases held.symm.trans before
      rw [outcome]
  | kept before outcome => rw [outcome]

theorem Turn.eq_of_report {selector next : Selector} {host : Host} {code : Nat}
    {endpoint : String} {reply : Reply}
    (turn : Turn selector host (.report code endpoint) next reply)
    (free : ∀ candidate passcode, selector.stage ≠ .checkedOut candidate passcode) :
    next = selector := by
  cases turn with
  | reportIdle idle => rfl
  | cleared held outcome first => exact absurd held (free _ _)
  | restored held outcome later found => exact absurd held (free _ _)
  | lost held outcome later missed => exact absurd held (free _ _)
  | advanced held outcome found => exact absurd held (free _ _)
  | ended held outcome missed => exact absurd held (free _ _)
  | kept held outcome => exact absurd held (free _ _)

theorem bars_iff_of_held {selector : Selector} {host : Host} {code : Nat} {endpoint : String}
    {candidate : Candidate} {passcode : Passcode} {ordinal : Nat} {time : Timestamp}
    (held : selector.stage = .checkedOut candidate passcode) :
    Bars selector host ordinal time (.report code endpoint) ↔
      candidate.ordinal = ordinal ∧ Outcome.ofCode code = .certificateError ∧
        host.files.modified? candidate.entry.path = some time := by
  constructor
  · rintro ⟨other, here, bad, modified⟩
    cases held.symm.trans other
    exact ⟨here, bad, modified⟩
  · rintro ⟨here, bad, modified⟩
    exact .rejected held here bad modified

theorem spares_iff_of_held {selector : Selector} {host : Host} {code : Nat} {endpoint : String}
    {candidate : Candidate} {passcode : Passcode} {ordinal : Nat} {time : Timestamp}
    (held : selector.stage = .checkedOut candidate passcode) :
    Spares selector host ordinal time (.report code endpoint) ↔ candidate.ordinal ≠ ordinal := by
  constructor
  · intro spared
    cases spared with
    | reportedElsewhere apart => exact apart candidate passcode held
  · intro apart
    apply Spares.reportedElsewhere
    intro other code before
    cases held.symm.trans before
    exact apart

theorem Sound.slot?_report_iff {selector next : Selector} (sound : selector.Sound)
    {host : Host} {code : Nat} {endpoint : String} {reply : Reply}
    (turn : Turn selector host (.report code endpoint) next reply) {ordinal : Nat}
    {time : Timestamp} :
    next.quarantine.slot? ordinal = some time ↔
      Bars selector host ordinal time (.report code endpoint) ∨
        selector.quarantine.slot? ordinal = some time ∧
          Spares selector host ordinal time (.report code endpoint) := by
  by_cases held : ∃ candidate passcode, selector.stage = .checkedOut candidate passcode
  · obtain ⟨candidate, passcode, held⟩ := held
    have range := sound.ordinal candidate (candidate?_of_checkedOut held)
    have free := sound.unbarred candidate passcode held
    rw [turn.quarantine_of_report held, bars_iff_of_held held, spares_iff_of_held held]
    by_cases here : candidate.ordinal = ordinal
    · -- The slot was empty, so only the report can have put the time there.
      subst here
      cases Outcome.ofCode code <;> simp [free, range]
    · cases Outcome.ofCode code <;> simp [here]
  · have none : ∀ candidate passcode, selector.stage ≠ .checkedOut candidate passcode :=
      fun candidate passcode before => held ⟨candidate, passcode, before⟩
    rw [turn.eq_of_report none]
    constructor
    · intro slot
      exact .inr ⟨slot, .reportedElsewhere fun candidate passcode before =>
        absurd before (none candidate passcode)⟩
    · rintro (⟨before, _⟩ | ⟨slot, _⟩)
      · exact absurd before (none _ _)
      · exact slot

theorem slot?_destroy {selector : Selector} (vacated : selector.Vacated) (ordinal : Nat) :
    selector.destroy.value.quarantine.slot? ordinal = none := by
  cases stage : selector.stage with
  | ready candidate? => simp [destroy, stage]
  | checkedOut candidate passcode => simp [destroy, stage]
  | exhausted => simp [destroy, stage]
  | destroyed => simp [destroy, stage, (vacated stage).2]

theorem Made.slot?_call_iff {files : FileTree} {selector : Selector}
    (made : Made files selector) (steps : List (Host × Call)) (host : Host) (call : Call)
    {ordinal : Nat} {time : Timestamp} :
    ((selector.run steps).value.1.call host call).value.1.quarantine.slot? ordinal = some time ↔
      Bars (selector.run steps).value.1 host ordinal time call ∨
        (selector.run steps).value.1.quarantine.slot? ordinal = some time ∧
          Spares (selector.run steps).value.1 host ordinal time call := by
  have sound := made.sound_run steps
  cases call with
  | checkOut =>
      have bars : ¬Bars (selector.run steps).value.1 host ordinal time .checkOut := by rintro ⟨⟩
      rw [or_iff_right bars]
      exact sound.slot?_checkOut_iff
  | report code endpoint =>
      exact sound.slot?_report_iff (report_turn _ host code endpoint)
  | destroy =>
      have emptied := slot?_destroy (made.vacated_run steps) ordinal
      constructor
      · intro slot
        cases emptied.symm.trans slot
      · rintro (barred | ⟨_, spared⟩)
        · cases barred
        · cases spared

theorem Made.slot?_run_iff {files : FileTree} {selector : Selector}
    (made : Made files selector) (steps : List (Host × Call)) {ordinal : Nat}
    {time : Timestamp} :
    (selector.run steps).value.1.quarantine.slot? ordinal = some time ↔
      ∃ before host call after, steps = before ++ (host, call) :: after ∧
        Bars (selector.run before).value.1 host ordinal time call ∧
        ∀ middle later made, middle ++ [(later, made)] <+: after →
          Spares (selector.run (before ++ (host, call) :: middle)).value.1 later ordinal time
            made := by
  induction steps using List.reverseRecOn with
  | nil => simp [made.first.1]
  | append_singleton past step ih =>
      obtain ⟨host, call⟩ := step
      rw [value_run_concat, made.slot?_call_iff, ih]
      constructor
      · rintro (barred | ⟨⟨before, origin, first, after, rfl, barred, spared⟩, last⟩)
        · refine ⟨past, host, call, [], rfl, barred, ?_⟩
          intro middle later made initial
          simp at initial
        · refine ⟨before, origin, first, after ++ [(host, call)], by simp, barred, ?_⟩
          intro middle later made initial
          rcases List.prefix_concat_iff.mp initial with whole | shorter
          · obtain ⟨rfl, same⟩ := List.append_inj' whole rfl
            cases same
            exact last
          · exact spared middle later made shorter
      · rintro ⟨before, origin, first, after, split, barred, spared⟩
        rcases List.eq_nil_or_concat after with rfl | ⟨shorter, last, rfl⟩
        · obtain ⟨rfl, same⟩ := List.append_inj' split rfl
          cases same
          exact .inl barred
        · rw [List.concat_eq_append] at split spared
          rw [← List.cons_append, ← List.append_assoc] at split
          obtain ⟨rfl, same⟩ := List.append_inj' split rfl
          cases same
          refine .inr ⟨⟨before, origin, first, shorter, rfl, barred, ?_⟩, ?_⟩
          · intro middle later made initial
            exact spared middle later made (initial.trans (List.prefix_append _ _))
          · exact spared shorter host call (List.prefix_refl _)

/-- A slot holds a time exactly when an earlier certificate error at its ordinal met the file with
that time and all calls since have left the slot. A visit that finds the file missing or with
another time empties it. -/
theorem run_provenance {files : FileTree} {selector : Selector} (made : Made files selector)
    (steps : List (Host × Call)) :
    let last := (selector.run steps).value.1
    (∀ ordinal time, last.quarantine.slot? ordinal = some time ↔
      ∃ before host call after, steps = before ++ (host, call) :: after ∧
        Bars (selector.run before).value.1 host ordinal time call ∧
        ∀ middle later made, middle ++ [(later, made)] <+: after →
          Spares (selector.run (before ++ (host, call) :: middle)).value.1 later ordinal time
            made) ∧
      ∀ host, ∀ candidate ∈ last.visited host,
        (host.files.modified? candidate.entry.path = none ∨
          host.files.modified? candidate.entry.path ≠ last.quarantine.slot? candidate.ordinal) →
        (last.checkOut host).value.1.quarantine.slot? candidate.ordinal = none := by
  intro last
  refine ⟨fun ordinal time => made.slot?_run_iff steps, ?_⟩
  intro host candidate visit other
  apply Option.eq_none_iff_forall_ne_some.mpr
  intro time slot
  obtain ⟨_, barred⟩ := slot?_checkOut_eq_some_iff.mp slot
  obtain ⟨barring, modified, same⟩ := barred candidate visit rfl
  rcases other with missing | renewed
  · rw [missing] at modified
    cases modified
  · exact renewed (modified.trans same.symm)

theorem run_provenance_sample :
    let steps := [(sampleHost, .checkOut), (sampleHost, .report 58 "host"), (sampleHost, .checkOut)]
    let last := (sample.run steps).value.1
    Made sampleFiles sample ∧ last.quarantine.slot? 0 = some .epoch ∧
      ∃ before host call after, steps = before ++ (host, call) :: after ∧
        Bars (sample.run before).value.1 host 0 .epoch call ∧
        ∀ middle later made, middle ++ [(later, made)] <+: after →
          Spares (sample.run (before ++ (host, call) :: middle)).value.1 later 0 .epoch made :=
  ⟨sample_made, by rfl, ((run_provenance sample_made _).1 0 .epoch).mp (by rfl)⟩

end CertFailover.Selector
