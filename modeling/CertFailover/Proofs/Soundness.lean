import CertFailover.Proofs.Turns

/-!
The invariants of selectors. A candidate comes from a lookup, so that its ordinal is in range and its
entry well formed, and a candidate that is checked out is not in quarantine. Nothing is left of a
selector that is destroyed.
-/

namespace CertFailover.Selector

structure Sound (selector : Selector) : Prop where
  ordinal : ∀ candidate, selector.candidate? = some candidate →
    candidate.ordinal < Limit.ordinals
  entry : ∀ candidate, selector.candidate? = some candidate → candidate.entry.WellFormed
  unbarred : ∀ candidate passcode, selector.stage = .checkedOut candidate passcode →
    selector.quarantine.slot? candidate.ordinal = none

theorem candidate?_of_checkedOut {selector : Selector} {candidate : Candidate}
    {passcode : Passcode} (held : selector.stage = .checkedOut candidate passcode) :
    selector.candidate? = some candidate := by
  rw [candidate?, held, Stage.candidate?]

theorem ordinal_of_candidate? {selector : Selector} {candidate : Candidate}
    (held : selector.candidate? = some candidate) : selector.ordinal = candidate.ordinal := by
  rw [ordinal, held, Option.map_some, Option.getD_some]

theorem ordinal_of_none {selector : Selector} (empty : selector.candidate? = none) :
    selector.ordinal = 0 := by
  rw [ordinal, empty, Option.map_none, Option.getD_none]

theorem passcode_of_ne {selector : Selector} (free : selector.phase ≠ .readyToCheck) :
    selector.passcode = .empty := by
  rw [phase] at free
  rw [passcode]
  cases stage : selector.stage <;> simp_all [Stage.phase, Stage.passcode]

theorem Sound.ordinal_lt {selector : Selector} (sound : selector.Sound) :
    selector.ordinal < Limit.ordinals := by
  cases held : selector.candidate? with
  | none =>
      rw [ordinal_of_none held]
      decide
  | some candidate =>
      rw [ordinal_of_candidate? held]
      exact sound.ordinal candidate held

theorem begin_eq_ok {selector : Selector} {files : FileTree} {candidate : Candidate}
    (first : (selector.begin files).value = .ok candidate) :
    selector.candidate? = some candidate ∨
      selector.candidate? = none ∧ selector.entryAt files 0 = .ok candidate := by
  rw [value_begin] at first
  cases held : selector.candidate? with
  | none => exact .inr ⟨rfl, by simpa [held] using first⟩
  | some other =>
      left
      simpa [held] using first

theorem begin_ordinal {selector : Selector} {files : FileTree} {candidate : Candidate}
    (first : (selector.begin files).value = .ok candidate) :
    candidate.ordinal = selector.ordinal := by
  rcases begin_eq_ok first with held | ⟨empty, found⟩
  · rw [ordinal_of_candidate? held]
  · rw [ordinal_of_none empty]
    exact (entryAt_eq_ok_iff.mp found).1

theorem Searched.origin {selector : Selector} {host : Host} {candidate : Candidate}
    {passcode : Passcode} {first : Except LookupFault Candidate} {quarantine last : Quarantine}
    (searched : Searched selector host first quarantine (.ok (candidate, passcode)) last) :
    first = .ok candidate ∨
      selector.entryAt host.files candidate.ordinal = .ok candidate := by
  generalize found : Except.ok (candidate, passcode) = result at searched
  induction searched with
  | stopped fault quarantine => cases found
  | taken _ =>
      cases found
      exact .inl rfl
  | skipped _ _ ih =>
      right
      rcases ih found with next | later
      · have ordinal := (entryAt_eq_ok_iff.mp next).1
        rwa [ordinal]
      · exact later

theorem Searched.slot? {selector : Selector} {host : Host} {candidate : Candidate}
    {passcode : Passcode} {first : Except LookupFault Candidate} {quarantine last : Quarantine}
    (searched : Searched selector host first quarantine (.ok (candidate, passcode)) last) :
    last.slot? candidate.ordinal = none := by
  generalize found : Except.ok (candidate, passcode) = result at searched
  induction searched with
  | stopped fault quarantine => cases found
  | taken tried =>
      cases found
      rw [slot?_attempt, if_pos ⟨rfl, (attempt_eq_some_iff.mp tried).1⟩]
  | skipped _ _ ih => exact ih found

theorem sound_ready_some {selector : Selector} {files : FileTree} {ordinal : Nat}
    {candidate : Candidate} (quarantine : Quarantine)
    (found : selector.entryAt files ordinal = .ok candidate) :
    Sound { selector with quarantine := quarantine, stage := .ready (some candidate) } := by
  have located := entryAt_eq_ok_iff.mp found
  refine ⟨?_, ?_, ?_⟩
  · rintro other ⟨⟩
    rw [located.1]
    exact entryAt_lt found
  · rintro other ⟨⟩
    exact Lookup.inGroup_wellFormed located.2
  · rintro other passcode ⟨⟩

theorem Made.sound {files : FileTree} {selector : Selector} (made : Made files selector) :
    selector.Sound := by
  obtain ⟨_, entry, stage, found⟩ := made.first
  have sought : selector.entryAt files 0 = .ok ⟨0, entry⟩ := entryAt_eq_ok_iff.mpr ⟨rfl, found⟩
  have sound := sound_ready_some selector.quarantine sought
  rwa [← stage] at sound

theorem Sound.turn {selector next : Selector} {host : Host} {made : Call} {reply : Reply}
    (sound : selector.Sound) (turn : Turn selector host made next reply) : next.Sound := by
  have ofCandidate (candidate : Candidate) (held : selector.candidate? = some candidate)
      (quarantine : Quarantine) :
      Sound { selector with quarantine := quarantine, stage := .ready (some candidate) } := by
    refine ⟨?_, ?_, ?_⟩
    · rintro other ⟨⟩
      exact sound.ordinal candidate held
    · rintro other ⟨⟩
      exact sound.entry candidate held
    · rintro other passcode ⟨⟩
  have ofEmpty (stage : Stage) (quarantine : Quarantine) (engine? : Option String)
      (empty : stage.candidate? = none) :
      Sound { selector with engine? := engine?, quarantine := quarantine, stage := stage } := by
    refine ⟨?_, ?_, ?_⟩
    · intro other held
      exact absurd (empty.symm.trans held) (by simp)
    · intro other held
      exact absurd (empty.symm.trans held) (by simp)
    · rintro other passcode ⟨⟩
      simp [Stage.candidate?] at empty
  cases turn with
  | granted idle searched =>
      rename_i candidate passcode last
      have reachable : Sound { selector with
          quarantine := last, stage := .ready (some candidate) } := by
        rcases searched.origin with first | found
        · rcases begin_eq_ok first with held | ⟨_, found⟩
          · exact ofCandidate candidate held last
          · exact sound_ready_some last found
        · exact sound_ready_some last found
      refine ⟨reachable.ordinal, reachable.entry, ?_⟩
      rintro other held ⟨⟩
      exact searched.slot?
  | failed idle searched => exact ofEmpty (.ready none) _ _ rfl
  | checkOutHeld held => exact sound
  | checkOutReleased released => exact sound
  | reportIdle idle => exact sound
  | cleared held outcome first => exact ofCandidate _ (candidate?_of_checkedOut held) _
  | restored held outcome later found => exact sound_ready_some _ found
  | lost held outcome later missed => exact ofEmpty .exhausted _ _ rfl
  | advanced held outcome found => exact sound_ready_some _ found
  | ended held outcome missed => exact ofEmpty .exhausted _ _ rfl
  | kept held outcome => exact ofCandidate _ (candidate?_of_checkedOut held) _
  | destroyed live => exact ofEmpty .destroyed _ _ rfl
  | destroyedAgain released => exact sound

theorem Made.sound_run {files : FileTree} {selector : Selector} (made : Made files selector)
    (steps : List (Host × Call)) : (selector.run steps).value.1.Sound :=
  run_induction (motive := fun _ current => current.Sound) made.sound
    (fun _ _ _ _ _ _ sound turn => sound.turn turn) steps

def Vacated (selector : Selector) : Prop :=
  selector.stage = .destroyed → selector.engine? = none ∧ selector.quarantine = .empty

theorem Vacated.turn {selector next : Selector} {host : Host} {made : Call} {reply : Reply}
    (vacated : selector.Vacated) (turn : Turn selector host made next reply) : next.Vacated := by
  cases turn with
  | checkOutHeld held => exact vacated
  | checkOutReleased released => exact vacated
  | reportIdle idle => exact vacated
  | destroyed live => exact fun _ => ⟨rfl, rfl⟩
  | destroyedAgain released => exact vacated
  | _ => rintro ⟨⟩

theorem Made.vacated_run {files : FileTree} {selector : Selector} (made : Made files selector)
    (steps : List (Host × Call)) : (selector.run steps).value.1.Vacated := by
  apply run_induction (motive := fun _ current => current.Vacated)
  · obtain ⟨_, entry, stage, _⟩ := made.first
    intro released
    cases stage.symm.trans released
  · exact fun _ _ _ _ _ _ vacated turn => vacated.turn turn

theorem Turn.identity {selector next : Selector} {host : Host} {made : Call} {reply : Reply}
    (turn : Turn selector host made next reply) :
    next.configPath = selector.configPath ∧ next.group = selector.group := by
  cases turn <;> exact ⟨rfl, rfl⟩

theorem run_identity (selector : Selector) (steps : List (Host × Call)) :
    (selector.run steps).value.1.configPath = selector.configPath ∧
      (selector.run steps).value.1.group = selector.group := by
  apply run_induction (motive := fun _ current =>
    current.configPath = selector.configPath ∧ current.group = selector.group) ⟨rfl, rfl⟩
  intro past current host made next reply same turn
  rw [turn.identity.1, turn.identity.2]
  exact same

end CertFailover.Selector
