import CertFailover.Proofs.Refinement

/-!
What the registers of a selector satisfy between calls, whatever the run so far was. The selector is
released by a destroy only, and a check-out is out of turn only while a certificate is checked out.
-/

namespace CertFailover

structure Registers.Consistent (registers : Registers) : Prop where
  index : registers.index < Limit.ordinals
  reset : registers.candidate? = none → registers.index = 0
  exhausted : registers.phase = .noCertificate → registers.candidate? = none
  checkedOut : registers.phase = .readyToCheck →
    ∃ entry, registers.candidate? = some entry ∧
      registers.quarantine.isQuarantined registers.index = false
  live : registers.live = true ↔ registers.phase ≠ .unknown
  wellFormed : ∀ entry, registers.candidate? = some entry → entry.WellFormed

namespace Selector

theorem Sound.consistent {selector : Selector} (sound : selector.Sound) :
    selector.registers.Consistent where
  index := sound.ordinal_lt
  reset := by
    intro empty
    exact ordinal_of_none (Option.map_eq_none_iff.mp empty)
  exhausted := by
    simp only [registers, phase, candidate?]
    cases selector.stage <;> simp [Stage.phase, Stage.candidate?]
  checkedOut := by
    intro current
    obtain ⟨candidate, passcode, held⟩ := readyToCheck_iff.mp current
    have some := candidate?_of_checkedOut held
    refine ⟨candidate.entry, by simp [registers, some], ?_⟩
    have unbarred := sound.unbarred candidate passcode held
    rw [Quarantine.isQuarantined_eq_false_iff]
    simpa [registers, ordinal_of_candidate? some] using unbarred
  live := by simp [registers]
  wellFormed := by
    intro entry found
    obtain ⟨candidate, held, rfl⟩ := Option.map_eq_some_iff.mp found
    exact sound.entry candidate held

theorem unknown_iff {selector : Selector} :
    selector.phase = .unknown ↔ selector.stage = .destroyed := by
  simp only [phase]
  cases selector.stage <;> simp [Stage.phase]

theorem Turn.unknown_iff {selector next : Selector} {host : Host} {made : Call} {reply : Reply}
    (turn : Turn selector host made next reply) :
    next.phase = .unknown ↔ made = .destroy ∨ selector.phase = .unknown := by
  rw [Selector.unknown_iff, Selector.unknown_iff]
  cases turn with
  | granted idle searched => rcases idle_iff.mp idle with ⟨_, stage⟩ | stage <;> simp [stage]
  | failed idle searched => rcases idle_iff.mp idle with ⟨_, stage⟩ | stage <;> simp [stage]
  | checkOutHeld held => simp
  | checkOutReleased released => simp
  | reportIdle idle => simp
  | cleared held outcome first => simp [held]
  | restored held outcome later found => simp [held]
  | lost held outcome later missed => simp [held]
  | advanced held outcome found => simp [held]
  | ended held outcome missed => simp [held]
  | kept held outcome => simp [held]
  | destroyed live => simp
  | destroyedAgain released => simp [released]

theorem Made.unknown_run_iff {files : FileTree} {selector : Selector}
    (made : Made files selector) (steps : List (Host × Call)) :
    (selector.run steps).value.1.phase = .unknown ↔ .destroy ∈ steps.map Prod.snd := by
  apply run_induction (motive := fun past current =>
    current.phase = .unknown ↔ .destroy ∈ past.map Prod.snd)
  · obtain ⟨_, entry, stage, _⟩ := made.first
    simp [phase, stage, Stage.phase]
  · intro past current host call next reply before turn
    rw [turn.unknown_iff, before]
    simp [or_comm, eq_comm]

theorem Turn.outOfTurn_iff {selector next : Selector} {host : Host} {reply : Reply}
    (turn : Turn selector host .checkOut next reply) (claimed : Phase) :
    reply = .failed (.outOfTurn claimed) ↔
      selector.phase = .readyToCheck ∧ claimed = .readyToCheck := by
  cases turn with
  | granted idle searched => rcases idle with phase | phase <;> simp [phase]
  | failed idle searched =>
      rename_i fault last
      rcases idle with phase | phase <;> cases fault <;> simp [phase, refusal]
  | checkOutHeld held => simp [held, eq_comm]
  | checkOutReleased released => simp [phase, released, Stage.phase]

theorem Turn.released_iff {selector next : Selector} {host : Host} {reply : Reply}
    (turn : Turn selector host .checkOut next reply) :
    reply = .failed .released ↔ selector.phase = .unknown := by
  cases turn with
  | granted idle searched => rcases idle with phase | phase <;> simp [phase]
  | failed idle searched =>
      rename_i fault last
      rcases idle with phase | phase <;> cases fault <;> simp [phase, refusal]
  | checkOutHeld held => simp [held]
  | checkOutReleased released => simp [phase, released, Stage.phase]

/-- After every run the registers are consistent. The machine goes through the run without a
fallback, so that it ends where the selector does. -/
theorem run_consistent {files : FileTree} {selector : Selector} (made : Made files selector)
    (fallback : Registers.Fallback) (steps : List (Host × Call)) :
    let last := (selector.registers.run fallback steps).value.1
    last.Consistent ∧
      (last.phase = .unknown ↔ .destroy ∈ steps.map Prod.snd) ∧
      last.configPath = selector.configPath ∧ last.group = selector.group ∧
      selector.registers.run fallback steps = onRegisters <$> selector.run steps ∧
      ∀ host,
        (∀ claimed,
          (last.call fallback host .checkOut).value.2 = .failed (.outOfTurn claimed) ↔
            last.phase = .readyToCheck ∧ claimed = .readyToCheck) ∧
        ((last.call fallback host .checkOut).value.2 = .failed .released ↔
          last.phase = .unknown) := by
  have sound := made.sound_run steps
  have identity := run_identity selector steps
  have turn := call_turn (selector.run steps).value.1
  intro last
  simp only [last, made.registers_call]
  rw [made.registers_run]
  refine ⟨sound.consistent, made.unknown_run_iff steps, identity.1, identity.2,
    registers_run made.sound fallback steps, ?_⟩
  intro host
  exact ⟨(turn host .checkOut).outOfTurn_iff, (turn host .checkOut).released_iff⟩

theorem run_consistent_sample :
    let steps :=
      [(sampleHost, Call.checkOut), (sampleHost, .report 58 "host"), (sampleHost, .checkOut)]
    Made sampleFiles sample ∧ (sample.registers.run .standard steps).value.1.Consistent :=
  ⟨sample_made, (run_consistent sample_made .standard _).1⟩

end Selector

end CertFailover
