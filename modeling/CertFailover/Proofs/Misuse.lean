import CertFailover.Proofs.Representation

/-!
Calls out of turn. Each is refused in the same way whatever its surroundings are and changes nothing,
so that a run without them goes the same way at each of its other calls.
-/

namespace CertFailover

namespace Registers

/-- Whether a call is in turn: a check-out as long as no certificate is checked out, a report as long
as one is, and neither of them nor a destroy once the selector is destroyed. -/
def inTurn (registers : Registers) : Selector.Call → Bool
  | .checkOut => registers.live && registers.phase != .readyToCheck
  | .report .. => registers.live && registers.phase == .readyToCheck
  | .destroy => registers.live

def rebuff (registers : Registers) : Selector.Call → Reply
  | .checkOut => .failed (if registers.live then .outOfTurn .readyToCheck else .released)
  | .report .. => .decided .retryError
  | .destroy => .destroyed

structure Moment where
  before : Registers
  host : Host
  call : Selector.Call
  outcome : Logged (Registers × Reply)

namespace Moment

def step (moment : Moment) : Host × Selector.Call :=
  (moment.host, moment.call)

def inTurn (moment : Moment) : Bool :=
  moment.before.inTurn moment.call

def reply (moment : Moment) : Reply :=
  moment.outcome.value.2

end Moment

def history (fallback : Fallback) (registers : Registers) :
    List (Host × Selector.Call) → List Moment
  | [] => []
  | (host, made) :: rest =>
    let outcome := registers.call fallback host made
    ⟨registers, host, made, outcome⟩ :: outcome.value.1.history fallback rest

def orderly (fallback : Fallback) (registers : Registers) (steps : List (Host × Selector.Call)) :
    List (Host × Selector.Call) :=
  ((registers.history fallback steps).filter Moment.inTurn).map Moment.step

theorem history_append (fallback : Fallback) (registers : Registers)
    (past future : List (Host × Selector.Call)) :
    registers.history fallback (past ++ future) =
      registers.history fallback past ++
        (registers.run fallback past).value.1.history fallback future := by
  induction past generalizing registers with
  | nil => rfl
  | cons step rest ih =>
      obtain ⟨host, made⟩ := step
      rw [List.cons_append, history, ih]
      rfl

theorem replies_run (fallback : Fallback) (registers : Registers)
    (steps : List (Host × Selector.Call)) :
    (registers.run fallback steps).value.2 =
      (registers.history fallback steps).map Moment.reply := by
  induction steps generalizing registers with
  | nil => rfl
  | cons step rest ih =>
      obtain ⟨host, made⟩ := step
      rw [history, List.map_cons, ← ih]
      rfl

theorem orderly_prefix (fallback : Fallback) (registers : Registers)
    {past steps : List (Host × Selector.Call)} (initial : past <+: steps) :
    registers.orderly fallback past <+: registers.orderly fallback steps := by
  obtain ⟨future, rfl⟩ := initial
  rw [orderly, orderly, history_append, List.filter_append, List.map_append]
  exact List.prefix_append _ _

end Registers

namespace Selector

theorem call_of_not_inTurn {selector : Selector} {made : Call}
    (misplaced : selector.registers.inTurn made = false) (host : Host) :
    (selector.call host made).value = (selector, selector.registers.rebuff made) ∧
      ∀ other, selector.call other made = selector.call host made := by
  obtain ⟨configPath, group, engine?, quarantine, stage⟩ := selector
  cases made with
  | checkOut =>
      cases stage with
      | ready candidate? => cases misplaced
      | checkedOut candidate passcode => exact ⟨rfl, fun _ => rfl⟩
      | exhausted => cases misplaced
      | destroyed => exact ⟨rfl, fun _ => rfl⟩
  | report code endpoint =>
      cases stage with
      | checkedOut candidate passcode => cases misplaced
      | _ => exact ⟨rfl, fun _ => rfl⟩
  | destroy =>
      cases stage with
      | destroyed => exact ⟨rfl, fun _ => rfl⟩
      | _ => cases misplaced

theorem Sound.call_of_not_inTurn {selector : Selector} (sound : selector.Sound) {made : Call}
    (misplaced : selector.registers.inTurn made = false) (fallback : Registers.Fallback)
    (host : Host) :
    (selector.registers.call fallback host made).value =
        (selector.registers, selector.registers.rebuff made) ∧
      ∀ other, selector.registers.call fallback other made =
        selector.registers.call fallback host made := by
  obtain ⟨value, same⟩ := Selector.call_of_not_inTurn misplaced host
  constructor
  · rw [registers_call sound, Logged.value_map, value, onRegisters]
  · intro other
    rw [registers_call sound, registers_call sound, same other]

theorem Sound.refused {selector : Selector} (sound : selector.Sound)
    (fallback : Registers.Fallback) (steps : List (Host × Call)) :
    ∀ moment ∈ selector.registers.history fallback steps, moment.inTurn = false →
      moment.outcome.value = (moment.before, moment.before.rebuff moment.call) ∧
        ∀ other, moment.before.call fallback other moment.call = moment.outcome := by
  induction steps generalizing selector with
  | nil =>
      intro moment member
      cases member
  | cons step rest ih =>
      obtain ⟨host, made⟩ := step
      have next := sound.turn (call_turn selector host made)
      rw [Registers.history, List.forall_mem_cons]
      refine ⟨fun misplaced => sound.call_of_not_inTurn misplaced fallback host, ?_⟩
      rw [registers_call sound]
      exact ih next

theorem Sound.orderly {selector : Selector} (sound : selector.Sound)
    (fallback : Registers.Fallback) (steps : List (Host × Call)) :
    selector.registers.history fallback (selector.registers.orderly fallback steps) =
        (selector.registers.history fallback steps).filter Registers.Moment.inTurn ∧
      (selector.registers.run fallback (selector.registers.orderly fallback steps)).value.1 =
        (selector.registers.run fallback steps).value.1 := by
  induction steps generalizing selector with
  | nil => exact ⟨rfl, rfl⟩
  | cons step rest ih =>
      obtain ⟨host, made⟩ := step
      have next := sound.turn (call_turn selector host made)
      have called := registers_call sound fallback host made
      have after : (selector.registers.call fallback host made).value.1 =
          (selector.call host made).value.1.registers := by
        rw [called]
        rfl
      have run : (selector.registers.run fallback ((host, made) :: rest)).value.1 =
          ((selector.call host made).value.1.registers.run fallback rest).value.1 := by
        rw [← after]
        rfl
      rw [Registers.orderly, Registers.history, run]
      simp only [after]
      cases turn : selector.registers.inTurn made with
      | false =>
          -- The registers stay, so the rest of the run is one from the same registers.
          have same : (selector.call host made).value.1 = selector := by
            rw [(Selector.call_of_not_inTurn turn host).1]
          rw [List.filter_cons_of_neg (by simpa [Registers.Moment.inTurn] using turn), same]
          exact ih sound
      | true =>
          rw [List.filter_cons_of_pos (by simpa [Registers.Moment.inTurn] using turn),
            List.map_cons]
          obtain ⟨history, last⟩ := ih next
          constructor
          · rw [Registers.Moment.step, Registers.history]
            simp only [after]
            exact congrArg _ history
          · rw [← last, ← after]
            rfl

/-- A call out of turn has no effect, in a run with any others. It is refused with the registers as
they were, and alike in all surroundings. The calls in turn have the same outcomes without it, and at
each point of the run they alone have led to the same registers. -/
theorem run_misuse {files : FileTree} {selector : Selector} (made : Made files selector)
    (fallback : Registers.Fallback) (steps : List (Host × Call)) :
    let start := selector.registers
    let history := start.history fallback steps
    (start.run fallback steps).value.2 = history.map Registers.Moment.reply ∧
      (∀ moment ∈ history, moment.inTurn = false →
        moment.outcome.value = (moment.before, moment.before.rebuff moment.call) ∧
          ∀ other, moment.before.call fallback other moment.call = moment.outcome) ∧
      start.history fallback (start.orderly fallback steps) =
        history.filter Registers.Moment.inTurn ∧
      ∀ past, past <+: steps →
        start.orderly fallback past <+: start.orderly fallback steps ∧
          (start.run fallback (start.orderly fallback past)).value.1 =
            (start.run fallback past).value.1 ∧
          ((start.run fallback past).value.1.live = false ↔ .destroy ∈ past.map Prod.snd) := by
  intro start history
  have sound := made.sound
  refine ⟨start.replies_run fallback steps, sound.refused fallback steps,
    (sound.orderly fallback steps).1, fun past initial => ?_⟩
  refine ⟨start.orderly_prefix fallback initial, (sound.orderly fallback past).2, ?_⟩
  rw [made.registers_run, ← made.unknown_run_iff past]
  simp [registers]

theorem run_misuse_sample :
    let steps :=
      [(sampleHost, Call.report 0 "host"), (sampleHost, .checkOut), (sampleHost, .checkOut),
        (sampleHost, .report 58 "host"), (sampleHost, .destroy), (sampleHost, .checkOut)]
    let start := sample.registers
    Made sampleFiles sample ∧
      start.orderly .standard steps =
        [(sampleHost, .checkOut), (sampleHost, .report 58 "host"), (sampleHost, .destroy)] ∧
      (start.run .standard (start.orderly .standard (steps.take 3))).value.1 =
        (start.run .standard (steps.take 3)).value.1 :=
  ⟨sample_made, by rfl,
    ((run_misuse sample_made .standard _).2.2.2 _ (List.take_prefix 3 _)).2.1⟩

end Selector

end CertFailover
