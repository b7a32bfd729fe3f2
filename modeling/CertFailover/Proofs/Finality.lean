import CertFailover.Proofs.Agreement
import CertFailover.Proofs.LocatorRegisters
import CertFailover.Proofs.Representation

/-!
The end of a handle. Once it is destroyed, nothing that can be called fills one of its registers
again, and the log tells of the end of a selector once in its life.
-/

namespace CertFailover

def Event.isDestruction : Event → Bool
  | .selectorDestroyed _ => true
  | _ => false

namespace Logged

variable {α β : Type}

def destructions (computation : Logged α) : List Event :=
  computation.events.filter Event.isDestruction

@[simp] theorem destructions_pure (value : α) : (pure value : Logged α).destructions = [] := rfl

@[simp] theorem destructions_bind (first : Logged α) (next : α → Logged β) :
    (first >>= next).destructions = first.destructions ++ (next first.value).destructions := by
  simp [destructions]

@[simp] theorem destructions_map (change : α → β) (computation : Logged α) :
    (change <$> computation).destructions = computation.destructions := by
  simp [destructions]

def Sparing (computation : Logged α) : Prop :=
  computation.destructions = []

theorem sparing_pure (value : α) : (pure value : Logged α).Sparing :=
  rfl

theorem Sparing.bind {first : Logged α} {next : α → Logged β} (spared : first.Sparing)
    (rest : ∀ value, (next value).Sparing) : (first >>= next).Sparing := by
  rw [Sparing, destructions_bind, spared, rest]
  rfl

theorem Sparing.after {event : Event} {next : Logged β} (spared : next.Sparing)
    (other : event.isDestruction = false) : (log event >>= fun _ => next).Sparing := by
  rw [Sparing, destructions_bind, spared, destructions, events_log, List.filter_singleton, other]
  rfl

end Logged

theorem Engine.sparing_ofLines (path : String) (lines : List Line) :
    (Engine.ofLines path lines).Sparing := by
  induction lines with
  | nil => rfl
  | cons line rest ih =>
      obtain ⟨number, body⟩ := line
      cases body with
      | tooLong => exact ih.after rfl
      | notUtf8 => exact ih.after rfl
      | text text =>
          rw [ofLines]
          cases Text.after? key text with
          | none => exact ih
          | some value =>
              simp only
              split <;> rfl

theorem Engine.sparing_read (files : FileTree) (path : String) :
    (Engine.read files path).Sparing := by
  rw [read]
  cases files.find path with
  | error cause => rfl
  | ok node =>
      simp only
      cases node.content with
      | error cause => rfl
      | ok content => exact sparing_ofLines path _

namespace Selector

inductive Making (files : FileTree) : Logged (Except Fault Selector) → Prop
  | create (configPath propertiesPath group : String) :
      Making files (create files configPath propertiesPath group)
  | build (options : SelectorOptions) : Making files (options.build files)

theorem Making.made {files : FileTree} {making : Logged (Except Fault Selector)}
    (attempted : Making files making) {selector : Selector}
    (succeeded : making.value = .ok selector) : Made files selector := by
  cases attempted with
  | create configPath propertiesPath group => exact .create succeeded
  | build options => exact .build succeeded

theorem sparing_seek (selector : Selector) (files : FileTree) (ordinal : Nat) :
    (selector.seek files ordinal).Sparing := by
  rw [seek]
  cases Lookup.inGroup files selector.configPath selector.group ordinal <;> rfl

theorem sparing_giveUp (selector : Selector) (fault : LookupFault) :
    (selector.giveUp fault).Sparing := by
  cases fault <;> rfl

theorem sparing_begin (selector : Selector) (files : FileTree) :
    (selector.begin files).Sparing := by
  rw [begin]
  cases selector.candidate? with
  | none => exact sparing_seek selector files 0
  | some candidate => rfl

theorem sparing_create (files : FileTree) (configPath propertiesPath group : String) :
    (create files configPath propertiesPath group).Sparing := by
  rw [create]
  generalize (Field.group.validate group _ >>= _ : Except Fault Unit) = checked
  cases checked with
  | error fault => rfl
  | ok _ =>
      refine (sparing_seek _ files 0).bind fun found => ?_
      cases found with
      | error fault => exact (sparing_giveUp _ fault).bind Logged.sparing_pure
      | ok candidate => exact (Engine.sparing_read files propertiesPath).bind fun _ => rfl

theorem Making.sparing {files : FileTree} {making : Logged (Except Fault Selector)}
    (attempted : Making files making) : making.Sparing := by
  cases attempted with
  | create configPath propertiesPath group =>
      exact sparing_create files configPath propertiesPath group
  | build options =>
      rw [SelectorOptions.build]
      cases options.group? with
      | none => rfl
      | some group => exact sparing_create files _ _ group

theorem sparing_judge (host : Host) (quarantine : Quarantine) (candidate : Candidate) :
    (judge host quarantine candidate).Sparing := by
  rw [judge]
  cases host.files.modified? candidate.entry.path with
  | none => rfl
  | some time =>
      simp only
      obtain ⟨verdict, checked⟩ := quarantine.check candidate.ordinal time
      cases verdict <;> rfl

theorem sparing_unlock (host : Host) (entry : Entry) : (unlock host entry).Sparing := by
  rw [unlock]
  cases host.credentials entry.credentialRef with
  | error fault => rfl
  | ok value =>
      simp only
      cases Passcode.ofValue? value <;> rfl

theorem sparing_attempt (host : Host) (quarantine : Quarantine) (candidate : Candidate) :
    (attempt host quarantine candidate).Sparing := by
  refine (sparing_judge host quarantine candidate).bind fun (usable, judged) => ?_
  cases usable with
  | false => rfl
  | true => exact (sparing_unlock host candidate.entry).bind fun _ => rfl

theorem sparing_search (selector : Selector) (host : Host) (tries : Nat)
    (first : Except LookupFault Candidate) (quarantine : Quarantine) :
    (selector.search host tries first quarantine).Sparing := by
  induction tries generalizing first quarantine with
  | zero => cases first <;> rfl
  | succ tries ih =>
      cases first with
      | error fault => rfl
      | ok candidate =>
          rw [search_succ]
          refine (sparing_attempt host quarantine candidate).bind fun (passcode?, judged) => ?_
          cases passcode? with
          | some passcode => rfl
          | none =>
              refine (sparing_seek selector host.files _).bind fun following => ?_
              exact ih following judged

theorem sparing_checkOut (selector : Selector) (host : Host) :
    (selector.checkOut host).Sparing := by
  by_cases idle : selector.Idle
  · rw [checkOut_of_idle idle]
    refine (sparing_begin selector host.files).bind fun first => ?_
    refine (sparing_search selector host _ first _).bind fun (result, last) => ?_
    cases result with
    | error fault => exact (sparing_giveUp selector fault).bind fun _ => rfl
    | ok found => rfl
  · rw [idle_iff] at idle
    cases stage : selector.stage with
    | ready candidate? => exact absurd (.inl ⟨candidate?, stage⟩) idle
    | exhausted => exact absurd (.inr stage) idle
    | checkedOut candidate passcode =>
        rw [checkOut, stage]
        rfl
    | destroyed =>
        rw [checkOut, stage]
        rfl

theorem sparing_report (selector : Selector) (files : FileTree) (code : Nat) (endpoint : String) :
    (selector.report files code endpoint).Sparing := by
  rw [report]
  cases selector.stage with
  | ready candidate? => rfl
  | exhausted => rfl
  | destroyed => rfl
  | checkedOut candidate passcode =>
      simp only
      cases Outcome.ofCode code with
      | success =>
          simp only [succeed]
          split
          · rfl
          · refine (sparing_seek _ files 0).bind fun found => ?_
            cases found <;> rfl
      | certificateError =>
          simp only [reject]
          refine Logged.Sparing.after ?_ rfl
          refine (sparing_seek _ files _).bind fun found => ?_
          cases found with
          | ok following => rfl
          | error fault => cases fault <;> rfl
      | other => rfl

theorem sparing_call (selector : Selector) (host : Host) {made : Call} (spared : made ≠ .destroy) :
    (selector.call host made).Sparing := by
  cases made with
  | checkOut => exact (sparing_checkOut selector host).bind fun _ => rfl
  | report code endpoint =>
      exact (sparing_report selector host.files code endpoint).bind fun _ => rfl
  | destroy => exact absurd rfl spared

theorem destructions_destroy (selector : Selector) :
    selector.destroy.destructions =
      if selector.phase = .unknown then [] else [.selectorDestroyed selector.group] := by
  rw [destroy, phase]
  cases selector.stage <;> rfl

/-- One destruction is logged for a selector that is not destroyed yet: by the calls if one of them
destroys it and by the one after them otherwise. -/
theorem destructions_call (selector : Selector) (host : Host) (made : Call) :
    (selector.call host made).destructions ++
        (selector.call host made).value.1.destroy.destructions =
      selector.destroy.destructions := by
  have turn := call_turn selector host made
  by_cases last : made = .destroy
  · subst last
    have gone : selector.destroy.value.phase = .unknown := turn.unknown_iff.mpr (.inl rfl)
    have again : selector.destroy.value.destroy.destructions = [] := by
      rw [destructions_destroy, if_pos gone]
    simp [call, again]
  · have phase : (selector.call host made).value.1.phase = .unknown ↔
        selector.phase = .unknown := by
      rw [turn.unknown_iff, or_iff_right last]
    rw [sparing_call selector host last, List.nil_append, destructions_destroy,
      destructions_destroy, turn.identity.2]
    simp only [phase]

theorem destructions_run (selector : Selector) (steps : List (Host × Call)) :
    (selector.run steps).destructions ++ (selector.run steps).value.1.destroy.destructions =
      selector.destroy.destructions := by
  induction steps generalizing selector with
  | nil => rfl
  | cons step rest ih =>
      obtain ⟨host, made⟩ := step
      rw [← destructions_call selector host made, ← ih (selector.call host made).value.1]
      simp [run]

end Selector

structure Registers.Released (registers : Registers) : Prop where
  live : registers.live = false
  phase : registers.phase = .unknown
  index : registers.index = 0
  candidate? : registers.candidate? = none
  quarantine : registers.quarantine = .empty
  secret : registers.secret = .empty
  engine? : registers.engine? = none

def Selector.Call.tooLate : Call → Reply
  | checkOut => .failed .released
  | report .. => .decided .retryError
  | destroy => .destroyed

namespace Registers

theorem call_released {registers : Registers} (released : registers.Released) (fallback : Fallback)
    (host : Host) (made : Selector.Call) :
    (registers.call fallback host made).value = (registers, made.tooLate) := by
  obtain ⟨live, phase, configPath, group, index, candidate?, quarantine, secret, engine?⟩ :=
    registers
  obtain ⟨rfl, rfl, rfl, rfl, rfl, rfl, rfl⟩ := released
  cases made <;> rfl

theorem run_released {registers : Registers} (released : registers.Released) (fallback : Fallback)
    (steps : List (Host × Selector.Call)) :
    (registers.run fallback steps).value =
      (registers, steps.map fun step => step.2.tooLate) := by
  induction steps with
  | nil => rfl
  | cons step rest ih =>
      obtain ⟨host, made⟩ := step
      simp [run, call_released released, ih]

/-- The whole life of a selector: it is made, called and in the end dropped, which destroys it
whatever has been called before. -/
def lifetime (fallback : Fallback) (making : Logged (Except Fault Selector))
    (steps : List (Host × Selector.Call)) : Logged Unit := do
  match ← making with
  | .error _ => pure ()
  | .ok selector => do
    let (last, _) ← selector.registers.run fallback steps
    let _ ← last.destroy
    pure ()

end Registers

namespace Selector

theorem Vacated.released {selector : Selector} (vacated : selector.Vacated)
    (gone : selector.phase = .unknown) : selector.registers.Released := by
  have stage := unknown_iff.mp gone
  obtain ⟨engine, quarantine⟩ := vacated stage
  refine ⟨?_, gone, ?_, ?_, quarantine, ?_, engine⟩
  · simp [registers, gone]
  · simp [registers, ordinal, candidate?, stage, Stage.candidate?]
  · simp [registers, candidate?, stage, Stage.candidate?]
  · simp [registers, passcode, stage, Stage.passcode]

theorem Made.released {files : FileTree} {selector : Selector} (made : Made files selector)
    (fallback : Registers.Fallback) (before : List (Host × Call)) (host : Host) :
    ((selector.registers.run fallback before).value.1.call fallback host
      .destroy).value.1.Released := by
  have turn := call_turn (selector.run before).value.1 host .destroy
  rw [made.registers_call]
  exact ((made.vacated_run before).turn turn).released (turn.unknown_iff.mpr (.inl rfl))

theorem Making.destructions_lifetime {files : FileTree} {making : Logged (Except Fault Selector)}
    (attempted : Making files making) {selector : Selector}
    (succeeded : making.value = .ok selector) (fallback : Registers.Fallback)
    (steps : List (Host × Call)) :
    (Registers.lifetime fallback making steps).destructions =
      [.selectorDestroyed selector.group] := by
  have made := attempted.made succeeded
  have fresh : selector.phase ≠ .unknown := by
    rcases made.idle with phase | phase <;> simp [phase]
  have once := destructions_run selector steps
  rw [destructions_destroy selector, if_neg fresh] at once
  rw [Registers.lifetime, Logged.destructions_bind, attempted.sparing, succeeded, List.nil_append]
  simpa [registers_run made.sound, onRegisters, registers_destroy] using once

end Selector

structure Locator.Registers.Released (registers : Locator.Registers) : Prop where
  live : registers.live = false
  secret : registers.secret = .empty
  current? : registers.current? = none
  engine? : registers.engine? = none

def Locator.Call.tooLate : Call → Reply
  | locate _ => .failed .released
  | destroy => .destroyed

namespace Locator

theorem Registers.call_released {registers : Registers} (released : registers.Released)
    (host : Host) (made : Call) :
    (registers.call host made).value = (registers, made.tooLate) := by
  obtain ⟨live, configPath, engine?, secret, current?⟩ := registers
  obtain ⟨rfl, rfl, rfl, rfl⟩ := released
  cases made <;> rfl

theorem Registers.run_released {registers : Registers} (released : registers.Released)
    (steps : List (Host × Call)) :
    (registers.run steps).value = (registers, steps.map fun step => step.2.tooLate) := by
  induction steps with
  | nil => rfl
  | cons step rest ih =>
      obtain ⟨host, made⟩ := step
      simp [run, call_released released, ih]

theorem Sound.run {locator : Locator} (sound : locator.Sound) (steps : List (Host × Call)) :
    (locator.run steps).value.1.Sound := by
  induction steps generalizing locator with
  | nil => exact sound
  | cons step rest ih =>
      obtain ⟨host, made⟩ := step
      exact ih (sound.call host made)

theorem Sound.released {locator : Locator} (sound : locator.Sound) (before : List (Host × Call))
    (host : Host) :
    ((locator.registers.run before).value.1.call host .destroy).value.1.Released := by
  rw [registers_run sound, Logged.value_map, onRegisters,
    registers_call (sound.run before), Logged.value_map]
  exact ⟨rfl, rfl, rfl, rfl⟩

end Locator

/-- A handle that is destroyed, whatever it has been used for, holds nothing and never does again:
each later call is refused and leaves the registers as they are. A selector logs the end of its life
once, however often it is destroyed. -/
theorem destroy_final :
    (∀ {files making selector}, Selector.Making files making → making.value = .ok selector →
      ∀ fallback steps,
        let start := selector.registers
        start.run fallback steps = Selector.onRegisters <$> selector.run steps ∧
          (Registers.lifetime fallback making steps).destructions =
            [.selectorDestroyed selector.group] ∧
          ∀ host after,
            let last := ((start.run fallback steps).value.1.call fallback host .destroy).value.1
            last.Released ∧ (∀ ordinal, last.quarantine.isQuarantined ordinal = false) ∧
              (last.run fallback after).value =
                (last, after.map fun step => step.2.tooLate)) ∧
      ∀ {files configPath propertiesPath locator},
        (Locator.create files configPath propertiesPath).value = .ok locator →
          ∀ steps,
            let start := locator.registers
            start.run steps = Locator.onRegisters <$> locator.run steps ∧
              ∀ host after,
                let last := ((start.run steps).value.1.call host .destroy).value.1
                last.Released ∧
                  (last.run after).value = (last, after.map fun step => step.2.tooLate) := by
  constructor
  · intro files making selector attempted succeeded fallback steps start
    have made := attempted.made succeeded
    refine ⟨Selector.registers_run made.sound fallback steps,
      attempted.destructions_lifetime succeeded fallback steps, fun host after => ?_⟩
    intro last
    have released : last.Released := made.released fallback steps host
    refine ⟨released, fun ordinal => ?_, Registers.run_released released fallback after⟩
    rw [released.quarantine, Quarantine.isQuarantined, Quarantine.slot?_empty]
    rfl
  · intro files configPath propertiesPath locator created steps start
    have sound := Locator.sound_of_live (Locator.create_eq_ok created).1
    refine ⟨Locator.registers_run sound steps, fun host after => ?_⟩
    intro last
    have released : last.Released := sound.released steps host
    exact ⟨released, Locator.Registers.run_released released after⟩

theorem destroy_final_sample :
    let host := Selector.sampleHost
    let making := Selector.create Selector.sampleFiles "c.cfg" "hrot.properties" "G"
    let selector := (Selector.sample.registers.run .standard [(host, .checkOut)]).value.1
    let released := (selector.call .standard host .destroy).value.1
    let locator : Locator := ⟨"c.cfg", none, true, none⟩
    let located := (locator.registers.run [(host, .locate "L")]).value.1
    let gone := (located.call host .destroy).value.1
    selector.secret.bytes = Bytes.ofText "pc" ∧ released.secret = .empty ∧
      (released.run .standard [(host, .report 0 "host"), (host, .checkOut)]).value =
        (released, [.decided .retryError, .failed .released]) ∧
      (Registers.lifetime .standard making
        [(host, .checkOut), (host, .destroy), (host, .destroy)]).destructions =
          [.selectorDestroyed "G"] ∧
      located.secret.bytes = Bytes.ofText "pc" ∧ gone.secret = .empty ∧
      (gone.run [(host, .locate "L")]).value = (gone, [.failed .released]) := by
  intro host making selector released locator located gone
  have held : located.secret.bytes = Bytes.ofText "pc" := by decide +kernel +revert
  have attempted : Selector.Making Selector.sampleFiles making := .create _ _ _
  have made : making.value = .ok Selector.sample := by rfl
  have created : (Locator.create Selector.sampleFiles "c.cfg" "hrot.properties").value =
      .ok locator := by rfl
  obtain ⟨ofSelectors, ofLocators⟩ := destroy_final
  obtain ⟨_, _, final⟩ := ofSelectors attempted made .standard [(host, .checkOut)]
  obtain ⟨empty, _, refused⟩ := final host [(host, .report 0 "host"), (host, .checkOut)]
  obtain ⟨_, once, _⟩ := ofSelectors attempted made .standard
    [(host, .checkOut), (host, .destroy), (host, .destroy)]
  obtain ⟨_, last⟩ := ofLocators created [(host, .locate "L")]
  obtain ⟨vacant, denied⟩ := last host [(host, .locate "L")]
  exact ⟨by rfl, empty.secret, refused, once, held, vacant.secret, denied⟩

end CertFailover
