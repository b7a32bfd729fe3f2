import CertFailover.Files.Edit
import CertFailover.Proofs.Search
import CertFailover.Selector.Options
import CertFailover.Selector.Run
import Mathlib.Data.List.Induction

/-!
The turns that a run of a selector takes. A turn is one call with its reply, and the cases of `Turn`
are all that a call can do; whatever the turns keep, a whole run keeps.
-/

namespace CertFailover.Selector

inductive Made (files : FileTree) : Selector → Prop
  | create {configPath propertiesPath group selector} :
      (create files configPath propertiesPath group).value = .ok selector → Made files selector
  | build {options : SelectorOptions} {selector} :
      (options.build files).value = .ok selector → Made files selector

def Idle (selector : Selector) : Prop :=
  selector.phase = .readyToGive ∨ selector.phase = .noCertificate

theorem create_eq_ok {files : FileTree} {configPath propertiesPath group : String}
    {selector : Selector}
    (created : (create files configPath propertiesPath group).value = .ok selector) :
    selector.configPath = configPath ∧ selector.group = group ∧
      selector.quarantine = .empty ∧
      ∃ entry, selector.stage = .ready (some ⟨0, entry⟩) ∧
        Lookup.inGroup files configPath group 0 = .ok entry := by
  simp only [create] at created
  split at created
  · cases created
  · simp only [Logged.value_bind, value_seek] at created
    split at created
    · cases created
    · rename_i candidate found
      have located := entryAt_eq_ok_iff.mp found
      obtain ⟨ordinal, entry⟩ := candidate
      obtain ⟨rfl, found⟩ := located
      cases created
      exact ⟨rfl, rfl, rfl, entry, rfl, found⟩

theorem Made.first {files : FileTree} {selector : Selector} (made : Made files selector) :
    selector.quarantine = .empty ∧
      ∃ entry, selector.stage = .ready (some ⟨0, entry⟩) ∧
        Lookup.inGroup files selector.configPath selector.group 0 = .ok entry := by
  have ofCreate {configPath propertiesPath group : String}
      (created : (Selector.create files configPath propertiesPath group).value = .ok selector) :
      selector.quarantine = .empty ∧
        ∃ entry, selector.stage = .ready (some ⟨0, entry⟩) ∧
          Lookup.inGroup files selector.configPath selector.group 0 = .ok entry := by
    obtain ⟨rfl, rfl, rest⟩ := create_eq_ok created
    exact rest
  cases made with
  | create created => exact ofCreate created
  | build built =>
      simp only [SelectorOptions.build] at built
      split at built
      · cases built
      · exact ofCreate built

inductive Turn (selector : Selector) (host : Host) : Call → Selector → Reply → Prop
  | granted {candidate passcode last} (idle : selector.Idle)
      (searched : Searched selector host (selector.begin host.files).value selector.quarantine
        (.ok (candidate, passcode)) last) :
      Turn selector host .checkOut
        { selector with quarantine := last, stage := .checkedOut candidate passcode }
        (.granted ⟨candidate.entry.uri, passcode⟩)
  | failed {fault last} (idle : selector.Idle)
      (searched : Searched selector host (selector.begin host.files).value selector.quarantine
        (.error fault) last) :
      Turn selector host .checkOut { selector with quarantine := last, stage := .ready none }
        (.failed (selector.refusal fault))
  | checkOutHeld (held : selector.phase = .readyToCheck) :
      Turn selector host .checkOut selector (.failed (.outOfTurn .readyToCheck))
  | checkOutReleased (released : selector.stage = .destroyed) :
      Turn selector host .checkOut selector (.failed .released)
  | reportIdle {code endpoint} (idle : selector.phase ≠ .readyToCheck) :
      Turn selector host (.report code endpoint) selector (.decided .retryError)
  | cleared {candidate passcode code endpoint}
      (held : selector.stage = .checkedOut candidate passcode)
      (outcome : Outcome.ofCode code = .success) (first : candidate.ordinal = 0) :
      Turn selector host (.report code endpoint)
        { selector with
          quarantine := selector.quarantine.clear candidate.ordinal
          stage := .ready (some candidate) }
        (.decided .noRetry)
  | restored {candidate passcode code endpoint first}
      (held : selector.stage = .checkedOut candidate passcode)
      (outcome : Outcome.ofCode code = .success) (later : candidate.ordinal ≠ 0)
      (found : selector.entryAt host.files 0 = .ok first) :
      Turn selector host (.report code endpoint)
        { selector with
          quarantine := selector.quarantine.clear candidate.ordinal
          stage := .ready (some first) }
        (.decided .noRetry)
  | lost {candidate passcode code endpoint fault}
      (held : selector.stage = .checkedOut candidate passcode)
      (outcome : Outcome.ofCode code = .success) (later : candidate.ordinal ≠ 0)
      (missed : selector.entryAt host.files 0 = .error fault) :
      Turn selector host (.report code endpoint)
        { selector with
          quarantine := selector.quarantine.clear candidate.ordinal
          stage := .exhausted }
        (.decided .retryError)
  | advanced {candidate passcode code endpoint following}
      (held : selector.stage = .checkedOut candidate passcode)
      (outcome : Outcome.ofCode code = .certificateError)
      (found : selector.entryAt host.files (candidate.ordinal + 1) = .ok following) :
      Turn selector host (.report code endpoint)
        { selector with
          quarantine := selector.quarantine.mark candidate.ordinal
            (host.files.modified? candidate.entry.path)
          stage := .ready (some following) }
        (.decided .tryAnother)
  | ended {candidate passcode code endpoint fault}
      (held : selector.stage = .checkedOut candidate passcode)
      (outcome : Outcome.ofCode code = .certificateError)
      (missed : selector.entryAt host.files (candidate.ordinal + 1) = .error fault) :
      Turn selector host (.report code endpoint)
        { selector with
          quarantine := selector.quarantine.mark candidate.ordinal
            (host.files.modified? candidate.entry.path)
          stage := .exhausted }
        (.decided .noRetry)
  | kept {candidate passcode code endpoint}
      (held : selector.stage = .checkedOut candidate passcode)
      (outcome : Outcome.ofCode code = .other) :
      Turn selector host (.report code endpoint)
        { selector with stage := .ready (some candidate) } (.decided .noRetry)
  | destroyed (live : selector.stage ≠ .destroyed) :
      Turn selector host .destroy
        { selector with engine? := none, quarantine := .empty, stage := .destroyed } .destroyed
  | destroyedAgain (released : selector.stage = .destroyed) :
      Turn selector host .destroy selector .destroyed

theorem idle_iff {selector : Selector} :
    selector.Idle ↔
      (∃ candidate?, selector.stage = .ready candidate?) ∨ selector.stage = .exhausted := by
  simp only [Idle, phase]
  cases selector.stage <;> simp [Stage.phase]

theorem readyToCheck_iff {selector : Selector} :
    selector.phase = .readyToCheck ↔
      ∃ candidate passcode, selector.stage = .checkedOut candidate passcode := by
  simp only [phase]
  cases selector.stage <;> simp [Stage.phase]

theorem Idle.ne {selector : Selector} (idle : selector.Idle) : selector.phase ≠ .readyToCheck := by
  rcases idle with phase | phase <;> simp [phase]

theorem Made.idle {files : FileTree} {selector : Selector} (made : Made files selector) :
    selector.Idle := by
  obtain ⟨_, entry, stage, _⟩ := made.first
  exact idle_iff.mpr (.inl ⟨_, stage⟩)

theorem checkOut_of_idle {selector : Selector} (idle : selector.Idle) (host : Host) :
    selector.checkOut host = (do
      let first ← selector.begin host.files
      match ← selector.search host Limit.ordinals first selector.quarantine with
      | (.error fault, last) =>
        let cause ← selector.giveUp fault
        pure ({ selector with quarantine := last, stage := .ready none }, .error cause)
      | (.ok (candidate, passcode), last) =>
        Logged.log (.checkedOut candidate.entry.uri candidate.ordinal selector.group)
        pure ({ selector with quarantine := last, stage := .checkedOut candidate passcode },
          .ok ⟨candidate.entry.uri, passcode⟩)) := by
  obtain ⟨configPath, group, engine?, quarantine, stage⟩ := selector
  rcases idle_iff.mp idle with ⟨candidate?, ready⟩ | exhausted
  · subst ready
    rfl
  · subst exhausted
    rfl

theorem value_checkOut_of_idle {selector : Selector} (idle : selector.Idle) (host : Host) :
    (selector.checkOut host).value =
      match (selector.search host Limit.ordinals (selector.begin host.files).value
        selector.quarantine).value with
      | (.error fault, last) =>
        ({ selector with quarantine := last, stage := .ready none },
          .error (selector.refusal fault))
      | (.ok (candidate, passcode), last) =>
        ({ selector with quarantine := last, stage := .checkedOut candidate passcode },
          .ok ⟨candidate.entry.uri, passcode⟩) := by
  rw [checkOut_of_idle idle, Logged.value_bind, Logged.value_bind]
  generalize (selector.search host Limit.ordinals (selector.begin host.files).value
    selector.quarantine).value = outcome
  obtain ⟨result, last⟩ := outcome
  cases result with
  | error fault => simp
  | ok found => rfl

theorem Idle.checkOut {selector : Selector} (idle : selector.Idle) (host : Host) :
    ∃ result last,
      Searched selector host (selector.begin host.files).value selector.quarantine result last ∧
        (selector.checkOut host).value =
          match result with
          | .error fault =>
            ({ selector with quarantine := last, stage := .ready none },
              .error (selector.refusal fault))
          | .ok (candidate, passcode) =>
            ({ selector with quarantine := last, stage := .checkedOut candidate passcode },
              .ok ⟨candidate.entry.uri, passcode⟩) := by
  have searched := search_searched selector host Limit.ordinals
    (selector.begin host.files).value selector.quarantine
    (fun candidate _ => ⟨by decide, Nat.le_add_left _ _⟩)
  refine ⟨_, _, searched, ?_⟩
  rw [value_checkOut_of_idle idle]
  generalize (selector.search host Limit.ordinals (selector.begin host.files).value
    selector.quarantine).value = outcome
  obtain ⟨result, last⟩ := outcome
  cases result <;> rfl

theorem checkOut_turn (selector : Selector) (host : Host) :
    Turn selector host .checkOut (selector.checkOut host).value.1
      (.ofGrant (selector.checkOut host).value.2) := by
  have ofSearch (idle : selector.Idle) :
      Turn selector host .checkOut (selector.checkOut host).value.1
        (.ofGrant (selector.checkOut host).value.2) := by
    obtain ⟨result, last, searched, value⟩ := idle.checkOut host
    rw [value]
    cases result with
    | error fault => exact .failed idle searched
    | ok found => exact .granted idle searched
  cases stage : selector.stage with
  | ready candidate? => exact ofSearch (idle_iff.mpr (.inl ⟨candidate?, stage⟩))
  | exhausted => exact ofSearch (idle_iff.mpr (.inr stage))
  | checkedOut candidate passcode =>
      have held := readyToCheck_iff.mpr ⟨candidate, passcode, stage⟩
      simpa [checkOut, stage, held, Reply.ofGrant] using Turn.checkOutHeld held
  | destroyed => simpa [checkOut, stage, Reply.ofGrant] using Turn.checkOutReleased stage

theorem report_turn (selector : Selector) (host : Host) (code : Nat) (endpoint : String) :
    Turn selector host (.report code endpoint) (selector.report host.files code endpoint).value.1
      (.decided (selector.report host.files code endpoint).value.2) := by
  cases stage : selector.stage with
  | ready candidate? =>
      simpa [report, stage] using Turn.reportIdle (by simp [phase, stage, Stage.phase])
  | exhausted =>
      simpa [report, stage] using Turn.reportIdle (by simp [phase, stage, Stage.phase])
  | destroyed =>
      simpa [report, stage] using Turn.reportIdle (by simp [phase, stage, Stage.phase])
  | checkedOut candidate passcode =>
      simp only [report, stage]
      cases outcome : Outcome.ofCode code with
      | success =>
          simp only [succeed]
          by_cases first : candidate.ordinal = 0
          · rw [if_pos first]
            exact .cleared stage outcome first
          · rw [if_neg first, Logged.value_bind, value_seek]
            cases sought : entryAt _ host.files 0 with
            | ok restored => exact .restored stage outcome first sought
            | error fault => exact .lost stage outcome first sought
      | certificateError =>
          simp only [reject, Logged.value_bind, value_seek]
          cases sought : entryAt _ host.files (candidate.ordinal + 1) with
          | ok following => exact .advanced stage outcome sought
          | error fault => cases fault <;> exact .ended stage outcome sought
      | other => exact .kept stage outcome

theorem destroy_turn (selector : Selector) (host : Host) :
    Turn selector host .destroy selector.destroy.value .destroyed := by
  cases stage : selector.stage with
  | destroyed => simpa [destroy, stage] using Turn.destroyedAgain stage
  | ready candidate? => simpa [destroy, stage] using Turn.destroyed (by simp [stage])
  | checkedOut candidate passcode =>
      simpa [destroy, stage] using Turn.destroyed (by simp [stage])
  | exhausted => simpa [destroy, stage] using Turn.destroyed (by simp [stage])

theorem call_turn (selector : Selector) (host : Host) (made : Call) :
    Turn selector host made (selector.call host made).value.1
      (selector.call host made).value.2 := by
  cases made with
  | checkOut => exact checkOut_turn selector host
  | report code endpoint => exact report_turn selector host code endpoint
  | destroy => exact destroy_turn selector host

theorem Turn.rejected {selector next : Selector} {host : Host} {code : Nat} {endpoint : String}
    {reply : Reply} {candidate : Candidate} {passcode : Passcode}
    (turn : Turn selector host (.report code endpoint) next reply)
    (held : selector.stage = .checkedOut candidate passcode)
    (outcome : Outcome.ofCode code = .certificateError) :
    next.Idle ∧
      next.quarantine = selector.quarantine.mark candidate.ordinal
        (host.files.modified? candidate.entry.path) ∧
      ∀ following, next.candidate? = some following →
        following.ordinal = candidate.ordinal + 1 := by
  have notSuccess : Outcome.ofCode code ≠ .success := by simp [outcome]
  have notOther : Outcome.ofCode code ≠ .other := by simp [outcome]
  cases turn with
  | reportIdle idle => exact absurd (readyToCheck_iff.mpr ⟨candidate, passcode, held⟩) idle
  | cleared before success first => exact absurd success notSuccess
  | restored before success later found => exact absurd success notSuccess
  | lost before success later missed => exact absurd success notSuccess
  | advanced before _ found =>
      rw [held] at before
      cases before
      refine ⟨.inl rfl, rfl, ?_⟩
      rintro following ⟨⟩
      exact (entryAt_eq_ok_iff.mp found).1
  | ended before _ missed =>
      rw [held] at before
      cases before
      refine ⟨.inr rfl, rfl, ?_⟩
      rintro following ⟨⟩
  | kept before other => exact absurd other notOther

@[simp] theorem value_run_nil (selector : Selector) : (selector.run []).value = (selector, []) :=
  rfl

@[simp] theorem value_run_cons (selector : Selector) (host : Host) (made : Call)
    (rest : List (Host × Call)) :
    (selector.run ((host, made) :: rest)).value =
      (((selector.call host made).value.1.run rest).value.1,
        (selector.call host made).value.2 ::
          ((selector.call host made).value.1.run rest).value.2) :=
  rfl

theorem value_run_append (selector : Selector) (before after : List (Host × Call)) :
    (selector.run (before ++ after)).value =
      (((selector.run before).value.1.run after).value.1,
        (selector.run before).value.2 ++ ((selector.run before).value.1.run after).value.2) := by
  induction before generalizing selector with
  | nil => simp
  | cons step rest ih =>
      obtain ⟨host, made⟩ := step
      simp [ih]

theorem value_run_concat (selector : Selector) (past : List (Host × Call)) (host : Host)
    (made : Call) :
    (selector.run (past ++ [(host, made)])).value.1 =
      ((selector.run past).value.1.call host made).value.1 := by
  rw [value_run_append]
  rfl

/-- What holds at the start and is kept by each turn holds after every run. -/
theorem run_induction {motive : List (Host × Call) → Selector → Prop} {selector : Selector}
    (start : motive [] selector)
    (turn : ∀ past current host made next reply, motive past current →
      Turn current host made next reply → motive (past ++ [(host, made)]) next)
    (steps : List (Host × Call)) : motive steps (selector.run steps).value.1 := by
  induction steps using List.reverseRecOn with
  | nil => exact start
  | append_singleton past step ih =>
      obtain ⟨host, made⟩ := step
      rw [value_run_concat]
      exact turn past _ host made _ _ ih (call_turn _ host made)

/-- What holds after a run but not at its start came about at one of its steps and has held ever
since. -/
theorem run_since {holds : Selector → Prop} {selector : Selector} (start : ¬holds selector)
    {steps : List (Host × Call)} (last : holds (selector.run steps).value.1) :
    ∃ before host made after, steps = before ++ (host, made) :: after ∧
      ¬holds (selector.run before).value.1 ∧
      ∀ middle, middle <+: after →
        holds (selector.run (before ++ (host, made) :: middle)).value.1 := by
  induction steps using List.reverseRecOn with
  | nil => exact absurd last start
  | append_singleton past step ih =>
      obtain ⟨host, made⟩ := step
      by_cases already : holds (selector.run past).value.1
      · obtain ⟨before, origin, call, after, rfl, not, since⟩ := ih already
        refine ⟨before, origin, call, after ++ [(host, made)], by simp, not, ?_⟩
        intro middle initial
        rcases List.prefix_concat_iff.mp initial with whole | shorter
        · rw [whole]
          simpa using last
        · exact since middle shorter
      · refine ⟨past, host, made, [], rfl, already, ?_⟩
        intro middle initial
        rw [List.prefix_nil.mp initial]
        exact last

def sampleFiles : FileTree :=
  let conf := Bytes.ofText "G,L,P12,a.p12,pc\nG,M,P12,b.p12,pd\n"
  ((FileTree.empty.write "c.cfg" conf .epoch).write "a.p12" [] .epoch).write "b.p12" [] .epoch

def sampleHost : Host :=
  ⟨sampleFiles, fun reference => .ok (Bytes.ofText reference)⟩

def sample : Selector :=
  ⟨"c.cfg", "G", none, .empty, .ready (some ⟨0, ⟨"L", "a.p12", "pc"⟩⟩)⟩

theorem sample_made : Made sampleFiles sample := by
  have created : (create sampleFiles "c.cfg" "hrot.properties" "G").value = .ok sample := by rfl
  exact .create created

end CertFailover.Selector
