import CertFailover.Proofs.Soundness

/-!
The retry loop of a caller: check out, report, and again as long as the decision is to try another.
Only the report that moves on to the next ordinal gives that decision, so that the ordinals handed
out ascend and the loop ends, whatever changes around the selector from one call to the next.
-/

namespace CertFailover.Selector

structure Round where
  host : Host
  files : FileTree
  code : Nat
  endpoint : String

/-- What the loop has done: each ordinal handed out with the decision on it, and the fault or the
decision that it ended with, if it did not run out of rounds. -/
structure Retried where
  trials : List (Nat × Decision)
  ending? : Option (Except Fault Decision)

def retry (selector : Selector) : List Round → Logged Retried
  | [] => pure ⟨[], none⟩
  | round :: rest => do
    match ← selector.checkOut round.host with
    | (_, .error fault) => pure ⟨[], some (.error fault)⟩
    | (held, .ok _) =>
      match ← held.report round.files round.code round.endpoint with
      | (next, .tryAnother) => do
        let later ← next.retry rest
        pure ⟨(held.ordinal, .tryAnother) :: later.trials, later.ending?⟩
      | (_, decision) => pure ⟨[(held.ordinal, decision)], some (.ok decision)⟩

theorem Turn.le_of_granted {selector next : Selector} {host : Host} {grant : Grant}
    (turn : Turn selector host .checkOut next (.granted grant)) :
    selector.ordinal ≤ next.ordinal := by
  cases turn with
  | @granted candidate passcode last idle searched =>
      obtain ⟨stop, reached⟩ := searched.reached selector.ordinal
        (fun _ first => begin_ordinal first)
      obtain ⟨found, _⟩ := reached.found candidate passcode rfl
      have here : candidate.ordinal = stop := met_ordinal (fun _ first => begin_ordinal first) found
      have upward := reached.upward
      change selector.ordinal ≤ candidate.ordinal
      omega

theorem Turn.tryAnother {selector next : Selector} {host : Host} {code : Nat} {endpoint : String}
    (turn : Turn selector host (.report code endpoint) next (.decided .tryAnother)) :
    next.Idle ∧ next.ordinal = selector.ordinal + 1 := by
  cases turn with
  | advanced held outcome found =>
      refine ⟨.inl rfl, ?_⟩
      rw [ordinal_of_candidate? (candidate?_of_checkedOut held)]
      exact (entryAt_eq_ok_iff.mp found).1

theorem Sound.checkOut_granted {selector : Selector} (sound : selector.Sound) {host : Host}
    {grant : Grant} (granted : (selector.checkOut host).value.2 = .ok grant) :
    (selector.checkOut host).value.1.Sound ∧
      selector.ordinal ≤ (selector.checkOut host).value.1.ordinal := by
  have turn := checkOut_turn selector host
  rw [granted] at turn
  exact ⟨sound.turn turn, turn.le_of_granted⟩

theorem Sound.retry_cons {selector : Selector} (sound : selector.Sound) (round : Round)
    (rest : List Round) :
    (∃ fault, (selector.retry (round :: rest)).value = ⟨[], some (.error fault)⟩) ∨
      ∃ ordinal decision, selector.ordinal ≤ ordinal ∧ ordinal < Limit.ordinals ∧
        (decision ≠ .tryAnother ∧
            (selector.retry (round :: rest)).value =
              ⟨[(ordinal, decision)], some (.ok decision)⟩ ∨
          decision = .tryAnother ∧
            ∃ next : Selector, next.Sound ∧ next.ordinal = ordinal + 1 ∧
              (selector.retry (round :: rest)).value =
                ⟨(ordinal, decision) :: (next.retry rest).value.trials,
                  (next.retry rest).value.ending?⟩) := by
  rw [retry, Logged.value_bind]
  cases checkOut : (selector.checkOut round.host).value with
  | mk held result =>
      cases result with
      | error fault => exact .inl ⟨fault, rfl⟩
      | ok grant =>
          obtain ⟨soundHeld, lower⟩ := sound.checkOut_granted (congrArg Prod.snd checkOut)
          rw [checkOut] at soundHeld lower
          right
          simp only [Logged.value_bind]
          have report := report_turn held ⟨round.files, round.host.credentials⟩ round.code
            round.endpoint
          cases settled : (held.report round.files round.code round.endpoint).value with
          | mk next decision =>
              rw [settled] at report
              refine ⟨held.ordinal, decision, lower, soundHeld.ordinal_lt, ?_⟩
              cases decision with
              | tryAnother =>
                  exact .inr ⟨rfl, next, soundHeld.turn report, report.tryAnother.2, rfl⟩
              | noRetry => exact .inl ⟨by simp, rfl⟩
              | retryError => exact .inl ⟨by simp, rfl⟩

/-- The measure of the loop is the number of ordinals that are left. -/
structure Retried.Within (retried : Retried) (first rounds : Nat) : Prop where
  ascending : retried.trials.Pairwise fun earlier later => earlier.1 < later.1
  range : ∀ trial ∈ retried.trials, first ≤ trial.1 ∧ trial.1 < Limit.ordinals
  moves : first + retried.trials.countP (·.2 = .tryAnother) < Limit.ordinals
  checkOuts : first + retried.trials.length ≤ Limit.ordinals
  ended : retried.ending? ≠ some (.ok .tryAnother)
  running : retried.ending? = none → first + rounds < Limit.ordinals

theorem Retried.Within.cons {retried : Retried} {first ordinal rounds : Nat}
    (later : retried.Within (ordinal + 1) rounds) (lower : first ≤ ordinal)
    (upper : ordinal < Limit.ordinals) :
    Retried.Within ⟨(ordinal, .tryAnother) :: retried.trials, retried.ending?⟩ first
      (rounds + 1) where
  ascending := .cons (fun trial member => (later.range trial member).1) later.ascending
  range := by
    intro trial member
    rcases List.mem_cons.mp member with same | following
    · rw [same]
      exact ⟨lower, upper⟩
    · have bounds := later.range trial following
      exact ⟨by omega, bounds.2⟩
  moves := by
    have bound := later.moves
    simp only [List.countP_cons, decide_true, if_true]
    omega
  checkOuts := by
    have bound := later.checkOuts
    simp only [List.length_cons]
    omega
  ended := later.ended
  running := by
    intro unfinished
    have bound := later.running unfinished
    omega

theorem Sound.retry_within {selector : Selector} (sound : selector.Sound) (rounds : List Round) :
    (selector.retry rounds).value.Within selector.ordinal rounds.length := by
  have start := sound.ordinal_lt
  induction rounds generalizing selector with
  | nil => exact ⟨.nil, by simp [retry], start, Nat.le_of_lt start, by simp [retry], fun _ => start⟩
  | cons round rest ih =>
      rcases sound.retry_cons round rest with ⟨fault, value⟩ |
        ⟨ordinal, decision, lower, upper, ⟨other, value⟩ | ⟨rfl, next, soundNext, number, value⟩⟩
      · rw [value]
        exact ⟨.nil, by simp, start, Nat.le_of_lt start, by simp, by simp⟩
      · rw [value]
        refine ⟨List.pairwise_singleton _ _, ?_, ?_, ?_, ?_, by simp⟩
        · simpa using ⟨lower, upper⟩
        · simpa [other] using start
        · exact start
        · simpa using other
      · rw [value]
        have later := ih soundNext soundNext.ordinal_lt
        rw [number] at later
        exact later.cons lower upper

/-- From whatever state the loop begins in, it hands out ascending ordinals from the current one
upwards, and with as many rounds as there are ordinals left it ends by itself. -/
theorem run_retry {files : FileTree} {selector : Selector} (made : Made files selector)
    (steps : List (Host × Call)) (rounds : List Round) :
    let last := (selector.run steps).value.1
    let retried := (last.retry rounds).value
    retried.trials.Pairwise (fun earlier later => earlier.1 < later.1) ∧
      (∀ trial ∈ retried.trials, last.ordinal ≤ trial.1 ∧ trial.1 ≤ Limit.ordinals - 1) ∧
      retried.trials.countP (·.2 = .tryAnother) ≤ Limit.ordinals - 1 - last.ordinal ∧
      retried.trials.length ≤ Limit.ordinals - last.ordinal ∧
      (Limit.ordinals - last.ordinal ≤ rounds.length →
        ∃ ending, retried.ending? = some ending ∧ ending ≠ .ok .tryAnother) := by
  intro last retried
  have within : retried.Within last.ordinal rounds.length :=
    (made.sound_run steps).retry_within rounds
  have moves := within.moves
  have checkOuts := within.checkOuts
  refine ⟨within.ascending, ?_, by omega, by omega, ?_⟩
  · intro trial member
    have bounds := within.range trial member
    exact ⟨bounds.1, by omega⟩
  · intro enough
    cases ending : retried.ending? with
    | none =>
        have bound := within.running ending
        omega
    | some reached =>
        refine ⟨reached, rfl, ?_⟩
        intro another
        exact within.ended (by rw [ending, another])

theorem run_retry_sample :
    let rounds := List.replicate 6 ⟨sampleHost, sampleFiles, 58, "host"⟩
    let retried := (sample.retry rounds).value
    Made sampleFiles sample ∧ retried.trials = [(0, .tryAnother), (1, .noRetry)] ∧
      ∃ ending, retried.ending? = some ending ∧ ending ≠ .ok .tryAnother :=
  ⟨sample_made, by rfl, (run_retry sample_made [] _).2.2.2.2 (by decide)⟩

end CertFailover.Selector
