import CertFailover.Proofs.Soundness

/-!
The visits of a check-out, the candidates that its search tries. Their ordinals ascend without a gap
up to the one handed out, and the attempts on them are all that a check-out does to the quarantine:
it empties the slots of those visits that are not barred, and no other.
-/

namespace CertFailover.Selector

def visits (selector : Selector) (host : Host) :
    Nat → Except LookupFault Candidate → Quarantine → List Candidate
  | _, .error _, _ => []
  | 0, .ok _, _ => []
  | tries + 1, .ok candidate, quarantine =>
    let tried := (attempt host quarantine candidate).value
    let following := selector.entryAt host.files (candidate.ordinal + 1)
    candidate :: if tried.1.isSome then [] else selector.visits host tries following tried.2

/-- The candidates that a check-out tries; out of turn there are none. -/
def visited (selector : Selector) (host : Host) : List Candidate :=
  match selector.stage with
  | .ready _ | .exhausted =>
    selector.visits host Limit.ordinals (selector.begin host.files).value selector.quarantine
  | .checkedOut .. | .destroyed => []

theorem visits_taken {host : Host} {quarantine : Quarantine} {candidate : Candidate}
    {passcode : Passcode} (selector : Selector) (tries : Nat)
    (tried : (attempt host quarantine candidate).value.1 = some passcode) :
    selector.visits host (tries + 1) (.ok candidate) quarantine = [candidate] := by
  rw [visits, tried, Option.isSome_some, if_pos rfl]

theorem visits_skipped {host : Host} {quarantine : Quarantine} {candidate : Candidate}
    (selector : Selector) (tries : Nat)
    (tried : (attempt host quarantine candidate).value.1 = none) :
    selector.visits host (tries + 1) (.ok candidate) quarantine =
      candidate :: selector.visits host tries
        (selector.entryAt host.files (candidate.ordinal + 1))
        (attempt host quarantine candidate).value.2 := by
  rw [visits, tried, Option.isSome_none, if_neg Bool.false_ne_true]

theorem search_eq_foldl (selector : Selector) (host : Host) (tries : Nat)
    (first : Except LookupFault Candidate) (quarantine : Quarantine) :
    (selector.search host tries first quarantine).value.2 =
      (selector.visits host tries first quarantine).foldl
        (fun before candidate => (attempt host before candidate).value.2) quarantine := by
  induction tries generalizing first quarantine with
  | zero => cases first <;> rfl
  | succ tries ih =>
      cases first with
      | error fault => rfl
      | ok candidate =>
          cases tried : (attempt host quarantine candidate).value.1 with
          | some passcode =>
              rw [search_taken selector tries tried, visits_taken selector tries tried,
                List.foldl_cons, List.foldl_nil]
          | none =>
              rw [search_skipped selector tries tried, visits_skipped selector tries tried,
                List.foldl_cons, ih]

theorem le_of_mem_visits {selector : Selector} {host : Host} {tries ordinal : Nat}
    {first : Except LookupFault Candidate} {quarantine : Quarantine} {candidate : Candidate}
    (start : ∀ other, first = .ok other → ordinal ≤ other.ordinal)
    (member : candidate ∈ selector.visits host tries first quarantine) :
    ordinal ≤ candidate.ordinal := by
  induction tries generalizing first quarantine ordinal with
  | zero => cases first <;> simp [visits] at member
  | succ tries ih =>
      cases first with
      | error fault => simp [visits] at member
      | ok lowest =>
          have bound := start lowest rfl
          cases tried : (attempt host quarantine lowest).value.1 with
          | some passcode =>
              rw [visits_taken selector tries tried, List.mem_singleton] at member
              rw [member]
              exact bound
          | none =>
              rw [visits_skipped selector tries tried, List.mem_cons] at member
              rcases member with same | later
              · rw [same]
                exact bound
              · refine ih ?_ later
                intro next found
                rw [(entryAt_eq_ok_iff.mp found).1]
                omega

theorem visits_pairwise (selector : Selector) (host : Host) (tries : Nat)
    (first : Except LookupFault Candidate) (quarantine : Quarantine) :
    (selector.visits host tries first quarantine).Pairwise
      fun earlier later => earlier.ordinal < later.ordinal := by
  induction tries generalizing first quarantine with
  | zero => cases first <;> exact .nil
  | succ tries ih =>
      cases first with
      | error fault => exact .nil
      | ok candidate =>
          cases tried : (attempt host quarantine candidate).value.1 with
          | some passcode =>
              rw [visits_taken selector tries tried]
              exact List.pairwise_singleton _ _
          | none =>
              rw [visits_skipped selector tries tried]
              refine .cons ?_ (ih _ _)
              intro later member
              refine le_of_mem_visits ?_ member
              intro next found
              exact Nat.le_of_eq (entryAt_eq_ok_iff.mp found).1.symm

theorem slot?_attempt_eq_some_iff {host : Host} {quarantine : Quarantine} {candidate : Candidate}
    {ordinal : Nat} {time : Timestamp} :
    (attempt host quarantine candidate).value.2.slot? ordinal = some time ↔
      quarantine.slot? ordinal = some time ∧
        (candidate.ordinal = ordinal → Barred host quarantine candidate) := by
  rw [slot?_attempt]
  split
  · rename_i emptied
    simp [emptied.1, emptied.2]
  · rename_i kept
    rw [not_and, not_not] at kept
    simp only [iff_self_and]
    exact fun _ => kept

theorem slot?_foldl_attempt_eq_some_iff {candidates : List Candidate}
    (ascending : candidates.Pairwise fun earlier later => earlier.ordinal < later.ordinal)
    {host : Host} {quarantine : Quarantine} {ordinal : Nat} {time : Timestamp} :
    (candidates.foldl (fun before candidate => (attempt host before candidate).value.2)
        quarantine).slot? ordinal = some time ↔
      quarantine.slot? ordinal = some time ∧
        ∀ candidate ∈ candidates, candidate.ordinal = ordinal →
          Barred host quarantine candidate := by
  induction candidates generalizing quarantine with
  | nil => simp
  | cons first rest ih =>
      obtain ⟨above, ascendingRest⟩ := List.pairwise_cons.mp ascending
      -- No attempt bars a candidate above it or lifts the bar from one.
      have barred : ∀ candidate ∈ rest,
          (Barred host (attempt host quarantine first).value.2 candidate ↔
            Barred host quarantine candidate) := fun candidate member =>
        barred_attempt_of_ne (Nat.ne_of_lt (above candidate member))
      rw [List.foldl_cons, ih ascendingRest, slot?_attempt_eq_some_iff, List.forall_mem_cons,
        and_assoc]
      refine and_congr_right fun _ => and_congr_right fun _ => ?_
      exact forall_congr' fun candidate => forall_congr' fun member =>
        imp_congr_right fun _ => barred candidate member

theorem search_passed {selector : Selector} {host : Host} {tries : Nat}
    {first candidate : Candidate} {quarantine : Quarantine} {passcode : Passcode}
    (found : (selector.search host tries (.ok first) quarantine).value.1 =
      .ok (candidate, passcode)) (ordinal : Nat) (lower : first.ordinal ≤ ordinal)
    (upper : ordinal < candidate.ordinal) :
    ∃ other ∈ selector.visits host tries (.ok first) quarantine, other.ordinal = ordinal ∧
      Passed host quarantine other := by
  induction tries generalizing first quarantine with
  | zero => cases found
  | succ tries ih =>
      cases tried : (attempt host quarantine first).value.1 with
      | some code =>
          rw [search_taken selector tries tried] at found
          cases found
          omega
      | none =>
          rw [search_skipped selector tries tried] at found
          rw [visits_skipped selector tries tried]
          by_cases here : first.ordinal = ordinal
          · exact ⟨first, List.mem_cons_self, here, attempt_eq_none_iff.mp tried⟩
          · cases sought : selector.entryAt host.files (first.ordinal + 1) with
            | error fault =>
                rw [sought, search_error] at found
                cases found
            | ok next =>
                have number := (entryAt_eq_ok_iff.mp sought).1
                rw [sought] at found
                obtain ⟨other, member, same, passed⟩ := ih found (by omega)
                refine ⟨other, List.mem_cons_of_mem _ member, same, ?_⟩
                rw [Passed, barred_attempt_of_ne (by omega)] at passed
                exact passed

theorem visited_of_idle {selector : Selector} (idle : selector.Idle) (host : Host) :
    selector.visited host =
      selector.visits host Limit.ordinals (selector.begin host.files).value
        selector.quarantine := by
  rcases idle_iff.mp idle with ⟨candidate?, stage⟩ | stage
  · rw [visited, stage]
  · rw [visited, stage]

theorem visited_of_not_idle {selector : Selector} (busy : ¬selector.Idle) (host : Host) :
    selector.visited host = [] := by
  rw [idle_iff] at busy
  cases stage : selector.stage with
  | ready candidate? => exact absurd (.inl ⟨candidate?, stage⟩) busy
  | exhausted => exact absurd (.inr stage) busy
  | checkedOut candidate passcode => rw [visited, stage]
  | destroyed => rw [visited, stage]

theorem checkOut_of_not_idle {selector : Selector} (busy : ¬selector.Idle) (host : Host) :
    (selector.checkOut host).value.1 = selector := by
  rw [idle_iff] at busy
  cases stage : selector.stage with
  | ready candidate? => exact absurd (.inl ⟨candidate?, stage⟩) busy
  | exhausted => exact absurd (.inr stage) busy
  | checkedOut candidate passcode => simp [checkOut, stage]
  | destroyed => simp [checkOut, stage]

theorem quarantine_checkOut {selector : Selector} (idle : selector.Idle) (host : Host) :
    (selector.checkOut host).value.1.quarantine =
      (selector.search host Limit.ordinals (selector.begin host.files).value
        selector.quarantine).value.2 := by
  rw [value_checkOut_of_idle idle]
  generalize (selector.search host Limit.ordinals (selector.begin host.files).value
    selector.quarantine).value = outcome
  obtain ⟨result, last⟩ := outcome
  cases result <;> rfl

theorem slot?_checkOut_eq_some_iff {selector : Selector} {host : Host} {ordinal : Nat}
    {time : Timestamp} :
    (selector.checkOut host).value.1.quarantine.slot? ordinal = some time ↔
      selector.quarantine.slot? ordinal = some time ∧
        ∀ candidate ∈ selector.visited host, candidate.ordinal = ordinal →
          Barred host selector.quarantine candidate := by
  by_cases idle : selector.Idle
  · rw [quarantine_checkOut idle, search_eq_foldl, visited_of_idle idle]
    exact slot?_foldl_attempt_eq_some_iff (visits_pairwise selector host _ _ _)
  · simp [visited_of_not_idle idle, checkOut_of_not_idle idle]

theorem Turn.idle_of_granted {selector next : Selector} {host : Host} {made : Call}
    {grant : Grant} (turn : Turn selector host made next (.granted grant)) : selector.Idle := by
  cases turn with
  | granted idle searched => exact idle

theorem checkOut_passed {selector : Selector} {host : Host} {grant : Grant}
    (granted : (selector.checkOut host).value.2 = .ok grant) (ordinal : Nat)
    (lower : selector.ordinal ≤ ordinal)
    (upper : ordinal < (selector.checkOut host).value.1.ordinal) :
    ∃ candidate ∈ selector.visited host, candidate.ordinal = ordinal ∧
      Passed host selector.quarantine candidate := by
  have turn := checkOut_turn selector host
  rw [granted] at turn
  have idle := turn.idle_of_granted
  rw [visited_of_idle idle]
  rw [value_checkOut_of_idle idle] at granted upper
  cases first : (selector.begin host.files).value with
  | error fault =>
      rw [first, search_error] at granted
      cases granted
  | ok start =>
      rw [first] at granted upper
      cases outcome :
        (selector.search host Limit.ordinals (.ok start) selector.quarantine).value with
      | mk result last =>
          rw [outcome] at granted upper
          cases result with
          | error fault => cases granted
          | ok found =>
              obtain ⟨candidate, passcode⟩ := found
              exact search_passed (congrArg Prod.fst outcome) ordinal
                (by rwa [begin_ordinal first]) upper

end CertFailover.Selector
