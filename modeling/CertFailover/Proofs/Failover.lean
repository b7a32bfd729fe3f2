import CertFailover.Proofs.Soundness

/-!
Failover while nothing changes. If files and store stay as they are, every ordinal below the
candidate is of no use or in quarantine, so that a check-out hands out the first certificate of the
whole group that can be served and is not in quarantine.
-/

namespace CertFailover.Selector

structure Steady (host : Host) (selector : Selector) : Prop where
  held : ∀ candidate, selector.candidate? = some candidate →
    selector.entryAt host.files candidate.ordinal = .ok candidate
  slots : ∀ ordinal time, selector.quarantine.slot? ordinal = some time →
    ∃ candidate, selector.entryAt host.files ordinal = .ok candidate ∧
      host.files.modified? candidate.entry.path = some time
  passed : ∀ ordinal, ordinal < selector.ordinal →
    ∃ candidate, selector.entryAt host.files ordinal = .ok candidate ∧
      Passed host selector.quarantine candidate

theorem Made.steady {host : Host} {selector : Selector} (made : Made host.files selector) :
    Steady host selector := by
  obtain ⟨empty, entry, stage, found⟩ := made.first
  have held : selector.candidate? = some ⟨0, entry⟩ := by rw [candidate?, stage, Stage.candidate?]
  refine ⟨?_, ?_, ?_⟩
  · intro candidate same
    rw [held] at same
    cases same
    exact entryAt_eq_ok_iff.mpr ⟨rfl, found⟩
  · intro ordinal time slot
    rw [empty, Quarantine.slot?_empty] at slot
    cases slot
  · intro ordinal below
    rw [ordinal_of_candidate? held] at below
    exact absurd below (Nat.not_lt_zero _)

theorem Steady.barred_iff {host : Host} {selector : Selector} (steady : Steady host selector)
    {ordinal : Nat} {candidate : Candidate}
    (found : selector.entryAt host.files ordinal = .ok candidate) :
    Barred host selector.quarantine candidate ↔
      selector.quarantine.isQuarantined ordinal = true := by
  have number := (entryAt_eq_ok_iff.mp found).1
  rw [Quarantine.isQuarantined_iff, Barred, number]
  constructor
  · rintro ⟨time, _, slot⟩
    exact ⟨time, slot⟩
  · rintro ⟨time, slot⟩
    obtain ⟨other, same, modified⟩ := steady.slots ordinal time slot
    rw [found] at same
    cases same
    exact ⟨time, modified, slot⟩

theorem Steady.value_begin {host : Host} {selector : Selector} (steady : Steady host selector) :
    (selector.begin host.files).value = selector.entryAt host.files selector.ordinal := by
  rw [Selector.value_begin]
  cases held : selector.candidate? with
  | none => rw [ordinal_of_none held, Option.elim_none]
  | some candidate =>
      rw [ordinal_of_candidate? held, Option.elim_some]
      exact (steady.held candidate held).symm

theorem Steady.searched {host : Host} {selector : Selector} (steady : Steady host selector)
    {result : Except LookupFault (Candidate × Passcode)} {last : Quarantine}
    (searched : Searched selector host (selector.begin host.files).value selector.quarantine
      result last) :
    last.slot? = selector.quarantine.slot? ∧
      ∃ stop, Reached selector host selector.ordinal
        (selector.entryAt host.files selector.ordinal) selector.quarantine result last stop := by
  rw [steady.value_begin] at searched
  obtain ⟨stop, reached⟩ := searched.reached selector.ordinal
    (fun _ found => (entryAt_eq_ok_iff.mp found).1)
  refine ⟨?_, stop, reached⟩
  funext current
  rcases reached.slots current with kept | ⟨emptied, _, _, candidate, found, unbarred⟩
  · exact kept
  · rw [met_entryAt] at found
    rw [steady.barred_iff found, Bool.not_eq_true,
      Quarantine.isQuarantined_eq_false_iff] at unbarred
    rw [emptied, unbarred]

theorem Steady.passed_of_reached {host : Host} {selector : Selector}
    (steady : Steady host selector) {result : Except LookupFault (Candidate × Passcode)}
    {last : Quarantine} {stop : Nat}
    (reached : Reached selector host selector.ordinal
      (selector.entryAt host.files selector.ordinal) selector.quarantine result last stop)
    (ordinal : Nat) (below : ordinal < stop) :
    ∃ candidate, selector.entryAt host.files ordinal = .ok candidate ∧
      Passed host selector.quarantine candidate := by
  by_cases early : ordinal < selector.ordinal
  · exact steady.passed ordinal early
  · obtain ⟨candidate, found, passed⟩ := reached.passed ordinal (by omega) below
    rw [met_entryAt] at found
    exact ⟨candidate, found, passed⟩

theorem Steady.ofFirst {host : Host} {selector next : Selector}
    (path : next.configPath = selector.configPath) (group : next.group = selector.group)
    (first : next.ordinal = 0)
    (held : ∀ candidate, next.candidate? = some candidate →
      selector.entryAt host.files candidate.ordinal = .ok candidate)
    (slots : ∀ ordinal time, next.quarantine.slot? ordinal = some time →
      ∃ candidate, selector.entryAt host.files ordinal = .ok candidate ∧
        host.files.modified? candidate.entry.path = some time) : Steady host next := by
  refine ⟨?_, ?_, ?_⟩
  · simpa only [entryAt, path, group] using held
  · simpa only [entryAt, path, group] using slots
  · intro ordinal below
    rw [first] at below
    exact absurd below (Nat.not_lt_zero ordinal)

theorem Steady.slots_clear {host : Host} {selector : Selector} (steady : Steady host selector)
    (emptied ordinal : Nat) (time : Timestamp)
    (slot : (selector.quarantine.clear emptied).slot? ordinal = some time) :
    ∃ candidate, selector.entryAt host.files ordinal = .ok candidate ∧
      host.files.modified? candidate.entry.path = some time := by
  rw [Quarantine.slot?_clear] at slot
  split at slot
  · cases slot
  · exact steady.slots ordinal time slot

theorem Steady.slots_mark {host : Host} {selector : Selector} (steady : Steady host selector)
    {candidate : Candidate} (held : selector.candidate? = some candidate) (ordinal : Nat)
    (time : Timestamp)
    (slot : (selector.quarantine.mark candidate.ordinal
      (host.files.modified? candidate.entry.path)).slot? ordinal = some time) :
    ∃ other, selector.entryAt host.files ordinal = .ok other ∧
      host.files.modified? other.entry.path = some time := by
  rw [Quarantine.slot?_mark] at slot
  split at slot
  · rename_i here
    rw [← here.1]
    exact ⟨candidate, steady.held candidate held, slot⟩
  · exact steady.slots ordinal time slot

theorem Steady.passed_mark {host : Host} {selector : Selector} (steady : Steady host selector)
    {candidate : Candidate} (held : selector.candidate? = some candidate) (ordinal : Nat)
    (below : ordinal < candidate.ordinal + 1) :
    ∃ other, selector.entryAt host.files ordinal = .ok other ∧
      Passed host (selector.quarantine.mark candidate.ordinal
        (host.files.modified? candidate.entry.path)) other := by
  have located := steady.held candidate held
  by_cases same : ordinal = candidate.ordinal
  · subst same
    refine ⟨candidate, located, ?_⟩
    cases modified : host.files.modified? candidate.entry.path with
    | none =>
        right
        rw [service?, modified, Option.bind_none]
    | some time =>
        left
        refine ⟨time, modified, ?_⟩
        rw [Quarantine.slot?_mark, if_pos ⟨rfl, entryAt_lt located⟩]
  · have earlier : ordinal < selector.ordinal := by
      rw [ordinal_of_candidate? held]
      omega
    obtain ⟨other, found, passed⟩ := steady.passed ordinal earlier
    have number := (entryAt_eq_ok_iff.mp found).1
    have kept : (selector.quarantine.mark candidate.ordinal
        (host.files.modified? candidate.entry.path)).slot? other.ordinal =
          selector.quarantine.slot? other.ordinal := by
      rw [Quarantine.slot?_mark, if_neg (by omega)]
    refine ⟨other, found, ?_⟩
    rw [Passed, barred_congr kept]
    exact passed

theorem Steady.turn {host : Host} {selector next : Selector} {made : Call} {reply : Reply}
    (steady : Steady host selector) (turn : Turn selector host made next reply) :
    Steady host next := by
  cases turn with
  | @granted candidate passcode last idle searched =>
      obtain ⟨same, stop, reached⟩ := steady.searched searched
      obtain ⟨found, _⟩ := reached.found candidate passcode rfl
      rw [met_entryAt] at found
      have number := (entryAt_eq_ok_iff.mp found).1
      refine ⟨?_, ?_, ?_⟩
      · rintro other ⟨⟩
        rw [number]
        exact found
      · intro ordinal time slot
        rw [same] at slot
        exact steady.slots ordinal time slot
      · intro ordinal below
        have early : ordinal < stop := by
          rw [← number]
          exact below
        obtain ⟨other, located, passed⟩ := steady.passed_of_reached reached ordinal early
        refine ⟨other, located, ?_⟩
        rw [Passed, barred_congr (congrFun same other.ordinal)]
        exact passed
  | failed idle searched =>
      obtain ⟨same, _⟩ := steady.searched searched
      refine Steady.ofFirst rfl rfl rfl (fun _ held => by cases held) ?_
      intro ordinal time slot
      rw [same] at slot
      exact steady.slots ordinal time slot
  | checkOutHeld held => exact steady
  | checkOutReleased released => exact steady
  | reportIdle idle => exact steady
  | @cleared candidate _ _ _ held outcome first =>
      have located := steady.held candidate (candidate?_of_checkedOut held)
      refine Steady.ofFirst rfl rfl first ?_ (steady.slots_clear candidate.ordinal)
      rintro other ⟨⟩
      exact located
  | @restored candidate _ _ _ first held outcome later found =>
      have number := (entryAt_eq_ok_iff.mp found).1
      refine Steady.ofFirst rfl rfl number ?_ (steady.slots_clear candidate.ordinal)
      rintro other ⟨⟩
      rw [number]
      exact found
  | @lost candidate _ _ _ _ held outcome later missed =>
      exact Steady.ofFirst rfl rfl rfl (fun _ held => by cases held)
        (steady.slots_clear candidate.ordinal)
  | @advanced candidate _ _ _ following held outcome found =>
      have current := candidate?_of_checkedOut held
      have number := (entryAt_eq_ok_iff.mp found).1
      refine ⟨?_, steady.slots_mark current, ?_⟩
      · rintro other ⟨⟩
        rw [number]
        exact found
      · intro ordinal below
        apply steady.passed_mark current ordinal
        rw [← number]
        exact below
  | @ended candidate _ _ _ _ held outcome missed =>
      exact Steady.ofFirst rfl rfl rfl (fun _ held => by cases held)
        (steady.slots_mark (candidate?_of_checkedOut held))
  | @kept candidate _ _ _ held outcome =>
      have current := candidate?_of_checkedOut held
      refine ⟨?_, steady.slots, ?_⟩
      · rintro other ⟨⟩
        exact steady.held candidate current
      · intro ordinal below
        apply steady.passed ordinal
        rw [ordinal_of_candidate? current]
        exact below
  | destroyed live =>
      refine Steady.ofFirst rfl rfl rfl (fun _ held => by cases held) ?_
      intro ordinal time slot
      rw [Quarantine.slot?_empty] at slot
      cases slot
  | destroyedAgain released => exact steady

theorem Made.steady_run {host : Host} {selector : Selector} (made : Made host.files selector)
    (calls : List Call) :
    Steady host (selector.run (calls.map fun call => (host, call))).value.1 := by
  induction calls using List.reverseRecOn with
  | nil => exact made.steady
  | append_singleton past call ih =>
      rw [List.map_append, List.map_singleton, value_run_concat]
      exact ih.turn (call_turn _ host call)

/-- How many leading ordinals of the group have an entry. -/
def reach (selector : Selector) (files : FileTree) : Nat :=
  (List.range Limit.ordinals).findIdx fun ordinal => !(selector.entryAt files ordinal).isOk

def serviceAt (selector : Selector) (host : Host) (ordinal : Nat) : Option (Nat × Grant) :=
  (selector.entryAt host.files ordinal).toOption.bind fun candidate =>
    (service? host candidate.entry).map fun passcode =>
      (ordinal, ⟨candidate.entry.uri, passcode⟩)

def services (selector : Selector) (host : Host) : List (Nat × Grant) :=
  (List.range (selector.reach host.files)).filterMap (selector.serviceAt host)

def offers (selector : Selector) (host : Host) : List (Nat × Grant) :=
  (selector.services host).filter fun offer => !selector.quarantine.isQuarantined offer.1

def hand (selector : Selector) (host : Host) : Except Fault (Nat × Grant) :=
  let (next, result) := (selector.checkOut host).value
  result.map fun grant => (next.ordinal, grant)

/-- What a selector hands out if every certificate is reported, with one code and endpoint after the
other. -/
def hands (selector : Selector) (host : Host) :
    List (Nat × String) → List (Except Fault (Nat × Grant))
  | [] => []
  | (code, endpoint) :: rest =>
    match (selector.checkOut host).value with
    | (next, .error fault) => .error fault :: next.hands host rest
    | (next, .ok grant) =>
      .ok (next.ordinal, grant) :: (next.report host.files code endpoint).value.1.hands host rest

theorem reach_le (selector : Selector) (files : FileTree) :
    selector.reach files ≤ Limit.ordinals := by
  simpa [reach] using @List.findIdx_le_length Nat
    (fun ordinal => !(selector.entryAt files ordinal).isOk) (List.range Limit.ordinals)

theorem entryAt_of_lt_reach {selector : Selector} {files : FileTree} {ordinal : Nat}
    (below : ordinal < selector.reach files) :
    ∃ candidate, selector.entryAt files ordinal = .ok candidate := by
  have located := List.not_of_lt_findIdx below
  rw [List.getElem_range] at located
  cases found : selector.entryAt files ordinal with
  | error fault =>
      rw [found] at located
      cases located
  | ok candidate => exact ⟨candidate, rfl⟩

theorem entryAt_reach (selector : Selector) (files : FileTree) :
    ∃ fault, selector.entryAt files (selector.reach files) = .error fault := by
  rcases Nat.lt_or_ge (selector.reach files) Limit.ordinals with below | beyond
  · have stopped := @List.findIdx_getElem Nat
      (fun ordinal => !(selector.entryAt files ordinal).isOk) (List.range Limit.ordinals)
      (by simpa [reach] using below)
    rw [List.getElem_range] at stopped
    cases found : selector.entryAt files (selector.reach files) with
    | error fault => exact ⟨fault, rfl⟩
    | ok candidate =>
        change (!(selector.entryAt files (selector.reach files)).isOk) = true at stopped
        rw [found] at stopped
        cases stopped
  · exact ⟨.noEntry, entryAt_eq_error_iff.mpr (Lookup.inGroup_of_limit_le _ _ _ beyond)⟩

theorem lt_reach {selector : Selector} {files : FileTree} {ordinal : Nat}
    (located : ∀ current, current ≤ ordinal →
      ∃ candidate, selector.entryAt files current = .ok candidate) :
    ordinal < selector.reach files := by
  by_contra beyond
  obtain ⟨fault, missed⟩ := entryAt_reach selector files
  obtain ⟨candidate, found⟩ := located (selector.reach files) (by omega)
  rw [missed] at found
  cases found

theorem reach_eq {selector : Selector} {files : FileTree} {stop : Nat} {fault : LookupFault}
    (located : ∀ current, current < stop →
      ∃ candidate, selector.entryAt files current = .ok candidate)
    (missed : selector.entryAt files stop = .error fault) : selector.reach files = stop := by
  rcases Nat.lt_trichotomy (selector.reach files) stop with below | same | above
  · obtain ⟨other, refused⟩ := entryAt_reach selector files
    obtain ⟨candidate, found⟩ := located _ below
    rw [refused] at found
    cases found
  · exact same
  · obtain ⟨candidate, found⟩ := entryAt_of_lt_reach above
    rw [missed] at found
    cases found

def offerAt (selector : Selector) (host : Host) (ordinal : Nat) : Option (Nat × Grant) :=
  (selector.serviceAt host ordinal).filter fun offer =>
    !selector.quarantine.isQuarantined offer.1

theorem offers_eq (selector : Selector) (host : Host) :
    selector.offers host =
      (List.range (selector.reach host.files)).filterMap (selector.offerAt host) := by
  rw [offers, services, List.filter_filterMap]
  rfl

theorem Steady.offerAt_of_passed {host : Host} {selector : Selector}
    (steady : Steady host selector) {ordinal : Nat} {candidate : Candidate}
    (found : selector.entryAt host.files ordinal = .ok candidate)
    (passed : Passed host selector.quarantine candidate) :
    selector.offerAt host ordinal = none := by
  simp only [offerAt, serviceAt, found, Except.toOption, Option.bind_some]
  rcases passed with barred | unserved
  · rw [steady.barred_iff found] at barred
    cases service? host candidate.entry <;> simp [barred]
  · simp [unserved]

theorem Steady.offerAt_of_unbarred {host : Host} {selector : Selector}
    (steady : Steady host selector) {ordinal : Nat} {candidate : Candidate} {passcode : Passcode}
    (found : selector.entryAt host.files ordinal = .ok candidate)
    (unbarred : ¬Barred host selector.quarantine candidate)
    (served : service? host candidate.entry = some passcode) :
    selector.offerAt host ordinal = some (ordinal, ⟨candidate.entry.uri, passcode⟩) := by
  rw [steady.barred_iff found, Bool.not_eq_true] at unbarred
  simp [offerAt, serviceAt, found, Except.toOption, served, unbarred]

theorem filterMap_range_eq_nil {α : Type} {offer : Nat → Option α} {count : Nat}
    (none : ∀ ordinal, ordinal < count → offer ordinal = none) :
    (List.range count).filterMap offer = [] := by
  rw [List.filterMap_eq_nil_iff]
  intro ordinal member
  exact none ordinal (List.mem_range.mp member)

theorem filterMap_range_eq_cons {α : Type} {offer : Nat → Option α} {count stop : Nat} {first : α}
    (below : stop < count) (none : ∀ ordinal, ordinal < stop → offer ordinal = none)
    (some : offer stop = some first) :
    ∃ rest, (List.range count).filterMap offer = first :: rest := by
  obtain ⟨more, rfl⟩ := Nat.exists_eq_add_of_lt below
  rw [Nat.add_assoc, List.range_add, List.filterMap_append, filterMap_range_eq_nil none,
    List.range_succ_eq_map]
  simp [some]

theorem reach_congr {selector next : Selector} (path : next.configPath = selector.configPath)
    (group : next.group = selector.group) : next.reach = selector.reach := by
  funext files
  rw [reach, reach, entryAt_congr path group]

theorem services_congr {selector next : Selector} (host : Host)
    (path : next.configPath = selector.configPath) (group : next.group = selector.group) :
    next.services host = selector.services host := by
  have each : next.serviceAt host = selector.serviceAt host := by
    funext ordinal
    rw [serviceAt, serviceAt, entryAt_congr path group]
  rw [services, services, each, reach_congr path group]

theorem offers_congr (selector : Selector) {next : Selector} (host : Host)
    (path : next.configPath = selector.configPath) (group : next.group = selector.group)
    (same : next.quarantine.slot? = selector.quarantine.slot?) :
    next.offers host = selector.offers host := by
  simp only [offers, services_congr host path group, Quarantine.isQuarantined, same]

theorem entryAt_reach_congr {selector next : Selector} (files : FileTree)
    (path : next.configPath = selector.configPath) (group : next.group = selector.group) :
    next.entryAt files (next.reach files) = selector.entryAt files (selector.reach files) := by
  rw [entryAt_congr path group, reach_congr path group]

theorem Steady.offerAt_of_lt {host : Host} {selector : Selector} (steady : Steady host selector)
    {result : Except LookupFault (Candidate × Passcode)} {last : Quarantine} {stop ordinal : Nat}
    (reached : Reached selector host selector.ordinal
      (selector.entryAt host.files selector.ordinal) selector.quarantine result last stop)
    (below : ordinal < stop) :
    (∃ candidate, selector.entryAt host.files ordinal = .ok candidate) ∧
      selector.offerAt host ordinal = none := by
  obtain ⟨candidate, found, passed⟩ := steady.passed_of_reached reached ordinal below
  exact ⟨⟨candidate, found⟩, steady.offerAt_of_passed found passed⟩

theorem Steady.offers_of_missed {host : Host} {selector : Selector} (steady : Steady host selector)
    {fault : LookupFault} {last : Quarantine} {stop : Nat}
    (reached : Reached selector host selector.ordinal
      (selector.entryAt host.files selector.ordinal) selector.quarantine (.error fault) last stop) :
    selector.entryAt host.files (selector.reach host.files) = .error fault ∧
      selector.offers host = [] := by
  have missed := reached.missed fault rfl
  rw [met_entryAt] at missed
  have ended : selector.reach host.files = stop :=
    reach_eq (fun _ below => (steady.offerAt_of_lt reached below).1) missed
  rw [offers_eq, ended]
  exact ⟨missed, filterMap_range_eq_nil fun _ below => (steady.offerAt_of_lt reached below).2⟩

theorem Steady.offers_of_found {host : Host} {selector : Selector} (steady : Steady host selector)
    {candidate : Candidate} {passcode : Passcode} {last : Quarantine} {stop : Nat}
    (reached : Reached selector host selector.ordinal
      (selector.entryAt host.files selector.ordinal) selector.quarantine
      (.ok (candidate, passcode)) last stop) :
    ∃ rest, selector.offers host =
      (candidate.ordinal, ⟨candidate.entry.uri, passcode⟩) :: rest := by
  obtain ⟨found, unbarred, served⟩ := reached.found candidate passcode rfl
  rw [met_entryAt] at found
  have number := (entryAt_eq_ok_iff.mp found).1
  have inside : stop < selector.reach host.files := by
    apply lt_reach
    intro current upper
    by_cases here : current = stop
    · exact ⟨candidate, by rw [here, found]⟩
    · exact (steady.offerAt_of_lt reached (by omega)).1
  rw [offers_eq, number]
  exact filterMap_range_eq_cons inside
    (fun _ below => (steady.offerAt_of_lt reached below).2)
    (steady.offerAt_of_unbarred found unbarred served)

theorem Steady.checkOut {host : Host} {selector : Selector} (steady : Steady host selector)
    (idle : selector.Idle) {fault : LookupFault}
    (missed : selector.entryAt host.files (selector.reach host.files) = .error fault) :
    ∃ next, next.offers host = selector.offers host ∧
      (selector.offers host = [] ∧ next.Idle ∧
          (selector.checkOut host).value = (next, .error (selector.refusal fault)) ∨
        ∃ candidate passcode rest, next.stage = .checkedOut candidate passcode ∧
          selector.offers host = (candidate.ordinal, ⟨candidate.entry.uri, passcode⟩) :: rest ∧
          (selector.checkOut host).value = (next, .ok ⟨candidate.entry.uri, passcode⟩) ∧
          (host.files.modified? candidate.entry.path).isSome) := by
  obtain ⟨result, last, searched, value⟩ := idle.checkOut host
  obtain ⟨same, stop, reached⟩ := steady.searched searched
  rw [value]
  cases result with
  | error other =>
      obtain ⟨ended, offers⟩ := steady.offers_of_missed reached
      rw [missed] at ended
      cases ended
      refine ⟨{ selector with quarantine := last, stage := .ready none }, ?_, ?_⟩
      · exact offers_congr selector host rfl rfl same
      · exact .inl ⟨offers, .inl rfl, rfl⟩
  | ok found =>
      obtain ⟨candidate, passcode⟩ := found
      obtain ⟨rest, offers⟩ := steady.offers_of_found reached
      have present := (service?_eq_some_iff.mp searched.served).1
      refine ⟨{ selector with quarantine := last, stage := .checkedOut candidate passcode }, ?_, ?_⟩
      · exact offers_congr selector host rfl rfl same
      · exact .inr ⟨candidate, passcode, rest, rfl, offers, rfl, present⟩

theorem Steady.hand {host : Host} {selector : Selector} (steady : Steady host selector)
    (idle : selector.Idle) {fault : LookupFault}
    (missed : selector.entryAt host.files (selector.reach host.files) = .error fault) :
    selector.hand host =
      (selector.offers host).head?.elim (.error (selector.refusal fault)) .ok := by
  obtain ⟨next, _, ⟨offers, _, value⟩ | ⟨candidate, passcode, rest, stage, offers, value, _⟩⟩ :=
    steady.checkOut idle missed
  · rw [Selector.hand, value, offers]
    rfl
  · have ordinal := ordinal_of_candidate? (candidate?_of_checkedOut stage)
    rw [Selector.hand, value, offers, List.head?_cons, Option.elim_some, ← ordinal]
    rfl

theorem services_pairwise (selector : Selector) (host : Host) :
    (selector.services host).Pairwise fun earlier later => earlier.1 < later.1 := by
  have own {ordinal : Nat} {service : Nat × Grant}
      (served : selector.serviceAt host ordinal = some service) : service.1 = ordinal := by
    simp only [serviceAt, Option.bind_eq_some_iff, Option.map_eq_some_iff] at served
    obtain ⟨candidate, _, passcode, _, rfl⟩ := served
    rfl
  refine List.Pairwise.filterMap _ ?_ List.pairwise_lt_range
  intro first second ascending earlier servedFirst later servedSecond
  rw [own servedFirst, own servedSecond]
  exact ascending

theorem offers_mark {selector next : Selector} {host : Host} {ordinal : Nat} {grant : Grant}
    {rest : List (Nat × Grant)} (path : next.configPath = selector.configPath)
    (group : next.group = selector.group)
    (offers : selector.offers host = (ordinal, grant) :: rest)
    (marked : ∀ other, next.quarantine.isQuarantined other =
      (other == ordinal || selector.quarantine.isQuarantined other)) :
    next.offers host = rest := by
  have services := services_congr host path group
  have ascending := (selector.services_pairwise host).filter fun offer =>
    !selector.quarantine.isQuarantined offer.1
  rw [← Selector.offers, offers, List.pairwise_cons] at ascending
  have others : rest.filter (fun offer => !(offer.1 == ordinal)) = rest := by
    rw [List.filter_eq_self]
    intro offer member
    have above := ascending.1 offer member
    simp only [Bool.not_eq_true', beq_eq_false_iff_ne, ne_eq]
    omega
  calc next.offers host
      = (selector.services host).filter (fun offer =>
          !(offer.1 == ordinal) && !selector.quarantine.isQuarantined offer.1) := by
        simp only [Selector.offers, services, marked, Bool.not_or]
    _ = (selector.offers host).filter (fun offer => !(offer.1 == ordinal)) := by
        rw [Selector.offers, List.filter_filter]
    _ = rest := by
        rw [offers, List.filter_cons, if_neg (by simp), others]

theorem Steady.report_bad {host : Host} {selector : Selector} (steady : Steady host selector)
    {candidate : Candidate} {passcode : Passcode} {rest : List (Nat × Grant)} {grant : Grant}
    {code : Nat} (endpoint : String)
    (stage : selector.stage = .checkedOut candidate passcode)
    (offers : selector.offers host = (candidate.ordinal, grant) :: rest)
    (present : (host.files.modified? candidate.entry.path).isSome)
    (bad : Outcome.ofCode code = .certificateError) :
    (selector.report host.files code endpoint).value.1.Idle ∧
      (selector.report host.files code endpoint).value.1.offers host = rest := by
  have turn := report_turn selector host code endpoint
  obtain ⟨idle, marked, _⟩ := turn.rejected stage bad
  have bound := entryAt_lt (steady.held candidate (candidate?_of_checkedOut stage))
  refine ⟨idle, offers_mark turn.identity.1 turn.identity.2 offers ?_⟩
  intro other
  rw [marked]
  exact Quarantine.isQuarantined_mark _ bound other present

theorem Steady.hands {host : Host} {selector : Selector} (steady : Steady host selector)
    (idle : selector.Idle) {fault : LookupFault}
    (missed : selector.entryAt host.files (selector.reach host.files) = .error fault)
    (reports : List (Nat × String))
    (bad : ∀ report, report ∈ reports → Outcome.ofCode report.1 = .certificateError) :
    selector.hands host reports =
      ((selector.offers host).map .ok).take reports.length ++
        List.replicate (reports.length - (selector.offers host).length)
          (.error (selector.refusal fault)) := by
  -- Each report takes the first offer away, and without an offer nothing changes any more.
  induction reports generalizing selector with
  | nil => simp [Selector.hands]
  | cons report rest ih =>
      obtain ⟨code, endpoint⟩ := report
      have badRest : ∀ report, report ∈ rest → Outcome.ofCode report.1 = .certificateError :=
        fun report member => bad report (List.mem_cons_of_mem _ member)
      have turn := checkOut_turn selector host
      obtain ⟨next, kept, outcome⟩ := steady.checkOut idle missed
      rcases outcome with ⟨offers, idleNext, value⟩ |
        ⟨candidate, passcode, others, stage, offers, value, present⟩
      · rw [value] at turn
        obtain ⟨path, group⟩ := turn.identity
        have missedNext := (entryAt_reach_congr host.files path group).trans missed
        have tail := ih (steady.turn turn) idleNext missedNext badRest
        rw [kept, offers, refusal_congr selector group] at tail
        rw [Selector.hands, value, offers]
        simp [tail, List.replicate_succ]
      · rw [value] at turn
        have report := report_turn next host code endpoint
        have path := report.identity.1.trans turn.identity.1
        have group := report.identity.2.trans turn.identity.2
        have steadyNext := steady.turn turn
        obtain ⟨idleAfter, fewer⟩ := steadyNext.report_bad endpoint stage (kept.trans offers)
          present (bad (code, endpoint) List.mem_cons_self)
        have missedAfter := (entryAt_reach_congr host.files path group).trans missed
        have tail := ih (steadyNext.turn report) idleAfter missedAfter badRest
        rw [fewer, refusal_congr selector group] at tail
        rw [Selector.hands, value, offers]
        simp [tail, ordinal_of_candidate? (candidate?_of_checkedOut stage)]

theorem mem_services_iff {selector : Selector} {host : Host} {ordinal : Nat} {grant : Grant} :
    (ordinal, grant) ∈ selector.services host ↔
      ordinal < selector.reach host.files ∧
        ∃ candidate, selector.entryAt host.files ordinal = .ok candidate ∧
          candidate.entry.uri = grant.uri ∧
            service? host candidate.entry = some grant.passcode := by
  obtain ⟨uri, passcode⟩ := grant
  simp only [services, List.mem_filterMap, List.mem_range, serviceAt, Option.bind_eq_some_iff,
    Option.map_eq_some_iff, Prod.mk.injEq, Grant.mk.injEq]
  constructor
  · rintro ⟨own, below, candidate, found, code, served, rfl, rfl, rfl⟩
    refine ⟨below, candidate, ?_, rfl, served⟩
    cases located : selector.entryAt host.files own with
    | error fault => simp [located, Except.toOption] at found
    | ok other =>
        rw [located, Except.toOption, Option.some.injEq] at found
        rw [found]
  · rintro ⟨below, candidate, found, same, served⟩
    exact ⟨ordinal, below, candidate, by rw [found, Except.toOption], passcode, served, rfl, same,
      rfl⟩

theorem Made.reach_pos {files : FileTree} {selector : Selector} (made : Made files selector) :
    0 < selector.reach files := by
  obtain ⟨_, entry, _, found⟩ := made.first
  apply lt_reach
  intro current lowest
  rw [Nat.le_zero.mp lowest]
  exact ⟨⟨0, entry⟩, entryAt_eq_ok_iff.mpr ⟨rfl, found⟩⟩

theorem Made.offers {files : FileTree} {selector : Selector} (made : Made files selector)
    (host : Host) : selector.offers host = selector.services host := by
  rw [Selector.offers, List.filter_eq_self]
  intro offer member
  simp [made.first.1, Quarantine.isQuarantined]

/-- While nothing changes a selector hands out the best certificate of the whole group, and fails
over completely. -/
theorem run_failover {host : Host} {selector : Selector} (made : Made host.files selector) :
    let locate := Lookup.inGroup host.files selector.configPath selector.group
    let count := selector.reach host.files
    let services := selector.services host
    1 ≤ count ∧ count ≤ Limit.ordinals ∧
      (∀ ordinal, ordinal < count → ∃ entry, locate ordinal = .ok entry) ∧
      services.Pairwise (fun earlier later => earlier.1 < later.1) ∧
      (∀ ordinal grant, (ordinal, grant) ∈ services ↔
        ordinal < count ∧ ∃ entry value, locate ordinal = .ok entry ∧ entry.uri = grant.uri ∧
          (host.files.modified? entry.path).isSome ∧
          host.credentials entry.credentialRef = .ok value ∧
          Passcode.Whole value grant.passcode.bytes) ∧
      ∃ fault, locate count = .error fault ∧
        (∀ calls : List Call,
          let last := (selector.run (calls.map fun call => (host, call))).value.1
          let offers := services.filter fun offer => !last.quarantine.isQuarantined offer.1
          last.Idle → last.hand host = offers.head?.elim (.error (selector.refusal fault)) .ok) ∧
        ∀ reports : List (Nat × String),
          (∀ report, report ∈ reports → Outcome.ofCode report.1 = .certificateError) →
          selector.hands host reports =
            (services.map .ok).take reports.length ++
              List.replicate (reports.length - services.length)
                (.error (selector.refusal fault)) := by
  obtain ⟨fault, missed⟩ := selector.entryAt_reach host.files
  intro locate count services
  refine ⟨made.reach_pos, selector.reach_le host.files, ?_, selector.services_pairwise host, ?_,
    fault, entryAt_eq_error_iff.mp missed, ?_, ?_⟩
  · intro ordinal below
    obtain ⟨candidate, located⟩ := entryAt_of_lt_reach below
    exact ⟨candidate.entry, (entryAt_eq_ok_iff.mp located).2⟩
  · intro ordinal grant
    simp only [services, mem_services_iff, service?_eq_some_iff]
    constructor
    · rintro ⟨below, candidate, located, uri, present, value, answered, whole⟩
      exact ⟨below, candidate.entry, value, (entryAt_eq_ok_iff.mp located).2, uri, present,
        answered, whole⟩
    · rintro ⟨below, entry, value, located, uri, present, answered, whole⟩
      exact ⟨below, ⟨ordinal, entry⟩, entryAt_eq_ok_iff.mpr ⟨rfl, located⟩, uri, present, value,
        answered, whole⟩
  · intro calls last offers idle
    have identity := run_identity selector (calls.map fun call => (host, call))
    have missedLast := (entryAt_reach_congr host.files identity.1 identity.2).trans missed
    rw [(made.steady_run calls).hand idle missedLast, refusal_congr selector identity.2,
      Selector.offers, services_congr host identity.1 identity.2]
  · intro reports bad
    rw [made.steady.hands made.idle missed reports bad, made.offers]

theorem run_failover_sample :
    let reports := List.replicate 3 (58, "host")
    let first : Grant := ⟨"a.p12", Bytes.ofText "pc", by decide⟩
    let second : Grant := ⟨"b.p12", Bytes.ofText "pd", by decide⟩
    Made sampleHost.files sample ∧ sample.services sampleHost = [(0, first), (1, second)] ∧
      (∀ report, report ∈ reports → Outcome.ofCode report.1 = .certificateError) ∧
      sample.hands sampleHost reports =
        [.ok (0, first), .ok (1, second), .error (.groupExhausted "G")] := by
  intro reports first second
  have services : sample.services sampleHost = [(0, first), (1, second)] := by rfl
  have bad : ∀ report, report ∈ reports → Outcome.ofCode report.1 = .certificateError := by decide
  obtain ⟨_, _, _, _, _, fault, missed, _, hands⟩ := @run_failover sampleHost sample sample_made
  cases (show Except.error LookupFault.noEntry = .error fault from missed)
  refine ⟨sample_made, services, bad, ?_⟩
  rw [hands reports bad, services]
  rfl

end CertFailover.Selector
