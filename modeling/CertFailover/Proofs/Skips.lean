import CertFailover.Proofs.Visits

/-!
What a check-out passes over as quarantined, and what it says of that. The log names the candidates
that it visits and finds barred, and no other; a visit that is not barred ends the search if its
passcode can be had.
-/

namespace CertFailover.Selector

structure Skipped (selector : Selector) (host : Host) (candidate : Candidate) : Prop where
  visit : candidate ∈ selector.visited host
  barred : Barred host selector.quarantine candidate

theorem mem_visits_succ_iff {selector : Selector} {host : Host} {tries : Nat}
    {first candidate : Candidate} {quarantine : Quarantine} :
    candidate ∈ selector.visits host (tries + 1) (.ok first) quarantine ↔
      candidate = first ∨
        (attempt host quarantine first).value.1 = none ∧
          candidate ∈ selector.visits host tries (selector.entryAt host.files (first.ordinal + 1))
            (attempt host quarantine first).value.2 := by
  cases tried : (attempt host quarantine first).value.1 with
  | some passcode => simp [visits_taken selector tries tried]
  | none => simp [visits_skipped selector tries tried]

theorem lt_of_mem_visits {selector : Selector} {host : Host} {tries ordinal : Nat}
    {quarantine : Quarantine} {candidate : Candidate}
    (member : candidate ∈
      selector.visits host tries (selector.entryAt host.files (ordinal + 1)) quarantine) :
    ordinal < candidate.ordinal := by
  refine le_of_mem_visits ?_ member
  intro other found
  exact Nat.le_of_eq (entryAt_eq_ok_iff.mp found).1.symm

theorem mem_visits_origin {selector : Selector} {host : Host} {tries : Nat}
    {first : Except LookupFault Candidate} {quarantine : Quarantine} {candidate : Candidate}
    (member : candidate ∈ selector.visits host tries first quarantine) :
    first = .ok candidate ∨
      selector.entryAt host.files candidate.ordinal = .ok candidate := by
  induction tries generalizing first quarantine with
  | zero => cases first <;> simp [visits] at member
  | succ tries ih =>
      cases first with
      | error fault => simp [visits] at member
      | ok lowest =>
          rcases mem_visits_succ_iff.mp member with same | ⟨_, later⟩
          · rw [same]
            exact .inl rfl
          · right
            rcases ih later with next | found
            · have number := (entryAt_eq_ok_iff.mp next).1
              rwa [number]
            · exact found

theorem search_of_mem_visits {selector : Selector} {host : Host} {tries : Nat}
    {first : Except LookupFault Candidate} {quarantine : Quarantine} {candidate : Candidate}
    {passcode : Passcode} (member : candidate ∈ selector.visits host tries first quarantine)
    (unbarred : ¬Barred host quarantine candidate)
    (served : service? host candidate.entry = some passcode) :
    (selector.search host tries first quarantine).value.1 = .ok (candidate, passcode) := by
  induction tries generalizing first quarantine with
  | zero => cases first <;> simp [visits] at member
  | succ tries ih =>
      cases first with
      | error fault => simp [visits] at member
      | ok lowest =>
          rcases mem_visits_succ_iff.mp member with same | ⟨tried, later⟩
          · rw [← same, search_taken selector tries (attempt_eq_some_iff.mpr ⟨unbarred, served⟩)]
          · have above := lt_of_mem_visits later
            rw [search_skipped selector tries tried]
            refine ih later ?_
            rwa [barred_attempt_of_ne (Nat.ne_of_lt above)]

theorem idle_of_mem_visited {selector : Selector} {host : Host} {candidate : Candidate}
    (visit : candidate ∈ selector.visited host) : selector.Idle := by
  by_contra busy
  rw [visited_of_not_idle busy] at visit
  cases visit

theorem visited_origin {selector : Selector} {host : Host} {candidate : Candidate}
    (visit : candidate ∈ selector.visited host) :
    selector.candidate? = some candidate ∨
      selector.entryAt host.files candidate.ordinal = .ok candidate := by
  rw [visited_of_idle (idle_of_mem_visited visit)] at visit
  rcases mem_visits_origin visit with first | found
  · rcases begin_eq_ok first with held | ⟨_, found⟩
    · exact .inl held
    · have number := (entryAt_eq_ok_iff.mp found).1
      right
      rwa [number]
  · exact .inr found

theorem checkOut_of_mem_visited {selector : Selector} {host : Host} {candidate : Candidate}
    {passcode : Passcode} (visit : candidate ∈ selector.visited host)
    (unbarred : ¬Barred host selector.quarantine candidate)
    (served : service? host candidate.entry = some passcode) :
    (selector.checkOut host).value.1.stage = .checkedOut candidate passcode ∧
      (selector.checkOut host).value.2 = .ok ⟨candidate.entry.uri, passcode⟩ := by
  have idle := idle_of_mem_visited visit
  rw [visited_of_idle idle] at visit
  have found := search_of_mem_visits visit unbarred served
  rw [value_checkOut_of_idle idle]
  generalize (selector.search host Limit.ordinals (selector.begin host.files).value
    selector.quarantine).value = outcome at found
  obtain ⟨result, last⟩ := outcome
  subst found
  exact ⟨rfl, rfl⟩

theorem quarantined_mem_judge_iff {host : Host} {quarantine : Quarantine} {candidate : Candidate}
    {uri : String} :
    .certificateQuarantined uri ∈ (judge host quarantine candidate).events ↔
      candidate.entry.uri = uri ∧ Barred host quarantine candidate := by
  cases modified : host.files.modified? candidate.entry.path with
  | none => simp [judge, Barred, modified]
  | some time =>
      have verdict := quarantine.check_fst_eq_quarantined_iff candidate.ordinal time
      simp only [judge, Barred, modified, Option.some.injEq, exists_eq_left', ← verdict]
      obtain ⟨judged, checked⟩ := quarantine.check candidate.ordinal time
      cases judged <;> simp [eq_comm]

theorem quarantined_not_mem_unlock (host : Host) (entry : Entry) (uri : String) :
    .certificateQuarantined uri ∉ (unlock host entry).events := by
  rw [unlock]
  cases host.credentials entry.credentialRef with
  | error fault => simp
  | ok value => cases filled : Passcode.ofValue? value <;> simp [filled]

theorem quarantined_mem_attempt_iff {host : Host} {quarantine : Quarantine}
    {candidate : Candidate} {uri : String} :
    .certificateQuarantined uri ∈ (attempt host quarantine candidate).events ↔
      candidate.entry.uri = uri ∧ Barred host quarantine candidate := by
  rw [attempt, Logged.events_bind, List.mem_append, quarantined_mem_judge_iff]
  apply or_iff_left
  obtain ⟨usable, judged⟩ := (judge host quarantine candidate).value
  cases usable with
  | false => simp
  | true => simpa using quarantined_not_mem_unlock host candidate.entry uri

theorem quarantined_not_mem_seek (selector : Selector) (files : FileTree) (ordinal : Nat)
    (uri : String) : .certificateQuarantined uri ∉ (selector.seek files ordinal).events := by
  rw [seek]
  cases Lookup.inGroup files selector.configPath selector.group ordinal <;> simp

theorem quarantined_not_mem_begin (selector : Selector) (files : FileTree) (uri : String) :
    .certificateQuarantined uri ∉ (selector.begin files).events := by
  rw [begin]
  cases selector.candidate? with
  | none => exact quarantined_not_mem_seek selector files 0 uri
  | some candidate => simp

theorem quarantined_not_mem_of_not_idle {selector : Selector} (busy : ¬selector.Idle) (host : Host)
    (uri : String) : .certificateQuarantined uri ∉ (selector.checkOut host).events := by
  rw [idle_iff] at busy
  cases stage : selector.stage with
  | ready candidate? => exact absurd (.inl ⟨candidate?, stage⟩) busy
  | exhausted => exact absurd (.inr stage) busy
  | checkedOut candidate passcode => simp [checkOut, stage]
  | destroyed => simp [checkOut, stage]

theorem events_search_zero (selector : Selector) (host : Host)
    (first : Except LookupFault Candidate) (quarantine : Quarantine) :
    (selector.search host 0 first quarantine).events = [] := by
  cases first <;> rfl

theorem events_search_taken {host : Host} {quarantine : Quarantine} {candidate : Candidate}
    {passcode : Passcode} (selector : Selector) (tries : Nat)
    (tried : (attempt host quarantine candidate).value.1 = some passcode) :
    (selector.search host (tries + 1) (.ok candidate) quarantine).events =
      (attempt host quarantine candidate).events := by
  rw [search_succ, Logged.events_bind]
  generalize (attempt host quarantine candidate).value = outcome at tried
  obtain ⟨passcode?, judged⟩ := outcome
  simp only at tried
  subst tried
  exact List.append_nil _

theorem events_search_skipped {host : Host} {quarantine : Quarantine} {candidate : Candidate}
    (selector : Selector) (tries : Nat)
    (tried : (attempt host quarantine candidate).value.1 = none) :
    (selector.search host (tries + 1) (.ok candidate) quarantine).events =
      (attempt host quarantine candidate).events ++
        ((selector.seek host.files (candidate.ordinal + 1)).events ++
          (selector.search host tries (selector.entryAt host.files (candidate.ordinal + 1))
            (attempt host quarantine candidate).value.2).events) := by
  rw [search_succ, Logged.events_bind]
  generalize (attempt host quarantine candidate).value = outcome at tried
  obtain ⟨passcode?, judged⟩ := outcome
  simp only at tried
  subst tried
  rw [Logged.events_bind, value_seek]

theorem quarantined_mem_search_iff {selector : Selector} {host : Host} {tries : Nat}
    {first : Except LookupFault Candidate} {quarantine : Quarantine} {uri : String} :
    .certificateQuarantined uri ∈ (selector.search host tries first quarantine).events ↔
      ∃ candidate ∈ selector.visits host tries first quarantine,
        candidate.entry.uri = uri ∧ Barred host quarantine candidate := by
  induction tries generalizing first quarantine with
  | zero => cases first <;> simp [events_search_zero, visits]
  | succ tries ih =>
      cases first with
      | error fault => simp [search_error, visits]
      | ok lowest =>
          cases tried : (attempt host quarantine lowest).value.1 with
          | some passcode =>
              rw [events_search_taken selector tries tried, visits_taken selector tries tried]
              simp [quarantined_mem_attempt_iff]
          | none =>
              rw [events_search_skipped selector tries tried, visits_skipped selector tries tried,
                List.mem_append, List.mem_append, quarantined_mem_attempt_iff, ih,
                or_iff_right (quarantined_not_mem_seek selector host.files _ uri)]
              simp only [List.mem_cons, exists_eq_or_imp]
              refine or_congr_right (exists_congr fun candidate => and_congr_right fun member => ?_)
              rw [barred_attempt_of_ne (Nat.ne_of_lt (lt_of_mem_visits member))]

/-- The log of a check-out names the certificates that it passes over as quarantined. -/
theorem quarantined_mem_checkOut_iff {selector : Selector} {host : Host} {uri : String} :
    .certificateQuarantined uri ∈ (selector.checkOut host).events ↔
      ∃ candidate, Skipped selector host candidate ∧ candidate.entry.uri = uri := by
  by_cases idle : selector.Idle
  · have searched : .certificateQuarantined uri ∈ (selector.search host Limit.ordinals
        (selector.begin host.files).value selector.quarantine).events ↔
        ∃ candidate, Skipped selector host candidate ∧ candidate.entry.uri = uri := by
      rw [quarantined_mem_search_iff, ← visited_of_idle idle]
      constructor
      · rintro ⟨candidate, visit, named, barred⟩
        exact ⟨candidate, ⟨visit, barred⟩, named⟩
      · rintro ⟨candidate, ⟨visit, barred⟩, named⟩
        exact ⟨candidate, visit, named, barred⟩
    rw [checkOut_of_idle idle, Logged.events_bind, List.mem_append,
      or_iff_right (quarantined_not_mem_begin selector host.files uri), Logged.events_bind,
      List.mem_append, searched]
    -- What is logged after the search tells how it ended.
    apply or_iff_left
    generalize (selector.search host Limit.ordinals (selector.begin host.files).value
      selector.quarantine).value = outcome
    obtain ⟨result, last⟩ := outcome
    cases result with
    | error fault => cases fault <;> simp [giveUp]
    | ok found => simp
  · refine iff_of_false (quarantined_not_mem_of_not_idle idle host uri) ?_
    rintro ⟨candidate, skipped, _⟩
    exact idle (idle_of_mem_visited skipped.visit)

end CertFailover.Selector
