import CertFailover.Proofs.Entries
import CertFailover.Selector.CheckOut

/-!
What a search finds. One attempt depends on the slot of its own ordinal only and changes no other,
and a search is a row of attempts at ascending ordinals, of which the last one succeeds or is
followed by a lookup that fails.
-/

namespace CertFailover.Selector

def entryAt (selector : Selector) (files : FileTree) (ordinal : Nat) :
    Except LookupFault Candidate :=
  (Lookup.inGroup files selector.configPath selector.group ordinal).map (⟨ordinal, ·⟩)

@[simp] theorem value_seek (selector : Selector) (files : FileTree) (ordinal : Nat) :
    (selector.seek files ordinal).value = selector.entryAt files ordinal := by
  simp only [seek, entryAt]
  cases Lookup.inGroup files selector.configPath selector.group ordinal <;> rfl

theorem entryAt_eq_ok_iff {selector : Selector} {files : FileTree} {ordinal : Nat}
    {candidate : Candidate} :
    selector.entryAt files ordinal = .ok candidate ↔
      candidate.ordinal = ordinal ∧
        Lookup.inGroup files selector.configPath selector.group ordinal = .ok candidate.entry := by
  obtain ⟨number, entry⟩ := candidate
  simp only [entryAt]
  cases Lookup.inGroup files selector.configPath selector.group ordinal with
  | error fault => simp [Except.map]
  | ok found => simp [Except.map, eq_comm]

theorem entryAt_eq_error_iff {selector : Selector} {files : FileTree} {ordinal : Nat}
    {fault : LookupFault} :
    selector.entryAt files ordinal = .error fault ↔
      Lookup.inGroup files selector.configPath selector.group ordinal = .error fault := by
  simp only [entryAt]
  cases Lookup.inGroup files selector.configPath selector.group ordinal <;> simp [Except.map]

theorem entryAt_lt {selector : Selector} {files : FileTree} {ordinal : Nat}
    {candidate : Candidate} (found : selector.entryAt files ordinal = .ok candidate) :
    ordinal < Limit.ordinals :=
  Lookup.inGroup_lt (entryAt_eq_ok_iff.mp found).2

theorem entryAt_congr {selector next : Selector} (path : next.configPath = selector.configPath)
    (group : next.group = selector.group) : next.entryAt = selector.entryAt := by
  funext files ordinal
  rw [entryAt, entryAt, path, group]

def refusal (selector : Selector) : LookupFault → Fault
  | .noEntry => .groupExhausted selector.group
  | .config fault => .config fault

theorem refusal_congr (selector : Selector) {next : Selector}
    (group : next.group = selector.group) : next.refusal = selector.refusal := by
  funext fault
  cases fault with
  | noEntry => rw [refusal, refusal, group]
  | config cause => rfl

@[simp] theorem value_giveUp (selector : Selector) (fault : LookupFault) :
    (selector.giveUp fault).value = selector.refusal fault := by
  cases fault <;> rfl

theorem value_begin (selector : Selector) (files : FileTree) :
    (selector.begin files).value =
      selector.candidate?.elim (selector.entryAt files 0) .ok := by
  rw [begin]
  cases selector.candidate? with
  | none => exact value_seek selector files 0
  | some candidate => rfl

/-- A candidate in quarantine, for its file still has the time that its slot remembers. -/
def Barred (host : Host) (quarantine : Quarantine) (candidate : Candidate) : Prop :=
  ∃ time, host.files.modified? candidate.entry.path = some time ∧
    quarantine.slot? candidate.ordinal = some time

def service? (host : Host) (entry : Entry) : Option Passcode :=
  (host.files.modified? entry.path).bind fun _ => (unlock host entry).value

theorem value_unlock (host : Host) (entry : Entry) :
    (unlock host entry).value =
      (host.credentials entry.credentialRef).toOption.bind Passcode.ofValue? := by
  rw [unlock]
  cases host.credentials entry.credentialRef with
  | error fault => rfl
  | ok value =>
      simp only [Except.toOption, Option.bind_some]
      cases Passcode.ofValue? value <;> rfl

theorem service?_eq_some_iff {host : Host} {entry : Entry} {passcode : Passcode} :
    service? host entry = some passcode ↔
      (host.files.modified? entry.path).isSome ∧
        ∃ value, host.credentials entry.credentialRef = .ok value ∧
          Passcode.Whole value passcode.bytes := by
  simp only [service?, value_unlock]
  cases host.files.modified? entry.path with
  | none => simp
  | some time =>
      cases host.credentials entry.credentialRef with
      | error fault => simp [Except.toOption]
      | ok value => simp [Except.toOption, Passcode.ofValue?_eq_some_iff]

theorem attempt_of_missing {host : Host} {candidate : Candidate} (quarantine : Quarantine)
    (missing : host.files.modified? candidate.entry.path = none) :
    (attempt host quarantine candidate).value = (none, quarantine.clear candidate.ordinal) := by
  simp [attempt, judge, missing]

theorem attempt_of_modified {host : Host} {candidate : Candidate} {time : Timestamp}
    (quarantine : Quarantine)
    (modified : host.files.modified? candidate.entry.path = some time) :
    (attempt host quarantine candidate).value =
      (if quarantine.slot? candidate.ordinal = some time then none
        else (unlock host candidate.entry).value,
        (quarantine.check candidate.ordinal time).2) := by
  have verdict := quarantine.check_fst_eq_quarantined_iff candidate.ordinal time
  simp only [attempt, judge, modified, ← verdict]
  obtain ⟨judged, after⟩ := quarantine.check candidate.ordinal time
  cases judged <;> rfl

theorem attempt_eq_some_iff {host : Host} {quarantine : Quarantine} {candidate : Candidate}
    {passcode : Passcode} :
    (attempt host quarantine candidate).value.1 = some passcode ↔
      ¬Barred host quarantine candidate ∧ service? host candidate.entry = some passcode := by
  cases modified : host.files.modified? candidate.entry.path with
  | none => simp [attempt_of_missing quarantine modified, service?, modified]
  | some time =>
      rw [attempt_of_modified quarantine modified]
      by_cases barred : quarantine.slot? candidate.ordinal = some time <;>
        simp [Barred, service?, modified, barred]

theorem attempt_eq_none_iff {host : Host} {quarantine : Quarantine} {candidate : Candidate} :
    (attempt host quarantine candidate).value.1 = none ↔
      Barred host quarantine candidate ∨ service? host candidate.entry = none := by
  rw [Option.eq_none_iff_forall_ne_some, Option.eq_none_iff_forall_ne_some]
  simp only [ne_eq, attempt_eq_some_iff, not_and]
  by_cases barred : Barred host quarantine candidate <;> simp [barred]

theorem slot?_attempt (host : Host) (quarantine : Quarantine) (candidate : Candidate)
    (ordinal : Nat) :
    (attempt host quarantine candidate).value.2.slot? ordinal =
      open Classical in
      if candidate.ordinal = ordinal ∧ ¬Barred host quarantine candidate then none
      else quarantine.slot? ordinal := by
  cases modified : host.files.modified? candidate.entry.path with
  | none =>
      have unbarred : ¬Barred host quarantine candidate := by simp [Barred, modified]
      simp [attempt_of_missing quarantine modified, unbarred]
  | some time =>
      have barred : Barred host quarantine candidate ↔
          quarantine.slot? candidate.ordinal = some time := by simp [Barred, modified]
      rw [attempt_of_modified quarantine modified, Quarantine.slot?_check]
      simp [barred]

theorem slot?_attempt_of_ne {host : Host} {quarantine : Quarantine} {candidate : Candidate}
    {ordinal : Nat} (other : candidate.ordinal ≠ ordinal) :
    (attempt host quarantine candidate).value.2.slot? ordinal = quarantine.slot? ordinal := by
  rw [slot?_attempt, if_neg fun both => other both.1]

theorem barred_congr {host : Host} {quarantine last : Quarantine} {candidate : Candidate}
    (same : last.slot? candidate.ordinal = quarantine.slot? candidate.ordinal) :
    Barred host last candidate ↔ Barred host quarantine candidate := by
  rw [Barred, Barred, same]

theorem barred_attempt_of_ne {host : Host} {quarantine : Quarantine}
    {candidate other : Candidate} (different : candidate.ordinal ≠ other.ordinal) :
    Barred host (attempt host quarantine candidate).value.2 other ↔
      Barred host quarantine other :=
  barred_congr (slot?_attempt_of_ne different)

/-- The row of attempts that a search makes: from what a lookup gave and the quarantine before, to
the result and the quarantine afterwards. -/
inductive Searched (selector : Selector) (host : Host) :
    Except LookupFault Candidate → Quarantine →
      Except LookupFault (Candidate × Passcode) → Quarantine → Prop
  | stopped (fault : LookupFault) (quarantine : Quarantine) :
      Searched selector host (.error fault) quarantine (.error fault) quarantine
  | taken {candidate quarantine passcode} :
      (attempt host quarantine candidate).value.1 = some passcode →
      Searched selector host (.ok candidate) quarantine (.ok (candidate, passcode))
        (attempt host quarantine candidate).value.2
  | skipped {candidate quarantine result last} :
      (attempt host quarantine candidate).value.1 = none →
      Searched selector host (selector.entryAt host.files (candidate.ordinal + 1))
        (attempt host quarantine candidate).value.2 result last →
      Searched selector host (.ok candidate) quarantine result last

theorem search_taken {host : Host} {quarantine : Quarantine} {candidate : Candidate}
    {passcode : Passcode} (selector : Selector) (tries : Nat)
    (tried : (attempt host quarantine candidate).value.1 = some passcode) :
    (selector.search host (tries + 1) (.ok candidate) quarantine).value =
      (.ok (candidate, passcode), (attempt host quarantine candidate).value.2) := by
  rw [search_succ, Logged.value_bind]
  generalize (attempt host quarantine candidate).value = outcome at tried
  obtain ⟨passcode?, judged⟩ := outcome
  simp only at tried
  subst tried
  rfl

theorem search_skipped {host : Host} {quarantine : Quarantine} {candidate : Candidate}
    (selector : Selector) (tries : Nat)
    (tried : (attempt host quarantine candidate).value.1 = none) :
    (selector.search host (tries + 1) (.ok candidate) quarantine).value =
      (selector.search host tries (selector.entryAt host.files (candidate.ordinal + 1))
        (attempt host quarantine candidate).value.2).value := by
  rw [search_succ, Logged.value_bind]
  generalize (attempt host quarantine candidate).value = outcome at tried
  obtain ⟨passcode?, judged⟩ := outcome
  simp only at tried
  subst tried
  rw [Logged.value_bind, value_seek]

theorem search_searched (selector : Selector) (host : Host) (tries : Nat)
    (first : Except LookupFault Candidate) (quarantine : Quarantine)
    (enough : ∀ candidate, first = .ok candidate →
      0 < tries ∧ Limit.ordinals ≤ candidate.ordinal + tries) :
    Searched selector host first quarantine
      (selector.search host tries first quarantine).value.1
      (selector.search host tries first quarantine).value.2 := by
  induction tries generalizing first quarantine with
  | zero =>
      cases first with
      | error fault => exact .stopped fault quarantine
      | ok candidate => exact absurd (enough candidate rfl).1 (Nat.lt_irrefl 0)
  | succ tries ih =>
      cases first with
      | error fault => exact .stopped fault quarantine
      | ok candidate =>
          cases tried : (attempt host quarantine candidate).value.1 with
          | some passcode =>
              have last : Searched selector host (.ok candidate) quarantine _ _ := .taken tried
              simpa only [search_taken selector tries tried] using last
          | none =>
              rw [search_skipped selector tries tried]
              apply Searched.skipped tried
              apply ih
              intro next found
              have bound := entryAt_lt found
              have same := (entryAt_eq_ok_iff.mp found).1
              have room := (enough candidate rfl).2
              omega

theorem Searched.served {selector : Selector} {host : Host} {candidate : Candidate}
    {passcode : Passcode} {first : Except LookupFault Candidate} {quarantine last : Quarantine}
    (searched : Searched selector host first quarantine (.ok (candidate, passcode)) last) :
    service? host candidate.entry = some passcode := by
  generalize found : Except.ok (candidate, passcode) = result at searched
  induction searched with
  | stopped fault quarantine => cases found
  | taken tried =>
      cases found
      exact (attempt_eq_some_iff.mp tried).2
  | skipped _ _ ih => exact ih found

def Passed (host : Host) (quarantine : Quarantine) (candidate : Candidate) : Prop :=
  Barred host quarantine candidate ∨ service? host candidate.entry = none

def met (selector : Selector) (files : FileTree) (ordinal : Nat)
    (first : Except LookupFault Candidate) (current : Nat) : Except LookupFault Candidate :=
  if current = ordinal then first else selector.entryAt files current

/-- A search from `ordinal` that ends at `stop`, in terms of the quarantine before it alone. -/
structure Reached (selector : Selector) (host : Host) (ordinal : Nat)
    (first : Except LookupFault Candidate) (quarantine : Quarantine)
    (result : Except LookupFault (Candidate × Passcode)) (last : Quarantine) (stop : Nat) :
    Prop where
  upward : ordinal ≤ stop
  passed : ∀ current, ordinal ≤ current → current < stop →
    ∃ candidate, selector.met host.files ordinal first current = .ok candidate ∧
      Passed host quarantine candidate
  found : ∀ candidate passcode, result = .ok (candidate, passcode) →
    selector.met host.files ordinal first stop = .ok candidate ∧
      ¬Barred host quarantine candidate ∧ service? host candidate.entry = some passcode
  missed : ∀ fault, result = .error fault →
    selector.met host.files ordinal first stop = .error fault
  slots : ∀ current, last.slot? current = quarantine.slot? current ∨
    last.slot? current = none ∧ ordinal ≤ current ∧ current ≤ stop ∧
      ∃ candidate, selector.met host.files ordinal first current = .ok candidate ∧
        ¬Barred host quarantine candidate

theorem met_self (selector : Selector) (files : FileTree) (ordinal : Nat)
    (first : Except LookupFault Candidate) : selector.met files ordinal first ordinal = first := by
  rw [met, if_pos rfl]

theorem met_of_lt {selector : Selector} {files : FileTree} {ordinal current : Nat}
    {first : Except LookupFault Candidate} (above : ordinal < current) :
    selector.met files ordinal first current = selector.entryAt files current := by
  rw [met, if_neg (by omega)]

theorem met_entryAt (selector : Selector) (files : FileTree) (ordinal current : Nat) :
    selector.met files ordinal (selector.entryAt files ordinal) current =
      selector.entryAt files current := by
  rw [met]
  split
  · rename_i same
    rw [same]
  · rfl

theorem met_ordinal {selector : Selector} {files : FileTree} {ordinal current : Nat}
    {first : Except LookupFault Candidate} {candidate : Candidate}
    (own : ∀ candidate, first = .ok candidate → candidate.ordinal = ordinal)
    (found : selector.met files ordinal first current = .ok candidate) :
    candidate.ordinal = current := by
  rw [met] at found
  split at found
  · rename_i same
    rw [same]
    exact own candidate found
  · exact (entryAt_eq_ok_iff.mp found).1

theorem Reached.stopped (selector : Selector) (host : Host) (ordinal : Nat) (fault : LookupFault)
    (quarantine : Quarantine) :
    Reached selector host ordinal (.error fault) quarantine (.error fault) quarantine ordinal := by
  refine ⟨Nat.le_refl _, ?_, ?_, ?_, ?_⟩
  · intro current lower upper
    omega
  · rintro candidate passcode ⟨⟩
  · rintro other ⟨⟩
    exact met_self selector host.files ordinal _
  · intro current
    exact .inl rfl

theorem Reached.taken {host : Host} {candidate : Candidate} {quarantine : Quarantine}
    {passcode : Passcode} (selector : Selector)
    (tried : (attempt host quarantine candidate).value.1 = some passcode) :
    Reached selector host candidate.ordinal (.ok candidate) quarantine (.ok (candidate, passcode))
      (attempt host quarantine candidate).value.2 candidate.ordinal := by
  have here := met_self selector host.files candidate.ordinal (.ok candidate)
  have usable := attempt_eq_some_iff.mp tried
  refine ⟨Nat.le_refl _, ?_, ?_, ?_, ?_⟩
  · intro current lower upper
    omega
  · rintro other code ⟨⟩
    exact ⟨here, usable⟩
  · rintro other ⟨⟩
  · intro current
    by_cases same : candidate.ordinal = current
    · subst same
      right
      rw [slot?_attempt, if_pos ⟨rfl, usable.1⟩]
      exact ⟨rfl, Nat.le_refl _, Nat.le_refl _, candidate, here, usable.1⟩
    · exact .inl (slot?_attempt_of_ne same)

theorem Reached.skipped {selector : Selector} {host : Host} {candidate : Candidate}
    {quarantine last : Quarantine} {result : Except LookupFault (Candidate × Passcode)}
    {stop : Nat} (tried : (attempt host quarantine candidate).value.1 = none)
    (rest : Reached selector host (candidate.ordinal + 1)
      (selector.entryAt host.files (candidate.ordinal + 1))
      (attempt host quarantine candidate).value.2 result last stop) :
    Reached selector host candidate.ordinal (.ok candidate) quarantine result last stop := by
  have here := met_self selector host.files candidate.ordinal (.ok candidate)
  have later {current : Nat} (above : candidate.ordinal < current) :
      selector.met host.files candidate.ordinal (.ok candidate) current =
        selector.met host.files (candidate.ordinal + 1)
          (selector.entryAt host.files (candidate.ordinal + 1)) current := by
    rw [met_of_lt above, met_entryAt]
  -- The slots above are as before, so the quarantine before the attempt says the same of them.
  have barred {current : Nat} {other : Candidate} (above : candidate.ordinal < current)
      (found : selector.met host.files (candidate.ordinal + 1)
        (selector.entryAt host.files (candidate.ordinal + 1)) current = .ok other) :
      Barred host (attempt host quarantine candidate).value.2 other ↔
        Barred host quarantine other := by
    rw [met_entryAt] at found
    have number := (entryAt_eq_ok_iff.mp found).1
    exact barred_attempt_of_ne (by omega)
  have upward := rest.upward
  refine ⟨by omega, ?_, ?_, ?_, ?_⟩
  · intro current lower upper
    by_cases same : current = candidate.ordinal
    · subst same
      exact ⟨candidate, here, attempt_eq_none_iff.mp tried⟩
    · obtain ⟨other, found, passed⟩ := rest.passed current (by omega) upper
      rw [Passed, barred (by omega) found] at passed
      exact ⟨other, (later (by omega)).trans found, passed⟩
  · intro other passcode taken
    obtain ⟨found, unbarred, served⟩ := rest.found other passcode taken
    rw [barred (by omega) found] at unbarred
    exact ⟨(later (by omega)).trans found, unbarred, served⟩
  · intro fault failed
    exact (later (by omega)).trans (rest.missed fault failed)
  · intro current
    rcases rest.slots current with kept | ⟨emptied, lower, upper, other, found, unbarred⟩
    · rw [kept, slot?_attempt]
      split
      · rename_i both
        obtain ⟨same, unbarred⟩ := both
        subst same
        exact .inr ⟨rfl, Nat.le_refl _, by omega, candidate, here, unbarred⟩
      · exact .inl rfl
    · rw [barred (by omega) found] at unbarred
      exact .inr ⟨emptied, by omega, upper, other, (later (by omega)).trans found, unbarred⟩

theorem Searched.reached {selector : Selector} {host : Host}
    {first : Except LookupFault Candidate} {quarantine last : Quarantine}
    {result : Except LookupFault (Candidate × Passcode)}
    (searched : Searched selector host first quarantine result last) (ordinal : Nat)
    (own : ∀ candidate, first = .ok candidate → candidate.ordinal = ordinal) :
    ∃ stop, Reached selector host ordinal first quarantine result last stop := by
  induction searched generalizing ordinal with
  | stopped fault quarantine => exact ⟨ordinal, .stopped selector host ordinal fault quarantine⟩
  | @taken candidate _ _ tried =>
      have here := own candidate rfl
      subst here
      exact ⟨candidate.ordinal, .taken selector tried⟩
  | @skipped candidate _ _ _ tried _ ih =>
      have here := own candidate rfl
      subst here
      obtain ⟨stop, rest⟩ := ih (candidate.ordinal + 1)
        (fun _ found => (entryAt_eq_ok_iff.mp found).1)
      exact ⟨stop, .skipped tried rest⟩

end CertFailover.Selector
