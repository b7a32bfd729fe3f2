import CertFailover.Proofs.Registers

/-!
Selectors refine the machine of registers. From the registers of a sound selector the machine gives
the replies and the events of the selector and ends in the registers of the selector afterwards,
whatever the fallback is; so no fallback is ever taken.
-/

namespace CertFailover

theorem Logged.bind_congr {α β : Type} {first : Logged α} {next other : α → Logged β}
    (same : next first.value = other first.value) : first >>= next = first >>= other := by
  simp only [Bind.bind, same]

def Registers.found (registers : Registers) :
    Except LookupFault Candidate → Registers × Except LookupFault Unit
  | .ok candidate =>
    ({ registers with index := candidate.ordinal, candidate? := some candidate.entry }, .ok ())
  | .error fault => ({ registers with candidate? := none }, .error fault)

namespace Selector

def registersAt (selector : Selector) (quarantine : Quarantine) (candidate : Candidate) :
    Registers :=
  { selector.registers with
    index := candidate.ordinal, candidate? := some candidate.entry, quarantine := quarantine,
    secret := .empty }

def registersSearched (selector : Selector) :
    Except LookupFault (Candidate × Passcode) × Quarantine →
      Logged (Registers × Except Fault Unit)
  | (.ok (candidate, passcode), quarantine) =>
    pure ({ selector.registersAt quarantine candidate with secret := passcode }, .ok ())
  | (.error fault, quarantine) => do
    let cause ← selector.giveUp fault
    pure
      ({ selector.registers with
        index := 0, candidate? := none, quarantine := quarantine, secret := .empty },
        .error cause)

theorem registers_locate (selector : Selector) (files : FileTree) {registers : Registers}
    (configPath : registers.configPath = selector.configPath)
    (group : registers.group = selector.group) :
    registers.locate files = registers.found <$> selector.seek files registers.index := by
  rw [Registers.locate, seek, ← configPath, ← group]
  cases Lookup.inGroup files registers.configPath registers.group registers.index <;> rfl

theorem registers_giveUp (selector : Selector) (quarantine : Quarantine) (ordinal : Nat)
    (fault : LookupFault) :
    Registers.giveUp
        { selector.registers with
          index := ordinal, candidate? := none, quarantine := quarantine, secret := .empty } fault =
      selector.registersSearched (.error fault, quarantine) := by
  cases fault <;> rfl

theorem registers_unlock (host : Host) (entry : Entry) (registers : Registers) :
    Registers.unlock { registers with secret := .empty } host entry =
      (fun passcode? => ({ registers with secret := passcode?.getD .empty }, passcode?.isSome)) <$>
        unlock host entry := by
  rw [Registers.unlock, unlock]
  cases host.credentials entry.credentialRef with
  | error fault => rfl
  | ok value =>
      simp only [Passcode.fill]
      cases Passcode.ofValue? value <;> rfl

theorem registers_attempt (selector : Selector) (host : Host) (quarantine : Quarantine)
    (candidate : Candidate) :
    (selector.registersAt quarantine candidate).attempt host candidate.entry =
      (fun tried =>
        ({ selector.registersAt tried.2 candidate with secret := tried.1.getD .empty },
          tried.1.isSome)) <$> attempt host quarantine candidate := by
  have same : judge host quarantine ⟨candidate.ordinal, candidate.entry⟩ =
      judge host quarantine candidate := rfl
  simp only [Registers.attempt, attempt, registersAt, same, map_bind]
  congr 1
  funext verdict
  obtain ⟨usable, judged⟩ := verdict
  cases usable with
  | false => rfl
  | true =>
      have unlocked := registers_unlock host candidate.entry (selector.registersAt judged candidate)
      refine unlocked.trans ?_
      simp only [bind_pure_comp, Functor.map_map]
      rfl

theorem registers_search (selector : Selector) (host : Host) (fallback : Registers.Fallback)
    (rounds tries : Nat) (quarantine : Quarantine) (candidate : Candidate)
    (enoughRounds : 0 < rounds ∧ Limit.ordinals ≤ candidate.ordinal + rounds)
    (enoughTries : 0 < tries ∧ Limit.ordinals ≤ candidate.ordinal + tries) :
    (selector.registersAt quarantine candidate).search fallback host rounds =
      selector.search host tries (.ok candidate) quarantine >>= selector.registersSearched := by
  -- Rounds and tries need not agree, for either number lasts until the ordinals run out.
  induction rounds generalizing tries quarantine candidate with
  | zero => exact absurd enoughRounds.1 (Nat.lt_irrefl 0)
  | succ rounds ih =>
      obtain ⟨tries, rfl⟩ := Nat.exists_eq_succ_of_ne_zero (Nat.ne_of_gt enoughTries.1)
      have held : (selector.registersAt quarantine candidate).candidate? =
          some candidate.entry := rfl
      rw [Registers.search_succ fallback host rounds held, registers_attempt, search_succ,
        bind_map_left, bind_assoc]
      congr 1
      funext tried
      obtain ⟨passcode?, judged⟩ := tried
      cases passcode? with
      | some passcode => rfl
      | none =>
          have moved : Registers.advance (selector.registersAt judged candidate) host.files =
              Registers.found { selector.registersAt judged candidate with
                index := candidate.ordinal + 1 } <$>
                  selector.seek host.files (candidate.ordinal + 1) :=
            registers_locate selector host.files rfl rfl
          change (Registers.advance (selector.registersAt judged candidate) host.files >>= _) =
            selector.seek host.files (candidate.ordinal + 1) >>= (fun following =>
              selector.search host tries following judged) >>= selector.registersSearched
          rw [moved, bind_map_left, bind_assoc]
          apply Logged.bind_congr
          rw [value_seek]
          cases found : selector.entryAt host.files (candidate.ordinal + 1) with
          | error fault =>
              rw [search_error, pure_bind]
              exact registers_giveUp selector judged (candidate.ordinal + 1) fault
          | ok following =>
              have ordinal := (entryAt_eq_ok_iff.mp found).1
              have bound := entryAt_lt found
              exact ih tries judged following (by omega) (by omega)

theorem registers_of_candidate? {selector : Selector} {candidate : Candidate}
    (idle : selector.Idle) (held : selector.candidate? = some candidate) :
    selector.registers = selector.registersAt selector.quarantine candidate := by
  rw [registersAt]
  simp only [registers, held, ordinal_of_candidate? held, passcode_of_ne idle.ne, Option.map_some]

theorem registers_of_none {selector : Selector} (idle : selector.Idle)
    (empty : selector.candidate? = none) :
    selector.registers = { selector.registers with
      index := 0, candidate? := none, quarantine := selector.quarantine, secret := .empty } := by
  simp only [registers, empty, ordinal_of_none empty, passcode_of_ne idle.ne, Option.map_none]

theorem registers_select {selector : Selector} (idle : selector.Idle) (host : Host)
    (fallback : Registers.Fallback) :
    selector.registers.select fallback host =
      selector.begin host.files >>= fun first =>
        selector.search host Limit.ordinals first selector.quarantine >>=
          selector.registersSearched := by
  have loop (candidate : Candidate) :
      (selector.registersAt selector.quarantine candidate).search fallback host fallback.rounds =
        selector.search host Limit.ordinals (.ok candidate) selector.quarantine >>=
          selector.registersSearched := by
    have enough := fallback.enough
    have some : 0 < Limit.ordinals := by decide
    exact registers_search selector host fallback _ _ selector.quarantine candidate
      (by omega) (by omega)
  cases held : selector.candidate? with
  | some candidate =>
      have begun : selector.begin host.files = pure (.ok candidate) := by rw [begin, held]
      rw [begun, pure_bind, registers_of_candidate? idle held]
      exact loop candidate
  | none =>
      have begun : selector.begin host.files = selector.seek host.files 0 := by rw [begin, held]
      have rewound : selector.registers.rewind host.files =
          Registers.found { selector.registers with index := 0 } <$>
            selector.seek host.files 0 :=
        registers_locate selector host.files rfl rfl
      have candidate? : selector.registers.candidate? = none := by simp [registers, held]
      rw [Registers.select_of_none fallback host candidate?, rewound, begun, bind_map_left,
        registers_of_none idle held]
      apply Logged.bind_congr
      rw [value_seek]
      cases found : selector.entryAt host.files 0 with
      | error fault =>
          rw [search_error, pure_bind]
          exact registers_giveUp selector selector.quarantine 0 fault
      | ok candidate => exact loop candidate

def onRegisters {α : Type} : Selector × α → Registers × α
  | (selector, result) => (selector.registers, result)

theorem registers_checkOut_of_idle {selector : Selector} (idle : selector.Idle) (host : Host)
    (fallback : Registers.Fallback) :
    selector.registers.checkOut fallback host = onRegisters <$> selector.checkOut host := by
  have opened : selector.registers.checkOut fallback host =
      selector.registers.select fallback host >>= Registers.grant fallback := by
    rw [Registers.checkOut]
    rcases idle with phase | phase <;> simp [registers, phase]
  have live : selector.registers.live = true := by
    rcases idle with phase | phase <;> simp [registers, phase]
  rw [opened, checkOut_of_idle idle, registers_select idle, map_bind, bind_assoc]
  congr 1
  funext first
  rw [map_bind, bind_assoc]
  congr 1
  funext searched
  obtain ⟨result, last⟩ := searched
  cases result with
  | error fault =>
      simp only [registersSearched, bind_assoc, pure_bind, map_bind, map_pure]
      congr 1
      funext cause
      simp only [Registers.grant, Registers.wipe, onRegisters, live]
      rfl
  | ok found =>
      obtain ⟨candidate, passcode⟩ := found
      simp only [registersSearched, pure_bind, Registers.grant, registersAt, live, map_bind,
        map_pure]
      rfl

theorem registers_checkOut (selector : Selector) (host : Host) (fallback : Registers.Fallback) :
    selector.registers.checkOut fallback host = onRegisters <$> selector.checkOut host := by
  obtain ⟨configPath, group, engine?, quarantine, stage⟩ := selector
  cases stage with
  | ready candidate? =>
      exact registers_checkOut_of_idle (idle_iff.mpr (.inl ⟨candidate?, rfl⟩)) host fallback
  | exhausted => exact registers_checkOut_of_idle (idle_iff.mpr (.inr rfl)) host fallback
  | checkedOut candidate passcode => rfl
  | destroyed => rfl

theorem registers_succeed {selector : Selector} {candidate : Candidate} {passcode : Passcode}
    (held : selector.stage = .checkedOut candidate passcode) (files : FileTree) :
    (do
      let (after, decision) ← selector.registers.succeed files
      pure (after.wipe, decision)) = onRegisters <$> selector.succeed files candidate := by
  obtain ⟨configPath, group, engine?, quarantine, stage⟩ := selector
  subst held
  obtain ⟨ordinal, entry⟩ := candidate
  simp only [Registers.succeed, succeed, registers, Selector.ordinal, candidate?, Stage.candidate?,
    Option.map_some, Option.getD_some]
  by_cases first : ordinal = 0
  · subst first
    rfl
  · simp only [first, if_false]
    have moved (start : Registers) (path : start.configPath = configPath)
        (same : start.group = group) : start.rewind files =
          Registers.found { start with index := 0 } <$>
            seek ⟨configPath, group, engine?, quarantine.clear ordinal,
              .checkedOut ⟨ordinal, entry⟩ passcode⟩ files 0 :=
      registers_locate _ files path same
    rw [moved _ rfl rfl, bind_map_left, map_bind, bind_assoc]
    apply Logged.bind_congr
    rw [value_seek]
    cases entryAt _ files 0 with
    | error fault => rfl
    | ok found => rfl

theorem registers_reject {selector : Selector} {candidate : Candidate} {passcode : Passcode}
    (held : selector.stage = .checkedOut candidate passcode) (files : FileTree) (code : Nat)
    (endpoint : String) :
    (do
      let (after, decision) ← selector.registers.reject files code endpoint
      pure (after.wipe, decision)) =
        onRegisters <$> selector.reject files candidate code endpoint := by
  obtain ⟨configPath, group, engine?, quarantine, stage⟩ := selector
  subst held
  obtain ⟨ordinal, entry⟩ := candidate
  have moved (start : Registers) (path : start.configPath = configPath)
      (same : start.group = group) (marked : Quarantine) : start.advance files =
        Registers.found { start with index := start.index + 1 } <$>
          seek ⟨configPath, group, engine?, marked, .checkedOut ⟨ordinal, entry⟩ passcode⟩ files
            (start.index + 1) :=
    registers_locate _ files path same
  simp only [Registers.reject, reject, registers, Selector.ordinal, candidate?, Stage.candidate?,
    Option.map_some, Option.getD_some, Option.bind_some]
  rw [moved _ rfl rfl (quarantine.mark ordinal (files.modified? (Entry.pathOfUri entry.uri)))]
  rw [map_bind, bind_assoc]
  apply Logged.bind_congr
  rw [bind_map_left, map_bind, bind_assoc]
  apply Logged.bind_congr
  rw [value_seek]
  cases entryAt _ files (ordinal + 1) with
  | error fault => cases fault <;> rfl
  | ok found => rfl

theorem registers_report (selector : Selector) (bounded : selector.ordinal < Limit.ordinals)
    (fallback : Registers.Fallback) (files : FileTree) (code : Nat) (endpoint : String) :
    selector.registers.report fallback files code endpoint =
      onRegisters <$> selector.report files code endpoint := by
  cases stage : selector.stage with
  | ready candidate? =>
      obtain ⟨configPath, group, engine?, quarantine, _⟩ := selector
      subst stage
      rfl
  | exhausted =>
      obtain ⟨configPath, group, engine?, quarantine, _⟩ := selector
      subst stage
      rfl
  | destroyed =>
      obtain ⟨configPath, group, engine?, quarantine, _⟩ := selector
      subst stage
      rfl
  | checkedOut candidate passcode =>
      have live : selector.registers.live = true := by simp [registers, phase, stage, Stage.phase]
      have current : selector.registers.phase = .readyToCheck := by
        simp [registers, phase, stage, Stage.phase]
      have index : ¬Limit.ordinals ≤ selector.registers.index := Nat.not_le.mpr bounded
      simp only [Registers.report, Registers.settle, live, current, index, Bool.not_true,
        Bool.false_eq_true, ne_eq, not_true_eq_false, if_false, report, stage]
      cases Outcome.ofCode code with
      | success => exact registers_succeed stage files
      | certificateError => exact registers_reject stage files code endpoint
      | other =>
          obtain ⟨configPath, group, engine?, quarantine, _⟩ := selector
          subst stage
          rfl

theorem registers_destroy (selector : Selector) :
    selector.registers.destroy = registers <$> selector.destroy := by
  obtain ⟨configPath, group, engine?, quarantine, stage⟩ := selector
  cases stage <;> rfl

theorem registers_call {selector : Selector} (sound : selector.Sound)
    (fallback : Registers.Fallback) (host : Host) (made : Call) :
    selector.registers.call fallback host made = onRegisters <$> selector.call host made := by
  cases made with
  | checkOut =>
      simp only [Registers.call, call, registers_checkOut, bind_map_left, map_bind]
      rfl
  | report code endpoint =>
      simp only [Registers.call, call, registers_report selector sound.ordinal_lt, bind_map_left,
        map_bind]
      rfl
  | destroy =>
      simp only [Registers.call, call, registers_destroy, bind_map_left, map_bind]
      rfl

/-- A run of the machine is a run of the selector. -/
theorem registers_run {selector : Selector} (sound : selector.Sound)
    (fallback : Registers.Fallback) (steps : List (Host × Call)) :
    selector.registers.run fallback steps = onRegisters <$> selector.run steps := by
  induction steps generalizing selector with
  | nil => rfl
  | cons step rest ih =>
      obtain ⟨host, made⟩ := step
      have next := sound.turn (call_turn selector host made)
      simp only [Registers.run, run, registers_call sound, bind_map_left, map_bind]
      apply Logged.bind_congr
      simp only [onRegisters, ih next, bind_map_left]
      rfl

theorem Made.registers_run {files : FileTree} {selector : Selector} (made : Made files selector)
    (fallback : Registers.Fallback) (steps : List (Host × Call)) :
    (selector.registers.run fallback steps).value.1 =
      (selector.run steps).value.1.registers := by
  rw [Selector.registers_run made.sound]
  rfl

theorem Made.registers_call {files : FileTree} {selector : Selector} (made : Made files selector)
    (fallback : Registers.Fallback) (steps : List (Host × Call)) (host : Host) (call : Call) :
    ((selector.registers.run fallback steps).value.1.call fallback host call).value =
      onRegisters ((selector.run steps).value.1.call host call).value := by
  rw [made.registers_run, Selector.registers_call (made.sound_run steps), Logged.value_map]

end Selector

end CertFailover
