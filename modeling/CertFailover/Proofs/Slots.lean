import CertFailover.Quarantine

/-!
Slots of a quarantine over any sequence of operations. A slot holds what the last operation left that
has set it, and nothing that is done at other ordinals has a part in it. Beyond the slots nothing is
held.
-/

namespace CertFailover.Quarantine

inductive Operation where
  | mark (ordinal : Nat) (time? : Option Timestamp)
  | clear (ordinal : Nat)
  | check (ordinal : Nat) (time : Timestamp)
  deriving DecidableEq

@[simp] def Operation.ordinal : Operation → Nat
  | mark ordinal _ | clear ordinal | check ordinal _ => ordinal

@[simp] def Operation.left? : Operation → Option Timestamp
  | mark _ time? => time?
  | clear _ | check .. => none

def apply (quarantine : Quarantine) : Operation → Quarantine × Option Verdict
  | .mark ordinal time? => (quarantine.mark ordinal time?, none)
  | .clear ordinal => (quarantine.clear ordinal, none)
  | .check ordinal time =>
    ((quarantine.check ordinal time).2, some (quarantine.check ordinal time).1)

structure Deed where
  operation : Operation
  answer? : Option Verdict
  deriving DecidableEq

/-- Whether the slot of an ordinal was set: by a mark, a clearing, or a check that found the file
renewed. -/
def Deed.sets (ordinal : Nat) : Deed → Bool
  | ⟨.mark own _, _⟩ | ⟨.clear own, _⟩ => own = ordinal
  | ⟨.check own _, answer?⟩ => own = ordinal && answer? = some .renewed

def run (quarantine : Quarantine) : List Operation → Quarantine × List Deed
  | [] => (quarantine, [])
  | next :: rest =>
    let (after, answer?) := quarantine.apply next
    let (last, deeds) := after.run rest
    (last, ⟨next, answer?⟩ :: deeds)

def lastSetting? (ordinal : Nat) (deeds : List Deed) : Option Operation :=
  (deeds.reverse.find? (·.sets ordinal)).map Deed.operation

theorem run_cons (quarantine : Quarantine) (next : Operation) (rest : List Operation) :
    quarantine.run (next :: rest) =
      (((quarantine.apply next).1.run rest).1,
        ⟨next, (quarantine.apply next).2⟩ :: ((quarantine.apply next).1.run rest).2) :=
  rfl

theorem lastSetting?_cons (ordinal : Nat) (deed : Deed) (rest : List Deed) :
    lastSetting? ordinal (deed :: rest) =
      (lastSetting? ordinal rest).or (if deed.sets ordinal then some deed.operation else none) := by
  rw [lastSetting?, lastSetting?, List.reverse_cons, List.find?_append, Option.map_or]
  cases own : deed.sets ordinal <;> simp [own]

theorem Deed.ordinal_of_sets {ordinal : Nat} {deed : Deed} (own : deed.sets ordinal = true) :
    deed.operation.ordinal = ordinal := by
  obtain ⟨operation, answer?⟩ := deed
  cases operation with
  | mark | clear => simpa [sets] using own
  | check =>
      simp only [sets, Bool.and_eq_true, decide_eq_true_eq] at own
      exact own.1

theorem ordinal_of_lastSetting? {ordinal : Nat} {deeds : List Deed} {operation : Operation}
    (last : lastSetting? ordinal deeds = some operation) : operation.ordinal = ordinal := by
  obtain ⟨deed, found, rfl⟩ := Option.map_eq_some_iff.mp last
  exact Deed.ordinal_of_sets (List.find?_some found)

def judged (held? : Option Timestamp) (time : Timestamp) : Verdict :=
  match held? with
  | none => .usable
  | some marked => if marked = time then .quarantined else .renewed

theorem check_fst (quarantine : Quarantine) (ordinal : Nat) (time : Timestamp) :
    (quarantine.check ordinal time).1 = judged (quarantine.slot? ordinal) time := by
  rw [check]
  cases quarantine.slot? ordinal with
  | none => rfl
  | some marked => by_cases same : marked = time <;> simp [judged, same]

theorem judged_eq_quarantined_iff {held? : Option Timestamp} {time : Timestamp} :
    judged held? time = .quarantined ↔ held? = some time := by
  cases held? with
  | none => simp [judged]
  | some marked => by_cases same : marked = time <;> simp [judged, same]

theorem judged_eq_renewed_iff {held? : Option Timestamp} {time : Timestamp} :
    judged held? time = .renewed ↔ ∃ marked, marked ≠ time ∧ held? = some marked := by
  cases held? with
  | none => simp [judged]
  | some marked => by_cases same : marked = time <;> simp [judged, same]

theorem judged_eq_usable_iff {held? : Option Timestamp} {time : Timestamp} :
    judged held? time = .usable ↔ held? = none := by
  cases held? with
  | none => simp [judged]
  | some marked => by_cases same : marked = time <;> simp [judged, same]

theorem apply_congr {quarantine other : Quarantine} {operation : Operation}
    (same : quarantine.slot? operation.ordinal = other.slot? operation.ordinal) :
    (quarantine.apply operation).2 = (other.apply operation).2 ∧
      (quarantine.apply operation).1.slot? operation.ordinal =
        (other.apply operation).1.slot? operation.ordinal := by
  cases operation with
  | mark ordinal time? => simp_all [apply]
  | clear ordinal => simp [apply]
  | check ordinal time => simp_all [apply, check_fst, slot?_check]

theorem slot?_apply_of_ne (quarantine : Quarantine) {operation : Operation} {ordinal : Nat}
    (apart : operation.ordinal ≠ ordinal) :
    (quarantine.apply operation).1.slot? ordinal = quarantine.slot? ordinal := by
  cases operation with
  | mark own time? => exact (slot?_mark ..).trans (if_neg fun both => apart both.1)
  | clear own => exact (slot?_clear ..).trans (if_neg apart)
  | check own time => exact (slot?_check ..).trans (if_neg fun both => apart both.1)

theorem slot?_apply_self (quarantine : Quarantine) {operation : Operation}
    (bound : operation.ordinal < Limit.ordinals) :
    (quarantine.apply operation).1.slot? operation.ordinal =
      if Deed.sets operation.ordinal ⟨operation, (quarantine.apply operation).2⟩ then
        operation.left?
      else quarantine.slot? operation.ordinal := by
  cases operation with
  | mark ordinal time? =>
      simp only [Operation.ordinal] at bound
      simp [apply, Deed.sets, bound]
  | clear ordinal => simp [apply, Deed.sets]
  | check ordinal time =>
      simp only [apply, Operation.ordinal, Operation.left?, Deed.sets, slot?_check, check_fst]
      cases slot : quarantine.slot? ordinal with
      | none => simp
      | some marked => by_cases same : marked = time <;> simp [judged, same]

theorem slot?_run (quarantine : Quarantine) (operations : List Operation) {ordinal : Nat}
    (bound : ordinal < Limit.ordinals) :
    (quarantine.run operations).1.slot? ordinal =
      ((lastSetting? ordinal (quarantine.run operations).2).map Operation.left?).getD
        (quarantine.slot? ordinal) := by
  induction operations generalizing quarantine with
  | nil => rfl
  | cons next rest ih =>
      rw [run_cons, ih, lastSetting?_cons]
      cases lastSetting? ordinal ((quarantine.apply next).1.run rest).2 with
      | some later => rfl
      | none =>
          by_cases own : next.ordinal = ordinal
          · subst own
            rw [slot?_apply_self quarantine bound]
            cases Deed.sets next.ordinal ⟨next, (quarantine.apply next).2⟩ <;> rfl
          · have idle : Deed.sets ordinal ⟨next, (quarantine.apply next).2⟩ = false := by
              rw [← Bool.not_eq_true]
              exact fun sets => own (Deed.ordinal_of_sets sets)
            rw [slot?_apply_of_ne quarantine own, idle]
            rfl

theorem slot?_run_empty_iff {operations : List Operation} {ordinal : Nat}
    (bound : ordinal < Limit.ordinals) {time : Timestamp} :
    (empty.run operations).1.slot? ordinal = some time ↔
      lastSetting? ordinal (empty.run operations).2 = some (.mark ordinal (some time)) := by
  rw [slot?_run empty operations bound, slot?_empty]
  cases last : lastSetting? ordinal (empty.run operations).2 with
  | none => simp
  | some operation =>
      have own := ordinal_of_lastSetting? last
      cases operation with
      | mark other time? => simp_all
      | clear | check => simp

theorem run_filter {quarantine other : Quarantine} {ordinal : Nat}
    (same : quarantine.slot? ordinal = other.slot? ordinal) (operations : List Operation) :
    let alone := other.run (operations.filter (·.ordinal = ordinal))
    (quarantine.run operations).2.filter (·.operation.ordinal = ordinal) = alone.2 ∧
      (quarantine.run operations).1.slot? ordinal = alone.1.slot? ordinal := by
  intro alone
  induction operations generalizing quarantine other with
  | nil => exact ⟨rfl, same⟩
  | cons next rest ih =>
      by_cases own : next.ordinal = ordinal
      · subst own
        obtain ⟨answer, left⟩ := apply_congr same
        obtain ⟨deeds, slot⟩ := ih left
        simp only [alone, run_cons, List.filter_cons, decide_true, if_true, answer]
        exact ⟨congrArg _ deeds, slot⟩
      · obtain ⟨deeds, slot⟩ := ih ((slot?_apply_of_ne quarantine own).trans same)
        simp only [alone, run_cons, List.filter_cons, own, decide_false, Bool.false_eq_true,
          if_false]
        exact ⟨deeds, slot⟩

theorem slot?_run_of_apart {quarantine : Quarantine} {ordinal : Nat} {operations : List Operation}
    (apart : ∀ operation ∈ operations, operation.ordinal ≠ ordinal) :
    (quarantine.run operations).1.slot? ordinal = quarantine.slot? ordinal := by
  have none : operations.filter (·.ordinal = ordinal) = [] := by
    rw [List.filter_eq_nil_iff]
    intro operation member
    rw [decide_eq_true_eq]
    exact apart operation member
  rw [(run_filter rfl operations).2, none, run]

theorem mark_of_limit_le (quarantine : Quarantine) {ordinal : Nat} (time? : Option Timestamp)
    (beyond : Limit.ordinals ≤ ordinal) : quarantine.mark ordinal time? = quarantine := by
  rw [mark, Vector.setIfInBounds_eq_of_size_le beyond]

theorem apply_of_limit_le (quarantine : Quarantine) {operation : Operation}
    (beyond : Limit.ordinals ≤ operation.ordinal) : (quarantine.apply operation).1 = quarantine := by
  cases operation with
  | mark ordinal time? => exact mark_of_limit_le quarantine time? beyond
  | clear ordinal => exact mark_of_limit_le quarantine none beyond
  | check ordinal time => rw [apply, check, slot?_of_limit_le quarantine ordinal beyond]

structure Reads (quarantine : Quarantine) (ordinal : Nat) (last? : Option Operation) : Prop where
  isQuarantined : quarantine.isQuarantined ordinal = true ↔
    ∃ marked, last? = some (.mark ordinal (some marked))
  quarantined : ∀ time, (quarantine.check ordinal time).1 = .quarantined ↔
    last? = some (.mark ordinal (some time))
  renewed : ∀ time, (quarantine.check ordinal time).1 = .renewed ↔
    ∃ marked, marked ≠ time ∧ last? = some (.mark ordinal (some marked))
  usable : ∀ time, (quarantine.check ordinal time).1 = .usable ↔
    ∀ marked, last? ≠ some (.mark ordinal (some marked))
  emptied : ∀ time, (quarantine.check ordinal time).1 = .renewed →
    let checked := (quarantine.check ordinal time).2
    checked.isQuarantined ordinal = false ∧
      ∀ others : List Operation, (∀ operation ∈ others, operation.ordinal ≠ ordinal) →
        ∀ later, ((checked.run others).1.check ordinal later).1 = .usable

theorem reads_run {operations : List Operation} {ordinal : Nat}
    (bound : ordinal < Limit.ordinals) :
    Reads (empty.run operations).1 ordinal
      (lastSetting? ordinal (empty.run operations).2) := by
  constructor
  · simp only [isQuarantined_iff, slot?_run_empty_iff bound]
  · simp only [check_fst, judged_eq_quarantined_iff, slot?_run_empty_iff bound, implies_true]
  · simp only [check_fst, judged_eq_renewed_iff, slot?_run_empty_iff bound, implies_true]
  · simp only [check_fst, judged_eq_usable_iff, Option.eq_none_iff_forall_ne_some, ne_eq,
      slot?_run_empty_iff bound, implies_true]
  · intro time renewed checked
    have vacant : checked.slot? ordinal = none := by
      rw [check_fst, judged_eq_renewed_iff] at renewed
      obtain ⟨marked, unlike, held⟩ := renewed
      simp [checked, slot?_check, held, unlike]
    refine ⟨(isQuarantined_eq_false_iff checked ordinal).mpr vacant, ?_⟩
    intro others apart later
    rw [check_fst, judged_eq_usable_iff, slot?_run_of_apart apart]
    exact vacant

/-- The slots of a quarantine are registers, each on its own. What is read of one is decided by the
last operation that has set it, an ordinal beyond the slots has none, and each ordinal answers as if
nothing were done at the others. -/
theorem slots_exact (operations : List Operation) :
    let quarantine := (empty.run operations).1
    let deeds := (empty.run operations).2
    (∀ ordinal < Limit.ordinals, Reads quarantine ordinal (lastSetting? ordinal deeds)) ∧
      (∀ operation : Operation, Limit.ordinals ≤ operation.ordinal →
        (quarantine.apply operation).1 = quarantine ∧
          quarantine.isQuarantined operation.ordinal = false ∧
          ∀ time, (quarantine.check operation.ordinal time).1 = .usable) ∧
      (∀ (operation : Operation) (ordinal : Nat), operation.ordinal ≠ ordinal →
        (quarantine.apply operation).1.slot? ordinal = quarantine.slot? ordinal) ∧
      ∀ ordinal,
        let alone := empty.run (operations.filter (·.ordinal = ordinal))
        deeds.filter (·.operation.ordinal = ordinal) = alone.2 ∧
          quarantine.slot? ordinal = alone.1.slot? ordinal := by
  intro quarantine deeds
  refine ⟨fun _ => reads_run, ?_, fun _ _ => slot?_apply_of_ne quarantine,
    fun _ => run_filter rfl operations⟩
  intro operation beyond
  have vacant := slot?_of_limit_le quarantine operation.ordinal beyond
  refine ⟨apply_of_limit_le quarantine beyond, ?_, ?_⟩
  · exact (isQuarantined_eq_false_iff quarantine operation.ordinal).mpr vacant
  · intro time
    rw [check_fst, judged_eq_usable_iff]
    exact vacant

theorem slots_exact_sample :
    let time := Timestamp.ofSeconds 1000 0
    let later := Timestamp.ofSeconds 1000 1
    let operations : List Operation :=
      [.mark 1 (some time), .mark 0 (some later), .check 1 time, .mark 6 (some time), .clear 0]
    let quarantine := (empty.run operations).1
    let checked := (quarantine.check 1 later).2
    quarantine.isQuarantined 1 = true ∧ (quarantine.check 1 time).1 = .quarantined ∧
      (quarantine.check 1 later).1 = .renewed ∧
      ((checked.run [.mark 0 (some time)]).1.check 1 time).1 = .usable ∧
      (quarantine.check 0 later).1 = .usable ∧
      (quarantine.apply (.mark 6 (some later))).1 = quarantine ∧
      quarantine.slot? 1 = (empty.run [.mark 1 (some time), .check 1 time]).1.slot? 1 := by
  intro time later operations quarantine checked
  obtain ⟨within, beyond, _, apart⟩ := slots_exact operations
  have first := within 0 (by decide)
  have second := within 1 (by decide)
  have cleared : lastSetting? 0 (empty.run operations).2 = some (.clear 0) := by decide
  have marked : lastSetting? 1 (empty.run operations).2 = some (.mark 1 (some time)) := by decide
  have renewed : (quarantine.check 1 later).1 = .renewed :=
    (second.renewed later).mpr ⟨time, by decide, marked⟩
  refine ⟨second.isQuarantined.mpr ⟨time, marked⟩, (second.quarantined time).mpr marked, renewed,
    (second.emptied later renewed).2 _ (by decide) time, (first.usable later).mpr ?_,
    (beyond (.mark 6 (some later)) (by decide)).1, (apart 1).2⟩
  rw [cleared]
  simp

end CertFailover.Quarantine
