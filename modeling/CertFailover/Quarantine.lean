import CertFailover.Limit
import CertFailover.Timestamp

/-!
The quarantine of a group. Each ordinal has a slot, which remembers the modification time that a
certificate file had when the certificate was reported bad. The certificate stays out of use while
its file keeps that time. Ordinals beyond the slots are never quarantined.
-/

namespace CertFailover

structure Quarantine where
  slots : Vector (Option Timestamp) Limit.ordinals
  deriving DecidableEq

inductive Verdict where
  | usable
  | renewed
  | quarantined
  deriving DecidableEq

namespace Quarantine

def empty : Quarantine :=
  ⟨Vector.replicate Limit.ordinals none⟩

def slot? (quarantine : Quarantine) (ordinal : Nat) : Option Timestamp :=
  quarantine.slots[ordinal]?.join

def isQuarantined (quarantine : Quarantine) (ordinal : Nat) : Bool :=
  (quarantine.slot? ordinal).isSome

def mark (quarantine : Quarantine) (ordinal : Nat) (time? : Option Timestamp) : Quarantine :=
  ⟨quarantine.slots.setIfInBounds ordinal time?⟩

def clear (quarantine : Quarantine) (ordinal : Nat) : Quarantine :=
  quarantine.mark ordinal none

/-- Judges a candidate whose file now has the given time. A slot that holds another time is
emptied, for the file has been renewed since. -/
def check (quarantine : Quarantine) (ordinal : Nat) (time : Timestamp) : Verdict × Quarantine :=
  match quarantine.slot? ordinal with
  | none => (.usable, quarantine)
  | some marked =>
    if marked = time then (.quarantined, quarantine) else (.renewed, quarantine.clear ordinal)

def describe (quarantine : Quarantine) : String :=
  Text.record "Quarantine"
    [("slots", Text.sequence
      (quarantine.slots.toList.map (Text.optional Timestamp.describe)))]

@[simp] theorem slot?_empty (ordinal : Nat) : empty.slot? ordinal = none := by
  simp only [empty, slot?, Vector.getElem?_replicate]
  split <;> rfl

@[simp] theorem slot?_mark (quarantine : Quarantine) (ordinal other : Nat)
    (time? : Option Timestamp) :
    (quarantine.mark ordinal time?).slot? other =
      if ordinal = other ∧ ordinal < Limit.ordinals then time? else quarantine.slot? other := by
  simp only [mark, slot?, Vector.getElem?_setIfInBounds]
  by_cases same : ordinal = other
  · subst same
    by_cases bound : ordinal < Limit.ordinals
    · simp [bound]
    · simp [bound]
  · simp [same]

theorem slot?_of_limit_le (quarantine : Quarantine) (ordinal : Nat)
    (beyond : Limit.ordinals ≤ ordinal) : quarantine.slot? ordinal = none := by
  simp [slot?, Nat.not_lt.mpr beyond]

@[simp] theorem slot?_clear (quarantine : Quarantine) (ordinal other : Nat) :
    (quarantine.clear ordinal).slot? other =
      if ordinal = other then none else quarantine.slot? other := by
  rw [clear, slot?_mark]
  by_cases same : ordinal = other
  · simpa [same] using slot?_of_limit_le quarantine other
  · simp [same]

theorem isQuarantined_iff (quarantine : Quarantine) (ordinal : Nat) :
    quarantine.isQuarantined ordinal = true ↔ ∃ time, quarantine.slot? ordinal = some time := by
  rw [isQuarantined, Option.isSome_iff_exists]

theorem isQuarantined_eq_false_iff (quarantine : Quarantine) (ordinal : Nat) :
    quarantine.isQuarantined ordinal = false ↔ quarantine.slot? ordinal = none := by
  rw [isQuarantined, Option.isSome_eq_false_iff, Option.isNone_iff_eq_none]

theorem isQuarantined_mark (quarantine : Quarantine) {ordinal : Nat}
    (bound : ordinal < Limit.ordinals) (other : Nat) {time? : Option Timestamp}
    (present : time?.isSome) :
    (quarantine.mark ordinal time?).isQuarantined other =
      (other == ordinal || quarantine.isQuarantined other) := by
  rw [isQuarantined, slot?_mark]
  by_cases same : ordinal = other
  · simp [← same, bound, present]
  · simp [same, Ne.symm same, isQuarantined]

theorem check_fst_eq_quarantined_iff (quarantine : Quarantine) (ordinal : Nat)
    (time : Timestamp) :
    (quarantine.check ordinal time).1 = .quarantined ↔ quarantine.slot? ordinal = some time := by
  rw [check]
  cases slot : quarantine.slot? ordinal with
  | none => simp
  | some marked => by_cases same : marked = time <;> simp [same]

theorem slot?_check (quarantine : Quarantine) (ordinal other : Nat) (time : Timestamp) :
    (quarantine.check ordinal time).2.slot? other =
      if ordinal = other ∧ quarantine.slot? ordinal ≠ some time then none
      else quarantine.slot? other := by
  rw [check]
  cases slot : quarantine.slot? ordinal with
  | none =>
      by_cases same : ordinal = other
      · simp [← same, slot]
      · simp [same]
  | some marked => by_cases same : marked = time <;> simp [same]

end Quarantine

end CertFailover
