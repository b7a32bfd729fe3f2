import CertFailover.Bytes
import CertFailover.Limit
import CertFailover.Text.Record

/-!
Passcodes. Whoever reads a passcode may leave one newline at its end, which is not part of it; what
remains must be within the bound. Descriptions of a passcode show its length only.
-/

namespace CertFailover

structure Passcode where
  bytes : Bytes
  short : bytes.length < Limit.passcode
  deriving DecidableEq

namespace Passcode

def empty : Passcode :=
  ⟨[], by decide⟩

def newline : UInt8 := 10

def dropNewline (value : Bytes) : Bytes :=
  if value.getLast? = some newline then value.dropLast else value

/-- What a value is without the newline at its end, if it has one there. -/
inductive Whole (value : Bytes) : Bytes → Prop
  | ended {bytes} (split : value = bytes ++ [newline]) : Whole value bytes
  | plain (other : value.getLast? ≠ some newline) : Whole value value

theorem whole_iff {value bytes : Bytes} : Whole value bytes ↔ bytes = dropNewline value := by
  rw [dropNewline]
  constructor
  · rintro (split | other)
    · simp [split]
    · rw [if_neg other]
  · rintro rfl
    by_cases last : value.getLast? = some newline
    · rw [if_pos last]
      obtain ⟨front, rfl⟩ := List.getLast?_eq_some_iff.mp last
      rw [List.dropLast_concat]
      exact .ended rfl
    · rw [if_neg last]
      exact .plain last

theorem Whole.unique {value first second : Bytes} (one : Whole value first)
    (other : Whole value second) : first = second :=
  (whole_iff.mp one).trans (whole_iff.mp other).symm

def ofValue? (value : Bytes) : Option Passcode :=
  if short : (dropNewline value).length < Limit.passcode then some ⟨dropNewline value, short⟩
  else none

theorem ofValue?_eq_some_iff {value : Bytes} {passcode : Passcode} :
    ofValue? value = some passcode ↔ Whole value passcode.bytes := by
  obtain ⟨bytes, short⟩ := passcode
  rw [ofValue?, whole_iff]
  constructor
  · intro filled
    split at filled
    · cases filled
      rfl
    · cases filled
  · intro same
    simp only at same
    subst same
    rw [dif_pos short]

theorem ofValue?_eq_none_iff {value : Bytes} :
    ofValue? value = none ↔ ∃ bytes, Whole value bytes ∧ Limit.passcode ≤ bytes.length := by
  simp [ofValue?, whole_iff]

def length (passcode : Passcode) : Nat :=
  passcode.bytes.length

def describe (passcode : Passcode) : String :=
  Text.record "Secret" [("len", toString passcode.length)]

def wipe (_ : Passcode) : Passcode :=
  empty

def fill (held : Passcode) (value : Bytes) : Passcode × Option Nat :=
  match ofValue? value with
  | some passcode => (passcode, none)
  | none => (held.wipe, some Limit.passcode)

/-- A change to a held passcode. A guarded fill is undone by a wipe unless it is kept. -/
inductive Change where
  | fill (value : Bytes)
  | wipe
  | guardedFill (value : Bytes) (keep : Bool)

def change (held : Passcode) : Change → Passcode × Option Nat
  | .fill value => held.fill value
  | .wipe => (held.wipe, none)
  | .guardedFill value keep =>
    let (filled, refused) := held.fill value
    (if keep then filled else filled.wipe, refused)

end Passcode

end CertFailover
