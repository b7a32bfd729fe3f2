import CertFailover.Proofs.Wholeness

/-!
Passcodes in a buffer that has a fixed number of cells. Every change wipes the buffer before anything
is copied to it, so that it depends on nothing but the change what the cells hold then. All that is
shown is within the cells.
-/

namespace CertFailover

structure PasscodeBuffer where
  cells : Bytes
  used : Nat
  sized : cells.length = Limit.passcode

namespace PasscodeBuffer

def fresh : PasscodeBuffer :=
  ⟨List.replicate Limit.passcode 0, 0, List.length_replicate⟩

def bytes? (buffer : PasscodeBuffer) : Option Bytes :=
  if buffer.used ≤ buffer.cells.length then some (buffer.cells.take buffer.used) else none

def text? (buffer : PasscodeBuffer) : Option String :=
  buffer.bytes?.bind Bytes.text?

def wipe (_ : PasscodeBuffer) : PasscodeBuffer :=
  fresh

def copy? (buffer : PasscodeBuffer) (bytes : Bytes) : Option PasscodeBuffer :=
  if room : bytes.length ≤ buffer.cells.length then
    some ⟨bytes ++ buffer.cells.drop bytes.length, bytes.length, by
      rw [List.length_append, List.length_drop, Nat.add_sub_cancel' room, buffer.sized]⟩
  else none

def fill? (buffer : PasscodeBuffer) (value : Bytes) : Option (PasscodeBuffer × Option Nat) :=
  if Field.passcode.fits (Passcode.dropNewline value).length then
    (buffer.wipe.copy? (Passcode.dropNewline value)).map (·, none)
  else some (buffer.wipe, some Field.passcode.limit)

/-- A buffer on loan to a guard, which wipes it on its return as long as it is armed. -/
structure Guard where
  buffer : PasscodeBuffer
  armed : Bool

def guard (buffer : PasscodeBuffer) : Guard :=
  ⟨buffer, true⟩

def Guard.fill? (guard : Guard) (value : Bytes) : Option (Guard × Option Nat) :=
  (guard.buffer.fill? value).map fun (filled, refused) => ({ guard with buffer := filled }, refused)

def Guard.disarm (guard : Guard) : Guard :=
  { guard with armed := false }

def Guard.release (guard : Guard) : PasscodeBuffer :=
  if guard.armed then guard.buffer.wipe else guard.buffer

def change? (buffer : PasscodeBuffer) : Passcode.Change → Option (PasscodeBuffer × Option Nat)
  | .fill value => buffer.fill? value
  | .wipe => some (buffer.wipe, none)
  | .guardedFill value keep => do
    let (filled, refused) ← buffer.guard.fill? value
    pure ((if keep then filled.disarm else filled).release, refused)

def run? (buffer : PasscodeBuffer) :
    List Passcode.Change → Option (List (PasscodeBuffer × Option Nat))
  | [] => some []
  | next :: rest => do
    let (after, refused) ← buffer.change? next
    let later ← after.run? rest
    pure ((after, refused) :: later)

end PasscodeBuffer

namespace Passcode

def run (held : Passcode) : List Change → List (Passcode × Option Nat)
  | [] => []
  | next :: rest => held.change next :: (held.change next).1.run rest

def Change.filled? : Change → Option Bytes
  | fill value | guardedFill value _ => some value
  | wipe => none

def Change.kept? : Change → Option Bytes
  | fill value | guardedFill value true => some value
  | wipe | guardedFill _ false => none

/-- What a change leaves and what it reports, by its value without the newline at the end. -/
structure Left (change : Change) (bytes : Bytes) (report? : Option Nat) : Prop where
  kept : ∀ value whole, change.kept? = some value → Whole value whole →
    whole.length < Limit.passcode → bytes = whole
  gone : (∀ value whole, change.kept? = some value → Whole value whole →
    Limit.passcode ≤ whole.length) → bytes = []
  refused : report? = some Limit.passcode ↔
    ∃ value whole, change.filled? = some value ∧ Whole value whole ∧
      Limit.passcode ≤ whole.length
  bound : ∀ reported ∈ report?, reported = Limit.passcode

theorem fill_eq (held : Passcode) (value : Bytes) :
    held.fill value =
      ((ofValue? value).getD empty, if ofValue? value = none then some Limit.passcode else none) := by
  rw [fill]
  cases ofValue? value <;> rfl

theorem change_eq (held : Passcode) (change : Change) :
    held.change change =
      ((change.kept?.bind ofValue?).getD empty,
        change.filled?.bind fun value =>
          if ofValue? value = none then some Limit.passcode else none) := by
  cases change with
  | fill value => exact held.fill_eq value
  | wipe => rfl
  | guardedFill value keep =>
      simp only [Passcode.change, fill_eq]
      cases keep <;> rfl

theorem left_change (held : Passcode) (change : Change) :
    Left change (held.change change).1.bytes (held.change change).2 := by
  rw [change_eq]
  constructor
  · intro value whole given split short
    have filled : ofValue? value = some ⟨whole, short⟩ := ofValue?_eq_some_iff.mpr split
    rw [given, Option.bind_some, filled, Option.getD_some]
  · intro long
    cases given : change.kept? with
    | none => rfl
    | some value =>
        have refused : ofValue? value = none :=
          ofValue?_eq_none_iff.mpr ⟨dropNewline value, whole_iff.mpr rfl,
            long value _ given (whole_iff.mpr rfl)⟩
        rw [Option.bind_some, refused]
        rfl
  · cases change.filled? with
    | none => simp
    | some value => simp [ofValue?_eq_none_iff]
  · cases change.filled? with
    | none => simp
    | some value => simp +contextual

theorem run_eq_map (held : Passcode) (changes : List Change) :
    held.run changes = changes.map empty.change := by
  induction changes generalizing held with
  | nil => rfl
  | cons next rest ih => rw [run, ih, List.map_cons, held.change_eq, ← empty.change_eq]

end Passcode

namespace PasscodeBuffer

theorem length_padded (passcode : Passcode) :
    (passcode.bytes ++ List.replicate (Limit.passcode - passcode.length) 0).length =
      Limit.passcode := by
  rw [List.length_append, List.length_replicate, Passcode.length]
  exact Nat.add_sub_cancel' (Nat.le_of_lt passcode.short)

def ofPasscode (passcode : Passcode) : PasscodeBuffer :=
  ⟨passcode.bytes ++ List.replicate (Limit.passcode - passcode.length) 0, passcode.length,
    length_padded passcode⟩

theorem copy?_fresh (passcode : Passcode) :
    fresh.copy? passcode.bytes = some (ofPasscode passcode) := by
  have room : passcode.bytes.length ≤ fresh.cells.length := by
    rw [fresh.sized]
    exact Nat.le_of_lt passcode.short
  have rest : fresh.cells.drop passcode.bytes.length =
      List.replicate (Limit.passcode - passcode.length) 0 := List.drop_replicate
  rw [copy?, dif_pos room]
  simp only [rest, ofPasscode, Passcode.length]

theorem fill?_eq (buffer : PasscodeBuffer) (held : Passcode) (value : Bytes) :
    buffer.fill? value = some ((held.fill value).map ofPasscode id) := by
  rw [fill?, held.fill_eq]
  cases given : Passcode.ofValue? value with
  | some passcode =>
      have bytes := Passcode.whole_iff.mp (Passcode.ofValue?_eq_some_iff.mp given)
      have fits : Field.passcode.fits passcode.bytes.length = true := by
        rw [Field.fits_iff]
        exact passcode.short
      rw [← bytes, if_pos fits, wipe, copy?_fresh]
      rfl
  | none =>
      obtain ⟨whole, split, long⟩ := Passcode.ofValue?_eq_none_iff.mp given
      rw [← Passcode.whole_iff.mp split, if_neg (by simpa [Field.limit] using long)]
      rfl

theorem change?_eq (buffer : PasscodeBuffer) (held : Passcode) (change : Passcode.Change) :
    buffer.change? change = some ((held.change change).map ofPasscode id) := by
  cases change with
  | fill value => exact buffer.fill?_eq held value
  | wipe => rfl
  | guardedFill value keep =>
      rw [change?, Guard.fill?, guard, buffer.fill?_eq held value]
      cases keep <;> rfl

theorem run?_eq (buffer : PasscodeBuffer) (held : Passcode) (changes : List Passcode.Change) :
    buffer.run? changes = some ((held.run changes).map (Prod.map ofPasscode id)) := by
  induction changes generalizing buffer held with
  | nil => rfl
  | cons next rest ih =>
      rw [run?, buffer.change?_eq held next]
      simp only [Option.bind_eq_bind, Option.bind_some]
      rw [ih _ (held.change next).1]
      rfl

structure Shows (buffer : PasscodeBuffer) (bytes : Bytes) : Prop where
  shown : buffer.bytes? = some bytes
  text : buffer.text? = bytes.text?
  used : buffer.used = bytes.length
  short : buffer.used ≤ Limit.passcode - 1
  rest : buffer.cells.drop buffer.used = List.replicate (Limit.passcode - buffer.used) 0

theorem shows_ofPasscode (passcode : Passcode) : (ofPasscode passcode).Shows passcode.bytes := by
  have used : (ofPasscode passcode).used = passcode.bytes.length := rfl
  have within : passcode.bytes.length < Limit.passcode := passcode.short
  have bytes : (ofPasscode passcode).bytes? = some passcode.bytes := by
    rw [bytes?, sized, used, if_pos (Nat.le_of_lt within)]
    exact congrArg some List.take_left
  refine ⟨bytes, ?_, used, Nat.le_pred_of_lt within, List.drop_left⟩
  rw [text?, bytes, Option.bind_some]

end PasscodeBuffer

/-- After each change a passcode is the value of that change without the newline at its end, if it
fits and is kept, and nothing otherwise. A buffer that is used again and again shows the same, never
fails for want of cells, and depends on nothing that it has held before. -/
theorem changes_exact (changes : List Passcode.Change) :
    let passcodes := Passcode.empty.run changes
    ∃ buffers, PasscodeBuffer.fresh.run? changes = some buffers ∧
      passcodes.length = changes.length ∧ buffers.length = changes.length ∧
      (∀ (place : Nat) (change : Passcode.Change), changes[place]? = some change →
        ∃ (passcode : Passcode) (buffer : PasscodeBuffer) (report? : Option Nat),
          passcodes[place]? = some (passcode, report?) ∧
          buffers[place]? = some (buffer, report?) ∧
          Passcode.Left change passcode.bytes report? ∧ buffer.Shows passcode.bytes) ∧
      ∀ (buffer other : PasscodeBuffer) (change : Passcode.Change),
        buffer.change? change = other.change? change := by
  intro passcodes
  have mapped : passcodes = changes.map Passcode.empty.change := Passcode.empty.run_eq_map changes
  have length : passcodes.length = changes.length := by rw [mapped, List.length_map]
  refine ⟨_, PasscodeBuffer.fresh.run?_eq .empty changes, length, ?_, ?_, ?_⟩
  · rw [List.length_map]
    exact length
  · intro place change given
    have here : passcodes[place]? = some (Passcode.empty.change change) := by
      rw [mapped, List.getElem?_map, given, Option.map_some]
    refine ⟨_, .ofPasscode (Passcode.empty.change change).1, _, here, ?_,
      Passcode.empty.left_change change, PasscodeBuffer.shows_ofPasscode _⟩
    rw [List.getElem?_map, here]
    rfl
  · intro buffer other change
    rw [buffer.change?_eq .empty, other.change?_eq .empty]

theorem changes_exact_sample :
    let long : Bytes := List.replicate Limit.passcode 120
    let changes : List Passcode.Change :=
      [.fill (Bytes.ofText "pc1pass\n"), .fill long, .guardedFill (Bytes.ofText "pd") true,
        .guardedFill (Bytes.ofText "pc2pass") false]
    ∃ buffers, PasscodeBuffer.fresh.run? changes = some buffers ∧
      (∃ buffer report?, buffers[0]? = some (buffer, report?) ∧
        buffer.bytes? = some (Bytes.ofText "pc1pass")) ∧
      (∃ buffer, buffers[1]? = some (buffer, some Limit.passcode) ∧ buffer.bytes? = some []) ∧
      (∃ buffer report?, buffers[2]? = some (buffer, report?) ∧ buffer.text? = some "pd") ∧
      ∃ buffer report?, buffers[3]? = some (buffer, report?) ∧ buffer.used = 0 := by
  intro long changes
  obtain ⟨buffers, ran, _, _, each, _⟩ := changes_exact changes
  refine ⟨buffers, ran, ?_, ?_, ?_, ?_⟩
  · obtain ⟨passcode, buffer, report?, _, here, left, shows⟩ := each 0 _ rfl
    refine ⟨buffer, report?, here, ?_⟩
    have split : Bytes.ofText "pc1pass\n" = Bytes.ofText "pc1pass" ++ [Passcode.newline] := rfl
    rw [shows.shown, left.kept _ _ rfl (.ended split) (by decide)]
  · obtain ⟨passcode, buffer, report?, _, here, left, shows⟩ := each 1 _ rfl
    have whole : Passcode.Whole long long := .plain (by rw [List.getLast?_replicate]; decide)
    have exceeds : Limit.passcode ≤ long.length := Nat.le_of_eq List.length_replicate.symm
    have refused := left.refused.mpr ⟨long, long, rfl, whole, exceeds⟩
    have nothing : passcode.bytes = [] := by
      apply left.gone
      rintro _ other ⟨⟩ split
      rw [split.unique whole]
      exact exceeds
    exact ⟨buffer, refused ▸ here, nothing ▸ shows.shown⟩
  · obtain ⟨passcode, buffer, report?, _, here, left, shows⟩ := each 2 _ rfl
    refine ⟨buffer, report?, here, ?_⟩
    rw [shows.text, left.kept (Bytes.ofText "pd") _ rfl (.plain (by decide)) (by decide),
      Bytes.text?_ofText]
  · obtain ⟨passcode, buffer, report?, _, here, left, shows⟩ := each 3 _ rfl
    refine ⟨buffer, report?, here, ?_⟩
    rw [shows.used, left.gone (by rintro _ _ ⟨⟩), List.length_nil]

end CertFailover
