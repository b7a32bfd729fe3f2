import CertFailover.Proofs.Cuts
import CertFailover.Proofs.Lines

/-!
Cuts that are found from behind. From the budget on, the bytes of a text are stepped back over to a
place where a character begins. No character has more than four bytes, so there is such a place at
most three steps back, and what stands before it is the longest beginning that has room.
-/

namespace CertFailover

namespace Bytes

/-- Whether a byte is the first one of a character. The later ones are from 128 to 191. -/
def begins (byte : UInt8) : Bool :=
  byte < 128 || 192 ≤ byte

def boundary (bytes : Bytes) (place : Nat) : Bool :=
  if place = 0 then true
  else match bytes[place]? with
    | some byte => begins byte
    | none => place = bytes.length

/-- The last boundary up to a place. None is found if there is none down to the first byte. -/
def retreat (bytes : Bytes) : Nat → Option Nat
  | 0 => if bytes.boundary 0 then some 0 else none
  | before + 1 =>
    if bytes.boundary (before + 1) then some (before + 1) else bytes.retreat before

theorem retreat_of_boundary {bytes : Bytes} {stop : Nat} (here : bytes.boundary stop = true) :
    bytes.retreat stop = some stop := by
  cases stop <;> rw [retreat, if_pos here]

theorem retreat_eq {bytes : Bytes} {stop place : Nat} (lower : stop ≤ place)
    (here : bytes.boundary stop = true)
    (between : ∀ other, stop < other → other ≤ place → bytes.boundary other = false) :
    bytes.retreat place = some stop := by
  induction place with
  | zero =>
      obtain rfl := Nat.le_zero.mp lower
      exact retreat_of_boundary here
  | succ before ih =>
      by_cases same : stop = before + 1
      · rw [← same]
        exact retreat_of_boundary here
      · have later : stop < before + 1 := by omega
        rw [retreat, between _ later (Nat.le_refl _), if_neg Bool.false_ne_true]
        exact ih (by omega) fun other above below => between other above (by omega)

theorem begins_ofNat (value : Nat) :
    begins (UInt8.ofNat value) = true ↔ value % 256 < 128 ∨ 192 ≤ value % 256 := by
  simp [begins, UInt8.lt_iff_toNat_lt, UInt8.le_iff_toNat_le]

theorem begins_later (bits : Nat) : begins (UInt8.ofNat (bits % 64 + 128)) = false := by
  rw [← Bool.not_eq_true, begins_ofNat]
  omega

theorem encode_eq_cons (char : Char) :
    ∃ first others, String.utf8EncodeChar char = first :: others ∧ begins first = true ∧
      ∀ byte ∈ others, begins byte = false := by
  -- One case for each number of bytes.
  simp only [String.utf8EncodeChar]
  split
  · refine ⟨_, _, rfl, ?_, List.forall_mem_nil _⟩
    rw [begins_ofNat]
    omega
  · split
    · refine ⟨_, _, rfl, ?_, List.forall_mem_singleton.mpr (begins_later _)⟩
      rw [begins_ofNat]
      omega
    · split
      · refine ⟨_, _, rfl, ?_, List.forall_mem_cons.mpr ⟨begins_later _, ?_⟩⟩
        · rw [begins_ofNat]
          omega
        · exact List.forall_mem_singleton.mpr (begins_later _)
      · refine ⟨_, _, rfl, ?_, List.forall_mem_cons.mpr ⟨begins_later _, ?_⟩⟩
        · rw [begins_ofNat]
          omega
        · refine List.forall_mem_cons.mpr ⟨begins_later _, ?_⟩
          exact List.forall_mem_singleton.mpr (begins_later _)

theorem boundary_of_begins {front rest : Bytes} {first : UInt8} (begun : begins first = true) :
    (front ++ first :: rest).boundary front.length = true := by
  rw [boundary]
  split
  · rfl
  · simp [begun]

theorem boundary_within {front others rest : Bytes} {first : UInt8}
    (later : ∀ byte ∈ others, begins byte = false) {place : Nat} (lower : front.length < place)
    (upper : place ≤ front.length + others.length) :
    (front ++ first :: others ++ rest).boundary place = false := by
  obtain ⟨offset, rfl⟩ : ∃ offset, place = front.length + (offset + 1) :=
    ⟨place - front.length - 1, by omega⟩
  have inside : offset < others.length := by omega
  have byte : (front ++ first :: others ++ rest)[front.length + (offset + 1)]? =
      some others[offset] := by
    rw [List.append_assoc, List.getElem?_append_right (by omega), Nat.add_sub_cancel_left,
      List.cons_append, List.getElem?_cons_succ, List.getElem?_append_left inside,
      List.getElem?_eq_getElem inside]
  rw [boundary, if_neg (by omega), byte]
  exact later _ (List.getElem_mem inside)

end Bytes

namespace Text

theorem cutChars_of_fits {budget : Nat} {chars : List Char}
    (fits : (String.ofList chars).utf8ByteSize ≤ budget) : cutChars budget chars = chars := by
  have initial := cutChars_prefix budget chars
  have whole := prefix_cutChars (List.prefix_refl chars) fits
  exact initial.eq_of_length_le whole.length_le

theorem exists_cutChars {budget : Nat} {chars : List Char}
    (exceeds : budget < (String.ofList chars).utf8ByteSize) :
    ∃ char rest, chars = cutChars budget chars ++ char :: rest ∧
      budget < (String.ofList (cutChars budget chars)).utf8ByteSize + char.utf8Size := by
  induction chars generalizing budget with
  | nil => exact absurd exceeds (Nat.not_lt_zero _)
  | cons first others ih =>
      rw [cutChars]
      by_cases fits : first.utf8Size ≤ budget
      · rw [utf8ByteSize_ofList_cons] at exceeds
        obtain ⟨char, rest, split, room⟩ := @ih (budget - first.utf8Size) (by omega)
        rw [if_pos fits]
        refine ⟨char, rest, congrArg _ split, ?_⟩
        rw [utf8ByteSize_ofList_cons]
        omega
      · rw [if_neg fits]
        refine ⟨first, others, rfl, ?_⟩
        rw [String.ofList_nil, String.utf8ByteSize_empty]
        omega

theorem cut_eq_iff {budget : Nat} {text : String} :
    cut budget text = text ↔ text.utf8ByteSize ≤ budget := by
  constructor
  · intro whole
    rw [← whole]
    exact (cut_longest budget text).fits
  · intro fits
    rw [cut, cutChars_of_fits (by rwa [String.ofList_toList]), String.ofList_toList]

def cutBack (budget : Nat) (text : String) : Option String :=
  if text.utf8ByteSize ≤ budget then some text
  else (Bytes.retreat (Bytes.ofText text) budget).bind fun place =>
    Bytes.text? ((Bytes.ofText text).take place)

theorem retreat_ofText {budget : Nat} {text : String} (exceeds : budget < text.utf8ByteSize) :
    Bytes.retreat (Bytes.ofText text) budget = some (cut budget text).utf8ByteSize ∧
      Bytes.ofText (cut budget text) <+: Bytes.ofText text ∧
      budget ≤ (cut budget text).utf8ByteSize + 3 := by
  rw [← String.ofList_toList (s := text)] at exceeds
  obtain ⟨char, rest, split, room⟩ := exists_cutChars exceeds
  obtain ⟨first, others, encoded, begun, later⟩ := Bytes.encode_eq_cons char
  have length : (first :: others).length = char.utf8Size := by
    rw [← encoded, String.length_utf8EncodeChar]
  have bytes : Bytes.ofText text =
      Bytes.ofText (cut budget text) ++ first :: others ++
        rest.flatMap String.utf8EncodeChar := by
    rw [Bytes.ofText_eq_flatMap, split, Bytes.ofText_eq_flatMap, cut, String.toList_ofList,
      List.flatMap_append, List.flatMap_cons, encoded, List.append_assoc]
  have fits := (cut_longest budget text).fits
  have size : (Bytes.ofText (cut budget text)).length = (cut budget text).utf8ByteSize :=
    Bytes.length_ofText _
  have small := char.utf8Size_le_four
  rw [List.length_cons] at length
  change budget < (cut budget text).utf8ByteSize + char.utf8Size at room
  refine ⟨?_, ⟨_, by rw [bytes, List.append_assoc]⟩, by omega⟩
  rw [← size] at fits room ⊢
  refine Bytes.retreat_eq fits ?_ ?_
  · rw [bytes, List.append_assoc]
    exact Bytes.boundary_of_begins begun
  · intro other above below
    rw [bytes]
    exact Bytes.boundary_within later above (by omega)

/-- A cut is the longest beginning of a text that has room, and ends where the search from the budget
back for a boundary stops, at most three bytes before the budget. -/
theorem cut_exact (budget : Nat) (text : String) :
    Longest budget text (cut budget text) ∧
      (cut budget text = text ↔ text.utf8ByteSize ≤ budget) ∧
      (budget < text.utf8ByteSize →
        budget ≤ (cut budget text).utf8ByteSize + 3 ∧
        Bytes.retreat (Bytes.ofText text) budget = some (cut budget text).utf8ByteSize) ∧
      cutBack budget text = some (cut budget text) ∧
      ∀ larger, budget ≤ larger → cut larger (cut budget text) = cut budget text := by
  refine ⟨cut_longest budget text, cut_eq_iff, ?_, ?_, ?_⟩
  · intro exceeds
    obtain ⟨stopped, _, near⟩ := retreat_ofText exceeds
    exact ⟨near, stopped⟩
  · rw [cutBack]
    by_cases fits : text.utf8ByteSize ≤ budget
    · rw [if_pos fits, cut_eq_iff.mpr fits]
    · obtain ⟨stopped, initial, _⟩ := retreat_ofText (Nat.lt_of_not_le fits)
      rw [if_neg fits, stopped, Option.bind_some, ← Bytes.length_ofText,
        ← List.prefix_iff_eq_take.mp initial, Bytes.text?_ofText]
  · intro larger more
    exact cut_eq_iff.mpr (Nat.le_trans (cut_longest budget text).fits more)

theorem cut_exact_sample :
    let text := "a😀"
    4 < text.utf8ByteSize ∧ cut 4 text = "a" ∧ 4 ≤ (cut 4 text).utf8ByteSize + 3 ∧
      Bytes.retreat (Bytes.ofText text) 4 = some 1 ∧ cutBack 4 text = some "a" ∧
      cut 7 (cut 4 text) = "a" ∧ cutBack 0 text = some "" := by
  intro text
  have exceeds : 4 < text.utf8ByteSize := by decide +kernel
  have taken : cut 4 text = "a" := by decide +kernel
  have nothing : cut 0 text = "" := by decide +kernel
  obtain ⟨_, _, beyond, back, again⟩ := cut_exact 4 text
  obtain ⟨near, stopped⟩ := beyond exceeds
  have fresh := (cut_exact 0 text).2.2.2.1
  rw [taken] at stopped back
  rw [nothing] at fresh
  exact ⟨exceeds, taken, near, stopped, back, (again 7 (by decide)).trans taken, fresh⟩

end Text

end CertFailover
