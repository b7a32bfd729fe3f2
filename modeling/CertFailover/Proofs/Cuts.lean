import CertFailover.Text.Beginning

/-!
Texts cut to a number of bytes. A cut takes one whole character after the other while there is room,
so that what it takes is the longest beginning that has room.
-/

namespace CertFailover.Text

/-- The longest beginning of a text, of whole characters, that a number of bytes can hold. -/
structure Longest (budget : Nat) (text beginning : String) : Prop where
  initial : beginning.toList <+: text.toList
  fits : beginning.utf8ByteSize ≤ budget
  longest : ∀ other : String, other.toList <+: text.toList → other.utf8ByteSize ≤ budget →
    other.toList <+: beginning.toList

theorem utf8ByteSize_ofList_cons (first : Char) (rest : List Char) :
    (String.ofList (first :: rest)).utf8ByteSize =
      first.utf8Size + (String.ofList rest).utf8ByteSize := by
  rw [String.ofList_cons, String.utf8ByteSize_append, String.utf8ByteSize_singleton]

theorem cutChars_prefix (budget : Nat) (chars : List Char) : cutChars budget chars <+: chars := by
  induction chars generalizing budget with
  | nil => exact List.nil_prefix
  | cons first rest ih =>
      rw [cutChars]
      split
      · exact List.cons_prefix_cons.mpr ⟨rfl, ih _⟩
      · exact List.nil_prefix

theorem utf8ByteSize_cutChars_le (budget : Nat) (chars : List Char) :
    (String.ofList (cutChars budget chars)).utf8ByteSize ≤ budget := by
  induction chars generalizing budget with
  | nil => exact Nat.zero_le budget
  | cons first rest ih =>
      rw [cutChars]
      split
      · rename_i fits
        have bound := ih (budget - first.utf8Size)
        rw [utf8ByteSize_ofList_cons]
        omega
      · exact Nat.zero_le budget

theorem prefix_cutChars {budget : Nat} {chars other : List Char} (initial : other <+: chars)
    (fits : (String.ofList other).utf8ByteSize ≤ budget) : other <+: cutChars budget chars := by
  induction chars generalizing budget other with
  | nil => exact initial
  | cons first rest ih =>
      cases other with
      | nil => exact List.nil_prefix
      | cons head more =>
          obtain ⟨rfl, later⟩ := List.cons_prefix_cons.mp initial
          rw [utf8ByteSize_ofList_cons] at fits
          rw [cutChars, if_pos (by omega)]
          exact List.cons_prefix_cons.mpr ⟨rfl, ih later (by omega)⟩

theorem cut_longest (budget : Nat) (text : String) : Longest budget text (cut budget text) := by
  refine ⟨?_, utf8ByteSize_cutChars_le budget text.toList, ?_⟩
  · rw [cut, String.toList_ofList]
    exact cutChars_prefix budget text.toList
  · intro other initial fits
    rw [cut, String.toList_ofList]
    exact prefix_cutChars initial (by rwa [String.ofList_toList])

theorem cut_eq_empty_iff {budget : Nat} (room : 4 ≤ budget) {text : String} :
    cut budget text = "" ↔ text = "" := by
  constructor
  · intro empty
    cases chars : text.toList with
    | nil => simpa using chars
    | cons first rest =>
        have fits := Nat.le_trans first.utf8Size_le_four room
        rw [cut, chars, cutChars, if_pos fits] at empty
        have taken := congrArg String.toList empty
        simp at taken
  · rintro rfl
    rfl

end CertFailover.Text
