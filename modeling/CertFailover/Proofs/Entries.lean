import CertFailover.Lookup

/-!
What a lookup can give. Every field of an entry is a piece of one readable line, so that it is not
empty and holds neither a separator nor a newline, and the fields with a bound are within it.
-/

namespace CertFailover

namespace Text

theorem mem_splitOn {α : Type} [BEq α] [LawfulBEq α] {separator : α} {chars part : List α}
    (member : part ∈ chars.splitOn separator) : separator ∉ part ∧ part ⊆ chars := by
  induction chars generalizing part with
  | nil =>
      simp only [List.splitOn_nil, List.mem_singleton] at member
      subst part
      simp
  | cons first rest ih =>
      rw [List.splitOn_cons_eq_if_modifyHead] at member
      by_cases same : first = separator
      · simp only [same, BEq.rfl, if_true, List.mem_cons] at member
        rcases member with empty | later
        · subst part
          simp
        · exact ⟨(ih later).1, fun _ inside => List.mem_cons_of_mem _ ((ih later).2 inside)⟩
      · have different : (first == separator) = false := by simpa using same
        simp only [different, Bool.false_eq_true, if_false] at member
        cases split : rest.splitOn separator with
        | nil => exact absurd split (List.splitOn_ne_nil _ _)
        | cons head others =>
            simp only [split, List.modifyHead_cons, List.mem_cons] at member
            rcases member with extended | later
            · subst part
              have inner := @ih head (by simp [split])
              refine ⟨?_, List.cons_subset_cons _ inner.2⟩
              simp only [List.mem_cons, not_or]
              exact ⟨Ne.symm same, inner.1⟩
            · have inner := @ih part (by simp [split, later])
              exact ⟨inner.1, fun _ inside => List.mem_cons_of_mem _ (inner.2 inside)⟩

theorem mem_pieces {separator : Char} {text piece : String}
    (member : piece ∈ pieces separator text) :
    piece ≠ "" ∧ separator ∉ piece.toList ∧ piece.toList ⊆ text.toList := by
  refine ⟨ne_empty_of_mem_pieces member, ?_⟩
  simp only [pieces, List.mem_map, List.mem_filter] at member
  obtain ⟨chars, ⟨inside, _⟩, rfl⟩ := member
  simpa using mem_splitOn inside

end Text

theorem Bytes.ofText_eq_flatMap (text : String) :
    Bytes.ofText text = text.toList.flatMap String.utf8EncodeChar := by
  have bytes : text.toByteArray = text.toList.utf8Encode := String.utf8Encode_toList.symm
  rw [Bytes.ofText, String.toUTF8, bytes, List.utf8Encode]
  simp

/-- A byte below 128 stands for one character and has no part in the encoding of another. -/
theorem Bytes.mem_encode_iff {byte : UInt8} {ascii : Char} (code : ascii.toNat = byte.toNat)
    (small : byte.toNat < 128) {char : Char} :
    byte ∈ String.utf8EncodeChar char ↔ char = ascii := by
  have value : char = ascii ↔ char.val.toNat = byte.toNat := by
    rw [← Char.toNat_inj, code]
    rfl
  rw [value]
  constructor
  · intro member
    have low {other : Nat} (same : byte = UInt8.ofNat other) : other % 256 = byte.toNat := by
      simpa using (congrArg UInt8.toNat same).symm
    simp only [String.utf8EncodeChar] at member
    split at member
    · have := low (List.mem_singleton.mp member)
      omega
    · -- The bytes of a longer encoding all have their highest bit set.
      split at member
      · simp only [List.mem_cons, List.not_mem_nil, or_false] at member
        rcases member with same | same <;> have := low same <;> omega
      · split at member
        · simp only [List.mem_cons, List.not_mem_nil, or_false] at member
          rcases member with same | same | same <;> have := low same <;> omega
        · simp only [List.mem_cons, List.not_mem_nil, or_false] at member
          rcases member with same | same | same | same <;> have := low same <;> omega
  · intro same
    rw [String.utf8EncodeChar, if_pos (by omega), same]
    simp

theorem Bytes.mem_ofText_iff {byte : UInt8} {ascii : Char} (code : ascii.toNat = byte.toNat)
    (small : byte.toNat < 128) {text : String} :
    byte ∈ Bytes.ofText text ↔ ascii ∈ text.toList := by
  simp [Bytes.ofText_eq_flatMap, Bytes.mem_encode_iff code small]

theorem Bytes.newline_mem_ofText_iff {text : String} :
    Line.newline ∈ Bytes.ofText text ↔ '\n' ∈ text.toList :=
  Bytes.mem_ofText_iff (by decide) (by decide)

theorem Bytes.ofText_of_text? {bytes : Bytes} {text : String} (decoded : bytes.text? = some text) :
    Bytes.ofText text = bytes := by
  simp only [Bytes.text?, String.fromUTF8?] at decoded
  split at decoded
  · simp only [Option.some.injEq] at decoded
    subst text
    simp [Bytes.ofText, String.fromUTF8]
  · simp at decoded

theorem LineBody.newline_not_mem {bytes : Bytes} {rawLength : Nat} {text : String}
    (clean : Line.newline ∉ bytes) (body : LineBody.ofBytes bytes rawLength = .text text) :
    '\n' ∉ text.toList := by
  intro member
  simp only [LineBody.ofBytes] at body
  split at body
  · cases body
  · split at body
    · rename_i decoded found
      cases body
      exact clean (Bytes.ofText_of_text? found ▸ Bytes.newline_mem_ofText_iff.mpr member)
    · cases body

namespace LineReader

def Clean (reader : LineReader) : Prop :=
  Line.newline ∉ reader.held

theorem take_clean {reader : LineReader} (clean : reader.Clean) (byte : UInt8) :
    (reader.take byte).1.Clean := by
  simp only [take]
  split
  · simp [Clean]
  · rename_i different
    split
    · simpa [Clean, not_or] using ⟨clean, Ne.symm different⟩
    · exact clean

theorem take_newline_not_mem {reader : LineReader} (clean : reader.Clean) {byte : UInt8}
    {line : Line} {text : String} (completed : (reader.take byte).2 = some line)
    (body : line.body = .text text) : '\n' ∉ text.toList := by
  simp only [take] at completed
  split at completed
  · simp only [Option.some.injEq] at completed
    subst line
    exact LineBody.newline_not_mem (by simpa [Clean] using clean) body
  · split at completed <;> simp at completed

theorem feed_newline_not_mem {reader : LineReader} (clean : reader.Clean) (bytes : List UInt8) :
    (reader.feed bytes).1.Clean ∧
      ∀ line ∈ (reader.feed bytes).2, ∀ text, line.body = .text text → '\n' ∉ text.toList := by
  induction bytes generalizing reader with
  | nil => simpa [feed] using clean
  | cons byte rest ih =>
      obtain ⟨lastClean, later⟩ := ih (take_clean clean byte)
      refine ⟨lastClean, ?_⟩
      intro line member text body
      simp only [feed, List.mem_append, Option.mem_toList] at member
      rcases member with first | rest
      · exact take_newline_not_mem clean first body
      · exact later line rest text body

end LineReader

theorem Line.newline_not_mem_ofContent {content : Bytes} {line : Line} {text : String}
    (member : line ∈ Line.ofContent content) (body : line.body = .text text) :
    '\n' ∉ text.toList := by
  have start : LineReader.start.Clean := by simp [LineReader.Clean, LineReader.start]
  obtain ⟨clean, completed⟩ := LineReader.feed_newline_not_mem start content
  simp only [Line.ofContent, List.mem_append] at member
  rcases member with before | last
  · exact completed line before text body
  · simp only [LineReader.finish] at last
    split at last
    · simp at last
    · simp only [List.mem_singleton] at last
      subst line
      exact LineBody.newline_not_mem (by simpa [LineReader.Clean] using clean) body

structure FieldText (text : String) : Prop where
  nonempty : text ≠ ""
  separator : Entry.fieldSeparator ∉ text.toList
  newline : '\n' ∉ text.toList

theorem fieldText_iff {text : String} :
    FieldText text ↔
      text ≠ "" ∧ Entry.fieldSeparator ∉ text.toList ∧ '\n' ∉ text.toList :=
  ⟨fun ⟨nonempty, separator, newline⟩ => ⟨nonempty, separator, newline⟩,
    fun ⟨nonempty, separator, newline⟩ => ⟨nonempty, separator, newline⟩⟩

instance (text : String) : Decidable (FieldText text) :=
  decidable_of_iff _ fieldText_iff.symm

theorem Entry.fieldText_of_mem {line field : String} (clean : '\n' ∉ line.toList)
    (member : field ∈ Entry.fields line) : FieldText field :=
  have piece := Text.mem_pieces member
  ⟨piece.1, piece.2.1, fun newline => clean (piece.2.2 newline)⟩

structure Entry.WellFormed (entry : Entry) : Prop where
  label : FieldText entry.label
  uri : FieldText entry.uri
  credentialRef : FieldText entry.credentialRef
  uriShort : entry.uri.utf8ByteSize < Limit.path
  credentialRefShort : entry.credentialRef.utf8ByteSize < Limit.parameter

theorem Entry.ofFields_wellFormed {number : Nat} {fields : List String} {entry : Entry}
    (clean : ∀ field ∈ fields, FieldText field)
    (parsed : Entry.ofFields number fields = .ok entry) : entry.WellFormed := by
  match fields with
  | [] | [_] | [_, _] => simp [Entry.ofFields] at parsed
  | [label, kind, uri] =>
      simp only [Entry.ofFields] at parsed
      split at parsed <;> cases parsed
  | label :: kind :: uri :: credentialRef :: others =>
      simp only [Entry.ofFields] at parsed
      split at parsed
      · cases parsed
      · rename_i uriFits
        split at parsed
        · cases parsed
        · rename_i credentialRefFits
          simp only [Except.ok.injEq] at parsed
          subst entry
          refine ⟨clean _ ?_, clean _ ?_, clean _ ?_, ?_, ?_⟩
          · simp
          · simp
          · simp
          · simpa [Field.limit] using uriFits
          · simpa [Field.limit] using credentialRefFits

namespace Lookup

theorem inGroupLines_wellFormed {group : String} {ordinal : Nat} {lines : List Line}
    {entry : Entry}
    (clean : ∀ line ∈ lines, ∀ text, line.body = .text text → '\n' ∉ text.toList)
    (found : inGroupLines group ordinal lines = .ok entry) : entry.WellFormed := by
  induction lines generalizing ordinal with
  | nil => simp [inGroupLines] at found
  | cons line rest ih =>
      have restClean := fun line member => clean line (List.mem_cons_of_mem _ member)
      obtain ⟨number, body⟩ := line
      cases body with
      | tooLong => simp [inGroupLines] at found
      | notUtf8 => simp [inGroupLines] at found
      | text text =>
          have textClean := clean _ List.mem_cons_self text rfl
          simp only [inGroupLines] at found
          split at found
          · exact ih restClean found
          · rename_i tags others split
            split at found
            · cases ordinal with
              | succ before => exact ih restClean found
              | zero =>
                  cases parsed : Entry.ofFields number others with
                  | error fault =>
                      rw [parsed] at found
                      cases found
                  | ok candidate =>
                      rw [parsed] at found
                      cases found
                      apply Entry.ofFields_wellFormed ?_ parsed
                      intro field member
                      exact Entry.fieldText_of_mem textClean (by simp [split, member])
            · exact ih restClean found

theorem inGroup_wellFormed {files : FileTree} {path group : String} {ordinal : Nat}
    {entry : Entry} (found : inGroup files path group ordinal = .ok entry) :
    entry.WellFormed := by
  simp only [inGroup] at found
  split at found
  · cases found
  · cases read : lines files path with
    | error fault => simp [read, Except.bind] at found
    | ok content =>
        simp only [read, Except.bind] at found
        apply inGroupLines_wellFormed ?_ found
        intro line member text body
        simp only [lines] at read
        split at read
        · cases read
        · split at read
          · cases read
          · cases read
            exact Line.newline_not_mem_ofContent member body

theorem inGroup_lt {files : FileTree} {path group : String} {ordinal : Nat} {entry : Entry}
    (found : inGroup files path group ordinal = .ok entry) : ordinal < Limit.ordinals := by
  simp only [inGroup] at found
  split at found
  · cases found
  · omega

theorem inGroup_of_limit_le (files : FileTree) (path group : String) {ordinal : Nat}
    (beyond : Limit.ordinals ≤ ordinal) : inGroup files path group ordinal = .error .noEntry := by
  simp [inGroup, beyond]

theorem inGroupLines_noEntry {group : String} {lines : List Line} {ordinal later : Nat}
    (missed : inGroupLines group ordinal lines = .error .noEntry) (above : ordinal ≤ later) :
    inGroupLines group later lines = .error .noEntry := by
  induction lines generalizing ordinal later with
  | nil => rfl
  | cons line rest ih =>
      obtain ⟨number, body⟩ := line
      cases body with
      | tooLong => simp [inGroupLines] at missed
      | notUtf8 => simp [inGroupLines] at missed
      | text text =>
          simp only [inGroupLines] at missed ⊢
          split at missed
          · exact ih missed above
          · rename_i tags others split
            by_cases belongs : Entry.belongs tags group
            · simp only [belongs, if_true] at missed ⊢
              cases ordinal with
              | zero =>
                  cases parsed : Entry.ofFields number others with
                  | error fault =>
                      rw [parsed] at missed
                      cases missed
                  | ok entry =>
                      rw [parsed] at missed
                      cases missed
              | succ before =>
                  obtain ⟨following, rfl⟩ := Nat.exists_eq_add_of_le' above
                  exact ih missed (Nat.le_add_left _ _)
            · simp only [belongs, Bool.false_eq_true, if_false] at missed ⊢
              exact ih missed above

theorem inGroup_noEntry {files : FileTree} {path group : String} {ordinal later : Nat}
    (missed : inGroup files path group ordinal = .error .noEntry) (above : ordinal ≤ later) :
    inGroup files path group later = .error .noEntry := by
  by_cases beyond : Limit.ordinals ≤ later
  · exact inGroup_of_limit_le files path group beyond
  · rw [inGroup, if_neg (by omega)] at missed
    rw [inGroup, if_neg beyond]
    cases read : lines files path with
    | error fault =>
        rw [read] at missed
        exact missed
    | ok content =>
        rw [read] at missed
        exact inGroupLines_noEntry missed above

end Lookup

end CertFailover
