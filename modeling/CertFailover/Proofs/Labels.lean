import CertFailover.Proofs.Agreement
import CertFailover.Proofs.Entries

/-!
Labels of entries that groups select. The first line with the label stands at the line of the entry
or before it and so is seen, and what it gives is the answer to the label. A line may carry a label
of any length, though, and one beyond the bound cannot be asked for.
-/

namespace CertFailover

theorem Entry.ofFields_eq_ok {number : Nat} {fields : List String} {entry : Entry}
    (parsed : Entry.ofFields number fields = .ok entry) : fields.head? = some entry.label := by
  match fields with
  | [] | [_] | [_, _] => cases parsed
  | [label, kind, uri] =>
      simp only [Entry.ofFields] at parsed
      split at parsed <;> cases parsed
  | label :: kind :: uri :: credentialRef :: others =>
      simp only [Entry.ofFields] at parsed
      split at parsed
      · cases parsed
      · split at parsed
        · cases parsed
        · cases parsed
          rfl

theorem Entry.ofFields_eq_error {number : Nat} {fields : List String} {fault : ConfigFault}
    (refused : Entry.ofFields number fields = .error fault) :
    fault = .missingFields number ∨
      ∃ field length, fault = .fieldTooLong number field length := by
  match fields with
  | [] | [_] | [_, _] =>
      cases refused
      exact .inl rfl
  | [label, kind, uri] =>
      simp only [Entry.ofFields] at refused
      split at refused
      · cases refused
        exact .inr ⟨_, _, rfl⟩
      · cases refused
        exact .inl rfl
  | label :: kind :: uri :: credentialRef :: others =>
      simp only [Entry.ofFields] at refused
      split at refused
      · cases refused
        exact .inr ⟨_, _, rfl⟩
      · split at refused
        · cases refused
          exact .inr ⟨_, _, rfl⟩
        · cases refused

namespace Line

theorem labelled_iff {label : String} {line : Line} :
    line.labelled label = true ↔ line.fields[1]? = some label := by
  simp [labelled]

theorem labelled_of_entry {line : Line} {entry : Entry} (parsed : line.entry = .ok entry) :
    line.labelled entry.label = true := by
  rw [labelled_iff, ← List.getElem?_tail, ← List.head?_eq_getElem?]
  cases given : Entry.ofFields line.number line.fields.tail with
  | error fault =>
      rw [Line.entry, given] at parsed
      cases parsed
  | ok found =>
      rw [Line.entry, given] at parsed
      cases parsed
      exact Entry.ofFields_eq_ok given

theorem labelled_unique {label other : String} {line : Line}
    (first : line.labelled label = true) (second : line.labelled other = true) :
    label = other := by
  rw [labelled_iff] at first second
  rw [first] at second
  cases second
  rfl

theorem entry_eq_error {line : Line} {fault : LookupFault} (refused : line.entry = .error fault) :
    ∃ cause, fault = .config cause ∧
      (cause = .missingFields line.number ∨
        ∃ field length, cause = .fieldTooLong line.number field length) := by
  cases given : Entry.ofFields line.number line.fields.tail with
  | ok found =>
      rw [Line.entry, given] at refused
      cases refused
  | error cause =>
      rw [Line.entry, given] at refused
      cases refused
      exact ⟨cause, rfl, Entry.ofFields_eq_error given⟩

end Line

theorem Field.validate_eq {field : Field} {value : String} {reserved : List Char}
    (nonempty : value ≠ "") (free : ∀ character ∈ value.toList, character ∉ reserved) :
    field.validate value reserved =
      if value.utf8ByteSize < field.limit then .ok ()
      else .error (.argumentTooLong field value.utf8ByteSize) := by
  have clean : value.toList.find? reserved.contains = none := by
    rw [List.find?_eq_none]
    intro character member
    simpa using free character member
  rw [Field.validate, if_neg nonempty, clean]
  simp only [Field.fits_iff]

namespace Lookup

theorem exists_first {lines : List Line} {kind : Line → Bool} {own : Line} (member : own ∈ lines)
    (kindred : kind own = true) :
    ∃ before line after, lines = before ++ line :: after ∧ lines.find? kind = some line ∧
      (line = own ∨ own ∈ after) := by
  cases found : lines.find? kind with
  | none => exact absurd kindred (List.find?_eq_none.mp found own member)
  | some line =>
      obtain ⟨_, before, after, split, strange⟩ := List.find?_eq_some_iff_append.mp found
      refine ⟨before, line, after, split, rfl, ?_⟩
      rw [split, List.mem_append, List.mem_cons] at member
      rcases member with early | same | late
      · have unlike := strange own early
        simp [kindred] at unlike
      · exact .inl same.symm
      · exact .inr late

theorem byLabel_of_find? {files : FileTree} {path label : String} {content : List Line}
    {line : Line} (read : lines files path = .ok content)
    (first : (seen content).find? (Line.labelled label) = some line) :
    byLabel files path label = line.entry := by
  rw [byLabel, read, Except.bind, byLabelLines_eq, first, Option.elim_some]

/-- An entry that a group selects has a label that is not empty and holds no separator, so that only
the bound can keep it from being asked for. The first line with the label answers to it, with an
entry of that label or, where it stands before the line of the selected entry, with what is wrong in
it. -/
theorem inGroup_label {files : FileTree} {path group : String} {ordinal : Nat} {entry : Entry}
    (found : inGroup files path group ordinal = .ok entry) :
    entry.label ≠ "" ∧ Entry.fieldSeparator ∉ entry.label.toList ∧
      Field.label.validate entry.label [Entry.fieldSeparator] =
        (if entry.label.utf8ByteSize < Limit.parameter then .ok ()
          else .error (.argumentTooLong .label entry.label.utf8ByteSize)) ∧
      ∃ content own, lines files path = .ok content ∧
        (content.filter (Line.serves group))[ordinal]? = some own ∧ own.entry = .ok entry ∧
        ((∃ other, byLabel files path entry.label = .ok other ∧ other.label = entry.label) ∨
          ∃ before line after fault, content = before ++ line :: after ∧ own ∈ after ∧
            line.labelled entry.label = true ∧ line.entry = .error (.config fault) ∧
            (fault = .missingFields line.number ∨
              ∃ field length, fault = .fieldTooLong line.number field length) ∧
            byLabel files path entry.label = .error (.config fault)) := by
  have label := (inGroup_wellFormed found).label
  obtain ⟨_, content, own, read, nth, parsed⟩ := inGroup_eq_ok_iff.mp found
  refine ⟨label.nonempty, label.separator, ?_, content, own, read, filter_of_seen nth, parsed, ?_⟩
  · refine Field.validate_eq label.nonempty fun character member reserved => ?_
    rw [List.mem_singleton.mp reserved] at member
    exact label.separator member
  -- The line of the entry has been seen, so the search for the label gets as far as its first line.
  have member : own ∈ seen content := (List.mem_filter.mp (List.mem_of_getElem? nth)).1
  obtain ⟨before, line, after, split, first, place⟩ :=
    exists_first member (Line.labelled_of_entry parsed)
  have answer := byLabel_of_find? read first
  have labelled := List.find?_some first
  cases given : line.entry with
  | ok other =>
      refine .inl ⟨other, answer.trans given, ?_⟩
      exact Line.labelled_unique (Line.labelled_of_entry given) labelled
  | error fault =>
      obtain ⟨cause, rfl, kind⟩ := Line.entry_eq_error given
      have late : own ∈ after := by
        rcases place with rfl | late
        · cases parsed.symm.trans given
        · exact late
      obtain ⟨rest, whole⟩ : seen content <+: content := List.takeWhile_prefix _
      refine .inr ⟨before, line, after ++ rest, cause, ?_, ?_, labelled, given, kind,
        answer.trans given⟩
      · rw [← whole, split, List.append_assoc, List.cons_append]
      · exact List.mem_append_left rest late

/-- The line of the entry comes second under its label, after one that lacks its uri. -/
def secondFiles : FileTree :=
  FileTree.empty.write "c.cfg" (Bytes.ofText "H,L,P12\nG,L,P12,a.p12,pc\n") .epoch

theorem inGroup_label_sample :
    let entry : Entry := ⟨"L", "a.p12", "pc"⟩
    inGroup secondFiles "c.cfg" "G" 0 = .ok entry ∧
      Field.label.validate "L" [Entry.fieldSeparator] = .ok () ∧
      byLabel secondFiles "c.cfg" "L" = .error (.config (.missingFields 1)) ∧
      ∃ before line after own, lines secondFiles "c.cfg" = .ok (before ++ line :: after) ∧
        line.entry = .error (.config (.missingFields 1)) ∧ own ∈ after ∧ own.entry = .ok entry := by
  intro entry
  have found : inGroup secondFiles "c.cfg" "G" 0 = .ok entry := by rfl
  have given : byLabel secondFiles "c.cfg" "L" = .error (.config (.missingFields 1)) := by rfl
  obtain ⟨_, _, allowed, content, own, read, _, parsed, answer⟩ := inGroup_label found
  refine ⟨found, allowed, given, ?_⟩
  rcases answer with ⟨other, answered, _⟩ | ⟨before, line, after, fault, split, late, _, refused,
    _, answered⟩
  · cases given.symm.trans answered
  · cases given.symm.trans answered
    exact ⟨before, line, after, own, read.trans (congrArg _ split), refused, late, parsed⟩

def longLabel : String :=
  String.ofList (List.replicate Limit.parameter 'l')

def longFiles : FileTree :=
  let conf := Bytes.ofText ("G," ++ longLabel ++ ",P12,a.p12,pc\n")
  (FileTree.empty.write "c.cfg" conf .epoch).write "a.p12" [] .epoch

/-- A group can select an entry with a label beyond the bound. A selector hands out its certificate,
and a locator refuses the label. -/
theorem selected_beyond_bound :
    let entry : Entry := ⟨longLabel, "a.p12", "pc"⟩
    let host : Host := ⟨longFiles, fun reference => .ok (Bytes.ofText reference)⟩
    let locator : Locator := ⟨"c.cfg", none, true, none⟩
    inGroup longFiles "c.cfg" "G" 0 = .ok entry ∧
      byLabel longFiles "c.cfg" longLabel = .ok entry ∧
      Field.label.validate longLabel [Entry.fieldSeparator] =
        .error (.argumentTooLong .label Limit.parameter) ∧
      (∃ selector grant,
        (Selector.create longFiles "c.cfg" "hrot.properties" "G").value = .ok selector ∧
          (selector.checkOut host).value.2 = .ok grant ∧ grant.uri = entry.uri) ∧
      (Locator.create longFiles "c.cfg" "hrot.properties").value = .ok locator ∧
      (locator.locate host longLabel).value.2 =
        .error (.argumentTooLong .label Limit.parameter) := by
  intro entry host locator
  have found : inGroup longFiles "c.cfg" "G" 0 = .ok entry := by decide +kernel
  have refused : Field.label.validate longLabel [Entry.fieldSeparator] =
      .error (.argumentTooLong .label Limit.parameter) := by decide +kernel
  have admitted : Selector.Admitted "c.cfg" "G" := ⟨by rfl, by rfl⟩
  have served : Selector.service? host entry = some ⟨Bytes.ofText "pc", by decide⟩ := by
    decide +kernel
  obtain ⟨selector, made, granted⟩ :=
    @Selector.create_checkOut host _ _ _ _ admitted found served "hrot.properties"
  refine ⟨found, by decide +kernel, refused, ⟨selector, _, made, granted, rfl⟩, by rfl, ?_⟩
  rw [Locator.locate, Locator.find, refused]
  rfl

end Lookup

end CertFailover
