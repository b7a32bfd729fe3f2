import CertFailover.Files.Edit
import CertFailover.Proofs.Lines

/-!
Configuration files as they are written: records in rows, with empty stretches anywhere between
their tags and fields and further fields behind them. Whatever the layout, the lookups give the
records.
-/

namespace CertFailover

inductive Padded : List String → List String → Prop
  | nil : Padded [] []
  | gap {stretches pieces} (rest : Padded stretches pieces) : Padded ("" :: stretches) pieces
  | piece {stretches pieces} (first : String) (rest : Padded stretches pieces) :
      Padded (first :: stretches) (first :: pieces)

structure Record where
  tags : List String
  kind : String
  entry : Entry
  tagged : tags ≠ []
  few : tags.length ≤ Limit.groupTags
  tagText : ∀ tag ∈ tags, FieldText tag
  tagSeparator : ∀ tag ∈ tags, Entry.tagSeparator ∉ tag.toList
  kindText : FieldText kind
  wellFormed : entry.WellFormed

def Record.fields (record : Record) (tags extra : List String) : List String :=
  "|".intercalate tags :: record.entry.label :: record.kind :: record.entry.uri ::
    record.entry.credentialRef :: extra

/-- A line without its newline, as the stretches of its tags and of its fields. -/
structure Row where
  record : Record
  tags : List String
  fields : List String
  extra : List String
  tagsPadded : Padded tags record.tags
  fieldsPadded : Padded fields (record.fields tags extra)
  extraText : ∀ field ∈ extra, FieldText field

def Row.text (row : Row) : String :=
  ",".intercalate row.fields

structure Document where
  rows : List Row
  last? : Option Row
  short : ∀ row ∈ rows, row.text.utf8ByteSize + 1 < Limit.line
  lastShort : ∀ row ∈ last?, row.text.utf8ByteSize < Limit.line

namespace Document

def text (document : Document) : String :=
  String.join (document.rows.map (·.text ++ "\n")) ++ (document.last?.map Row.text).getD ""

def allRows (document : Document) : List Row :=
  document.rows ++ document.last?.toList

def records (document : Document) : List Record :=
  document.allRows.map Row.record

end Document

namespace Text

theorem mem_intercalate {separator : String} {stretches : List String} {char : Char}
    (member : char ∈ (separator.intercalate stretches).toList) :
    char ∈ separator.toList ∨ ∃ stretch ∈ stretches, char ∈ stretch.toList := by
  induction stretches with
  | nil => simp at member
  | cons first rest ih =>
      cases rest with
      | nil =>
          simp at member
          exact .inr ⟨first, List.mem_cons_self, member⟩
      | cons second others =>
          rw [String.intercalate_cons_cons] at member
          simp only [String.toList_append, List.mem_append] at member
          rcases member with (here | between) | later
          · exact .inr ⟨first, List.mem_cons_self, here⟩
          · exact .inl between
          · rcases ih later with between | ⟨stretch, inside, found⟩
            · exact .inl between
            · exact .inr ⟨stretch, List.mem_cons_of_mem _ inside, found⟩

theorem pieces_intercalate {separator : Char} {stretches : List String}
    (clean : ∀ stretch ∈ stretches, separator ∉ stretch.toList) :
    pieces separator ((String.singleton separator).intercalate stretches) =
      stretches.filter (· ≠ "") := by
  by_cases none : stretches = []
  · subst none
    rfl
  · have split : ([separator].intercalate (stretches.map String.toList)).splitOn separator =
        stretches.map String.toList :=
      List.splitOn_intercalate separator (by simpa using clean) (by simpa using none)
    rw [pieces, String.toList_intercalate, String.toList_singleton, split, List.filter_map,
      List.map_map]
    have same : String.ofList ∘ String.toList = id := funext fun _ => String.ofList_toList
    rw [same, List.map_id]
    congr 1
    funext stretch
    rw [Bool.eq_iff_iff]
    simp

end Text

theorem Padded.filter {stretches pieces : List String} (padded : Padded stretches pieces)
    (whole : ∀ piece ∈ pieces, piece ≠ "") : stretches.filter (· ≠ "") = pieces := by
  induction padded with
  | nil => rfl
  | gap rest ih => simpa using ih whole
  | piece first rest ih =>
      rw [List.forall_mem_cons] at whole
      simpa [whole.1] using ih whole.2

theorem Padded.mem {stretches pieces : List String} (padded : Padded stretches pieces)
    {stretch : String} (member : stretch ∈ stretches) : stretch = "" ∨ stretch ∈ pieces := by
  induction padded with
  | nil => cases member
  | gap rest ih =>
      rcases List.mem_cons.mp member with here | later
      · exact .inl here
      · exact ih later
  | piece first rest ih =>
      rcases List.mem_cons.mp member with here | later
      · exact .inr (List.mem_cons.mpr (.inl here))
      · exact (ih later).imp_right (List.mem_cons_of_mem first)

theorem Padded.not_mem {stretches pieces : List String} (padded : Padded stretches pieces)
    {char : Char} (clean : ∀ piece ∈ pieces, char ∉ piece.toList) :
    ∀ stretch ∈ stretches, char ∉ stretch.toList := by
  intro stretch member
  rcases padded.mem member with empty | inside
  · simp [empty]
  · exact clean stretch inside

theorem Padded.pieces_intercalate {stretches pieces : List String}
    (padded : Padded stretches pieces) {separator : Char}
    (whole : ∀ piece ∈ pieces, piece ≠ "") (clean : ∀ piece ∈ pieces, separator ∉ piece.toList) :
    Text.pieces separator ((String.singleton separator).intercalate stretches) = pieces := by
  rw [Text.pieces_intercalate (padded.not_mem clean), padded.filter whole]

theorem Padded.not_mem_intercalate {stretches pieces : List String}
    (padded : Padded stretches pieces) {separator : String} {char : Char}
    (apart : char ∉ separator.toList) (clean : ∀ piece ∈ pieces, char ∉ piece.toList) :
    char ∉ (separator.intercalate stretches).toList := by
  intro member
  rcases Text.mem_intercalate member with between | ⟨stretch, inside, found⟩
  · exact apart between
  · exact padded.not_mem clean stretch inside found

namespace Row

theorem pieces_tags (row : Row) :
    Text.pieces Entry.tagSeparator ("|".intercalate row.tags) = row.record.tags :=
  row.tagsPadded.pieces_intercalate (fun tag member => (row.record.tagText tag member).nonempty)
    row.record.tagSeparator

theorem tagsText (row : Row) : FieldText ("|".intercalate row.tags) := by
  refine ⟨?_, ?_, ?_⟩
  · intro empty
    have none := row.pieces_tags
    rw [empty] at none
    exact row.record.tagged none.symm
  · exact row.tagsPadded.not_mem_intercalate (by decide)
      fun tag member => (row.record.tagText tag member).separator
  · exact row.tagsPadded.not_mem_intercalate (by decide)
      fun tag member => (row.record.tagText tag member).newline

theorem fieldText (row : Row) :
    ∀ field ∈ row.record.fields row.tags row.extra, FieldText field := by
  have wellFormed := row.record.wellFormed
  simp only [Record.fields, List.forall_mem_cons]
  exact ⟨row.tagsText, wellFormed.label, row.record.kindText, wellFormed.uri,
    wellFormed.credentialRef, row.extraText⟩

theorem fields_text (row : Row) :
    Entry.fields row.text = row.record.fields row.tags row.extra :=
  row.fieldsPadded.pieces_intercalate (fun field member => (row.fieldText field member).nonempty)
    fun field member => (row.fieldText field member).separator

theorem newline_not_mem (row : Row) : '\n' ∉ row.text.toList :=
  row.fieldsPadded.not_mem_intercalate (by decide)
    fun field member => (row.fieldText field member).newline

theorem newline_not_mem_ofText (row : Row) : Line.newline ∉ Bytes.ofText row.text :=
  mt Bytes.newline_mem_ofText_iff.mp row.newline_not_mem

theorem text_ne_empty (row : Row) : row.text ≠ "" := by
  intro empty
  have fields := row.fields_text
  rw [empty] at fields
  cases fields

theorem belongs_iff (row : Row) (group : String) :
    Entry.belongs ("|".intercalate row.tags) group = true ↔ group ∈ row.record.tags := by
  rw [Entry.belongs, row.pieces_tags, List.take_of_length_le row.record.few,
    List.contains_iff_mem]

end Row

theorem Entry.WellFormed.ofFields {entry : Entry} (wellFormed : entry.WellFormed) (number : Nat)
    (kind : String) (extra : List String) :
    Entry.ofFields number (entry.label :: kind :: entry.uri :: entry.credentialRef :: extra) =
      .ok entry := by
  have uri : Field.uri.fits entry.uri.utf8ByteSize = true := by
    simpa [Field.limit] using wellFormed.uriShort
  have credentialRef : Field.credentialRef.fits entry.credentialRef.utf8ByteSize = true := by
    simpa [Field.limit] using wellFormed.credentialRefShort
  simp [Entry.ofFields, uri, credentialRef]

theorem Entry.WellFormed.mapError_ofFields {entry : Entry} (wellFormed : entry.WellFormed)
    (number : Nat) (kind : String) (extra : List String) :
    (Entry.ofFields number (entry.label :: kind :: entry.uri :: entry.credentialRef ::
      extra)).mapError LookupFault.config = .ok entry := by
  rw [wellFormed.ofFields]
  rfl

namespace Document

theorem ofText_rows (rows : List Row) :
    Bytes.ofText (String.join (rows.map (·.text ++ "\n"))) =
      (rows.map fun row => Bytes.ofText row.text).flatMap (· ++ [Line.newline]) := by
  have lines := Bytes.ofText_join (rows.map Row.text)
  rwa [List.map_map, List.map_map] at lines

theorem bodies_rows (document : Document) :
    (document.rows.map fun row => Bytes.ofText row.text).map
        (fun bytes => LineBody.ofBytes bytes (bytes.length + 1)) =
      document.rows.map fun row => .text row.text := by
  rw [List.map_map]
  apply List.map_congr_left
  intro row member
  apply LineBody.ofBytes_ofText
  rw [Bytes.length_ofText]
  exact document.short row member

theorem ofContent_text (document : Document) :
    Line.ofContent (Bytes.ofText document.text) =
      Line.numbered 0 (document.allRows.map fun row => .text row.text) := by
  have clean : ∀ bytes ∈ document.rows.map (fun row => Bytes.ofText row.text),
      Line.newline ∉ bytes := by
    simp only [List.forall_mem_map]
    exact fun row _ => row.newline_not_mem_ofText
  rw [text, allRows, Bytes.ofText_append, ofText_rows]
  cases last : document.last? with
  | none =>
      have empty : Bytes.ofText "" = [] := rfl
      rw [Option.map_none, Option.getD_none, empty, List.append_nil, Line.ofContent_lines clean,
        bodies_rows, Option.toList_none, List.append_nil]
  | some row =>
      have more : Bytes.ofText row.text ≠ [] := mt Bytes.ofText_eq_nil_iff.mp row.text_ne_empty
      have short : (Bytes.ofText row.text).length < Limit.line := by
        rw [Bytes.length_ofText]
        exact document.lastShort row last
      rw [Option.map_some, Option.getD_some,
        Line.ofContent_lines_append clean row.newline_not_mem_ofText more, bodies_rows,
        LineBody.ofBytes_ofText short, Option.toList_some, List.map_append]
      rfl

end Document

namespace Lookup

theorem inGroupLines_rows (group : String) (number ordinal : Nat) (rows : List Row) :
    inGroupLines group ordinal (Line.numbered number (rows.map fun row => .text row.text)) =
      (((rows.map Row.record).filter (group ∈ ·.tags))[ordinal]?).elim (.error .noEntry)
        fun record => .ok record.entry := by
  induction rows generalizing number ordinal with
  | nil => rfl
  | cons row rest ih =>
      rw [List.map_cons, Line.numbered, inGroupLines, row.fields_text, Record.fields]
      simp only [row.belongs_iff, row.record.wellFormed.mapError_ofFields, List.map_cons,
        List.filter_cons]
      by_cases belongs : group ∈ row.record.tags
      · cases ordinal with
        | zero => simp [belongs]
        | succ before => simp [belongs, ih]
      · simp [belongs, ih]

theorem byLabelLines_rows (label : String) (number : Nat) (rows : List Row) :
    byLabelLines label (Line.numbered number (rows.map fun row => .text row.text)) =
      ((rows.map Row.record).find? (·.entry.label = label)).elim (.error .noEntry)
        fun record => .ok record.entry := by
  induction rows generalizing number with
  | nil => rfl
  | cons row rest ih =>
      rw [List.map_cons, Line.numbered, byLabelLines, row.fields_text, Record.fields]
      simp only [row.record.wellFormed.mapError_ofFields, List.map_cons, List.find?_cons]
      by_cases same : row.record.entry.label = label
      · simp [same]
      · simp [same, ih]

theorem lines_of_read {files : FileTree} {path : String} {content : Bytes}
    (stored : files.read path = .ok content) : lines files path = .ok (Line.ofContent content) := by
  rw [FileTree.read] at stored
  rw [lines]
  cases found : files.find path with
  | error cause =>
      rw [found] at stored
      cases stored
  | ok node =>
      rw [found] at stored
      change node.content = .ok content at stored
      simp only [stored]

end Lookup

/-- The lookups give back what a document was written for: in a group the record at an ordinal among
those with the tag, and under a label the first record with it. -/
theorem Document.lookup_written {files : FileTree} {path : String} {document : Document}
    (stored : files.read path = .ok (Bytes.ofText document.text)) :
    (∀ group ordinal, ordinal < Limit.ordinals →
      Lookup.inGroup files path group ordinal =
        ((document.records.filter (group ∈ ·.tags))[ordinal]?).elim (.error .noEntry)
          fun record => .ok record.entry) ∧
      ∀ label, Lookup.byLabel files path label =
        (document.records.find? (·.entry.label = label)).elim (.error .noEntry)
          fun record => .ok record.entry := by
  have lines := Lookup.lines_of_read stored
  rw [document.ofContent_text] at lines
  constructor
  · intro group ordinal range
    rw [Lookup.inGroup, if_neg (Nat.not_le.mpr range), lines]
    exact Lookup.inGroupLines_rows group 0 ordinal document.allRows
  · intro label
    rw [Lookup.byLabel, lines]
    exact Lookup.byLabelLines_rows label 0 document.allRows

def sampleFirst : Row where
  record := {
    tags := ["G", "H"]
    kind := "P12"
    entry := ⟨"L", "a.p12", "pc"⟩
    tagged := by decide
    few := by decide
    tagText := by decide
    tagSeparator := by decide
    kindText := by decide
    wellFormed := ⟨by decide, by decide, by decide, by decide, by decide⟩ }
  tags := ["", "G", "", "H"]
  fields := ["", "|G||H", "L", "", "P12", "a.p12", "pc", "more", ""]
  extra := ["more"]
  tagsPadded := .gap (.piece _ (.gap (.piece _ .nil)))
  fieldsPadded := .gap (.piece _ (.piece _ (.gap (.piece _ (.piece _ (.piece _ (.piece _
    (.gap .nil))))))))
  extraText := by decide

def sampleSecond : Row where
  record := {
    tags := ["H"]
    kind := "P12"
    entry := ⟨"M", "b.p12", "pd"⟩
    tagged := by decide
    few := by decide
    tagText := by decide
    tagSeparator := by decide
    kindText := by decide
    wellFormed := ⟨by decide, by decide, by decide, by decide, by decide⟩ }
  tags := ["H"]
  fields := ["H", "M", "P12", "b.p12", "pd"]
  extra := []
  tagsPadded := .piece _ .nil
  fieldsPadded := .piece _ (.piece _ (.piece _ (.piece _ (.piece _ .nil))))
  extraText := by decide

def sampleDocument : Document where
  rows := [sampleFirst]
  last? := some sampleSecond
  short := by decide
  lastShort := by decide

theorem Document.lookup_written_sample :
    let files := FileTree.empty.write "c.cfg" (Bytes.ofText sampleDocument.text) .epoch
    sampleDocument.text = ",|G||H,L,,P12,a.p12,pc,more,\nH,M,P12,b.p12,pd" ∧
      files.read "c.cfg" = .ok (Bytes.ofText sampleDocument.text) ∧
      Lookup.inGroup files "c.cfg" "H" 1 = .ok ⟨"M", "b.p12", "pd"⟩ ∧
      Lookup.inGroup files "c.cfg" "G" 1 = .error .noEntry ∧
      Lookup.byLabel files "c.cfg" "L" = .ok ⟨"L", "a.p12", "pc"⟩ := by
  intro files
  have stored : files.read "c.cfg" = .ok (Bytes.ofText sampleDocument.text) := by rfl
  have written := Document.lookup_written stored
  exact ⟨by decide, stored, (written.1 "H" 1 (by decide)).trans (by rfl),
    (written.1 "G" 1 (by decide)).trans (by rfl), (written.2 "L").trans (by rfl)⟩

end CertFailover
