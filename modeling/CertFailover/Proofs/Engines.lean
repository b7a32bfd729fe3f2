import CertFailover.Proofs.Agreement
import CertFailover.Proofs.Cuts
import CertFailover.Proofs.Lines

/-!
Engines named by properties files. The first line with the key decides, among those that can be read;
the others are passed over, so that nothing changes if they are deleted. Whatever is wrong with the
file, selectors and locators are made all the same.
-/

namespace CertFailover

structure RawLines where
  lines : List Bytes
  last : Bytes
  clean : ∀ bytes ∈ lines, Line.newline ∉ bytes
  lastClean : Line.newline ∉ last

def Bytes.lineText? (bytes : Bytes) (newlines : Nat) : Option String :=
  if bytes.length + newlines < Limit.line then bytes.text? else none

namespace RawLines

def content (raw : RawLines) : Bytes :=
  raw.lines.flatMap (· ++ [Line.newline]) ++ raw.last

def texts (raw : RawLines) : List String :=
  raw.lines.filterMap (·.lineText? 1) ++
    if raw.last = [] then [] else (raw.last.lineText? 0).toList

def legible (raw : RawLines) : RawLines where
  lines := raw.lines.filter fun bytes => (bytes.lineText? 1).isSome
  last := if (raw.last.lineText? 0).isSome then raw.last else []
  clean := fun bytes member => raw.clean bytes (List.mem_filter.mp member).1
  lastClean := by
    split
    · exact raw.lastClean
    · exact List.not_mem_nil

theorem exists_content (content : Bytes) : ∃ raw : RawLines, content = raw.content := by
  obtain ⟨lines, last, split, clean, lastClean⟩ := content.exists_lines
  exact ⟨⟨lines, last, clean, lastClean⟩, split⟩

theorem texts_legible (raw : RawLines) : raw.legible.texts = raw.texts := by
  have last : raw.legible.last = if (raw.last.lineText? 0).isSome then raw.last else [] := rfl
  rw [texts, texts, last]
  congr 1
  · rw [legible, List.filterMap_filter]
    apply List.filterMap_congr
    intro bytes _
    cases bytes.lineText? 1 <;> rfl
  · by_cases read : (raw.last.lineText? 0).isSome
    · rw [if_pos read]
    · rw [if_neg read, if_pos rfl, Option.not_isSome_iff_eq_none.mp read, Option.toList_none, ite_self]

end RawLines

def LineBody.text? : LineBody → Option String
  | .text decoded => some decoded
  | .tooLong | .notUtf8 => none

theorem LineBody.text?_ofBytes (bytes : Bytes) (newlines : Nat) :
    (LineBody.ofBytes bytes (bytes.length + newlines)).text? = bytes.lineText? newlines := by
  rw [LineBody.ofBytes, Bytes.lineText?]
  by_cases short : bytes.length + newlines < Limit.line
  · rw [if_neg (Nat.not_le.mpr short), if_pos short]
    cases bytes.text? <;> rfl
  · rw [if_pos (Nat.le_of_not_lt short), if_neg short]
    rfl

theorem Line.filterMap_numbered (number : Nat) (bodies : List LineBody) :
    (Line.numbered number bodies).filterMap (·.body.text?) =
      bodies.filterMap LineBody.text? := by
  conv => rhs; rw [← Line.map_body_numbered number bodies, List.filterMap_map]
  rfl

theorem RawLines.filterMap_ofContent (raw : RawLines) :
    (Line.ofContent raw.content).filterMap (·.body.text?) = raw.texts := by
  have bodies : (raw.lines.map fun bytes =>
      LineBody.ofBytes bytes (bytes.length + 1)).filterMap LineBody.text? =
        raw.lines.filterMap (·.lineText? 1) := by
    rw [List.filterMap_map]
    exact List.filterMap_congr fun bytes _ => LineBody.text?_ofBytes bytes 1
  rw [content, texts, Line.ofContent_split raw.clean raw.lastClean, Line.filterMap_numbered,
    List.filterMap_append, bodies]
  by_cases nothing : raw.last = []
  · rw [if_pos nothing, if_pos nothing, List.filterMap_nil]
  · have last := LineBody.text?_ofBytes raw.last 0
    rw [Nat.add_zero] at last
    rw [if_neg nothing, if_neg nothing, List.filterMap_cons, last]
    cases raw.last.lineText? 0 <;> rfl

theorem Text.after?_eq_some_iff {beginning text rest : String} :
    Text.after? beginning text = some rest ↔ text = beginning ++ rest := by
  rw [Text.after?, Option.map_eq_some_iff, ← String.toList_inj, String.toList_append]
  constructor
  · rintro ⟨chars, found, rfl⟩
    rw [String.toList_ofList]
    exact (List.isPrefixOf?_eq_some_iff_append_eq.mp found).symm
  · intro split
    exact ⟨rest.toList, List.isPrefixOf?_eq_some_iff_append_eq.mpr split.symm, String.ofList_toList⟩

theorem Text.after?_eq_none_iff {beginning text : String} :
    Text.after? beginning text = none ↔ ∀ rest, text ≠ beginning ++ rest := by
  simp [Option.eq_none_iff_forall_ne_some, Text.after?_eq_some_iff]

namespace Engine

/-- The engine that a value names: as much of it as fits, unless nothing is there. -/
def named (value : String) : Option String :=
  if Text.cut Limit.engine value = "" then none else some (Text.cut Limit.engine value)

theorem value_ofLines (path : String) (lines : List Line) :
    (ofLines path lines).value =
      ((lines.filterMap (·.body.text?)).findSome? (Text.after? key)).bind named := by
  induction lines with
  | nil => rfl
  | cons line rest ih =>
      obtain ⟨number, body⟩ := line
      cases body with
      | tooLong => exact ih
      | notUtf8 => exact ih
      | text text =>
          have first : LineBody.text? (.text text) = some text := rfl
          rw [ofLines, List.filterMap_cons]
          simp only [first, List.findSome?_cons]
          cases Text.after? key text with
          | none => exact ih
          | some value =>
              rw [Option.bind_some, named]
              by_cases empty : Text.cut Limit.engine value = ""
              · simp [empty]
              · simp [empty]

theorem named_eq_none_iff {value : String} : named value = none ↔ value = "" := by
  rw [named, ← @Text.cut_eq_empty_iff Limit.engine (by decide) value]
  split <;> simp_all

theorem longest_of_named {value engine : String} (found : named value = some engine) :
    engine ≠ "" ∧ Text.Longest Limit.engine value engine := by
  rw [named] at found
  split at found
  · cases found
  · rename_i nonempty
    cases found
    exact ⟨nonempty, Text.cut_longest Limit.engine value⟩

theorem value_read_of_error {files : FileTree} {path : String} {cause : FileError}
    (refused : files.read path = .error cause) : (read files path).value = none := by
  rw [FileTree.read] at refused
  rw [read]
  cases found : files.find path with
  | error other => rfl
  | ok node =>
      rw [found] at refused
      cases given : node.content with
      | error other => simp [given, ofLines]
      | ok content => cases given.symm.trans refused

theorem value_read {files : FileTree} {path : String} {raw : RawLines}
    (stored : files.read path = .ok raw.content) :
    (read files path).value = (raw.texts.findSome? (Text.after? key)).bind named := by
  rw [FileTree.read] at stored
  rw [read]
  cases found : files.find path with
  | error cause =>
      rw [found] at stored
      cases stored
  | ok node =>
      rw [found] at stored
      have given : node.content = .ok raw.content := stored
      simp only [given]
      rw [value_ofLines, raw.filterMap_ofContent]

end Engine

theorem Selector.value_create_eq_ok_iff {files : FileTree}
    {configPath propertiesPath group : String} {selector : Selector} :
    (create files configPath propertiesPath group).value = .ok selector ↔
      Admitted configPath group ∧ ∃ entry, Lookup.inGroup files configPath group 0 = .ok entry ∧
        selector = ⟨configPath, group, (Engine.read files propertiesPath).value, .empty,
          .ready (some ⟨0, entry⟩)⟩ := by
  constructor
  · intro created
    have admitted := admitted_of_create created
    rw [value_create_of_admitted admitted] at created
    cases found : Lookup.inGroup files configPath group 0 with
    | error fault =>
        rw [found] at created
        cases created
    | ok entry =>
        rw [found] at created
        cases created
        exact ⟨admitted, entry, rfl, rfl⟩
  · rintro ⟨admitted, entry, found, rfl⟩
    rw [value_create_of_admitted admitted, found]

theorem Locator.value_create_eq_ok_iff {files : FileTree} {configPath propertiesPath : String}
    {locator : Locator} :
    (create files configPath propertiesPath).value = .ok locator ↔
      Field.configPath.validate configPath [] = .ok () ∧ files.isFile configPath = true ∧
        locator = ⟨configPath, (Engine.read files propertiesPath).value, true, none⟩ := by
  rw [create]
  cases Field.configPath.validate configPath [] with
  | error fault => simp
  | ok _ => cases files.isFile configPath <;> simp [eq_comm]

namespace Engine

/-- The first line with the key that can be read names the engine, which is the longest part of its
value that fits. What cannot be read has no influence, and selectors and locators are made whatever
the file is like. -/
theorem read_first_keyed (files : FileTree) (path : String) :
    let engine? := (read files path).value
    (∀ cause, files.read path = .error cause → engine? = none) ∧
      (∀ content, ∃ raw : RawLines, content = raw.content) ∧
      (∀ raw : RawLines, files.read path = .ok raw.content →
        ((∀ text ∈ raw.texts, ∀ value, text ≠ key ++ value) → engine? = none) ∧
        (∀ before value after, raw.texts = before ++ (key ++ value) :: after →
          (∀ text ∈ before, ∀ rest, text ≠ key ++ rest) →
            (engine? = none ↔ value = "") ∧
            ∀ engine, engine? = some engine →
              engine ≠ "" ∧ Text.Longest Limit.engine value engine) ∧
        ∀ others place, others.read place = .ok raw.legible.content →
          (read others place).value = engine?) ∧
      (∀ configPath group selector,
        (Selector.create files configPath path group).value = .ok selector ↔
          Selector.Admitted configPath group ∧
            ∃ entry, Lookup.inGroup files configPath group 0 = .ok entry ∧
              selector = ⟨configPath, group, engine?, .empty, .ready (some ⟨0, entry⟩)⟩) ∧
      ∀ configPath locator, (Locator.create files configPath path).value = .ok locator ↔
        Field.configPath.validate configPath [] = .ok () ∧ files.isFile configPath = true ∧
          locator = ⟨configPath, engine?, true, none⟩ := by
  intro engine?
  refine ⟨fun _ => value_read_of_error, RawLines.exists_content, ?_,
    fun _ _ _ => Selector.value_create_eq_ok_iff, fun _ _ => Locator.value_create_eq_ok_iff⟩
  intro raw stored
  have value : engine? = (raw.texts.findSome? (Text.after? key)).bind named := value_read stored
  refine ⟨?_, ?_, ?_⟩
  · intro keyless
    have none : raw.texts.findSome? (Text.after? key) = none :=
      List.findSome?_eq_none_iff.mpr fun text member =>
        Text.after?_eq_none_iff.mpr (keyless text member)
    rw [value, none, Option.bind_none]
  · intro before rest after split keyless
    have first : raw.texts.findSome? (Text.after? key) = some rest :=
      List.findSome?_eq_some_iff.mpr ⟨before, key ++ rest, after, split,
        Text.after?_eq_some_iff.mpr rfl,
        fun text member => Text.after?_eq_none_iff.mpr (keyless text member)⟩
    rw [value, first, Option.bind_some]
    exact ⟨named_eq_none_iff, fun engine => longest_of_named⟩
  · intro others place kept
    rw [value_read kept, raw.texts_legible, value]

def sampleLines : RawLines where
  lines := [Bytes.ofText key ++ [255], Bytes.ofText key ++ List.replicate Limit.line 120,
    Bytes.ofText (key ++ "aéééééééééééééééé"), Bytes.ofText (key ++ "other")]
  last := []
  clean := by decide +kernel
  lastClean := List.not_mem_nil

def sampleFiles : FileTree :=
  Selector.sampleFiles.write "hrot.properties" sampleLines.content .epoch

/-- The cut falls into a character, which is left out whole. -/
theorem read_first_keyed_sample :
    let long := "aéééééééééééééééé"
    let engine := "aééééééééééééééé"
    sampleFiles.read "hrot.properties" = .ok sampleLines.content ∧
      sampleLines.texts = [key ++ long, key ++ "other"] ∧ long.utf8ByteSize = 33 ∧
      engine.utf8ByteSize = 31 ∧ (read sampleFiles "hrot.properties").value = some engine ∧
      Text.Longest Limit.engine long engine ∧
      (read sampleFiles "none.properties").value = none ∧
      ∃ selector, (Selector.create sampleFiles "c.cfg" "none.properties" "G").value = .ok selector ∧
        selector.engine? = none := by
  intro long engine
  have stored : sampleFiles.read "hrot.properties" = .ok sampleLines.content := by decide +kernel
  have texts : sampleLines.texts = [key ++ long, key ++ "other"] := by decide +kernel
  have found : (read sampleFiles "hrot.properties").value = some engine := by decide +kernel
  have missing : sampleFiles.read "none.properties" = .error .missing := by decide +kernel
  have first : Lookup.inGroup sampleFiles "c.cfg" "G" 0 = .ok ⟨"L", "a.p12", "pc"⟩ := by
    decide +kernel
  obtain ⟨_, _, named, _⟩ := read_first_keyed sampleFiles "hrot.properties"
  obtain ⟨_, longest⟩ := (named sampleLines stored).2.1 [] long [key ++ "other"] texts (by simp)
  obtain ⟨absent, _, _, made, _⟩ := read_first_keyed sampleFiles "none.properties"
  have created := (made "c.cfg" "G" _).mpr ⟨⟨by rfl, by rfl⟩, _, first, rfl⟩
  exact ⟨stored, texts, by decide +kernel, by decide +kernel, found, (longest engine found).2,
    absent .missing missing, _, created, absent .missing missing⟩

end Engine

end CertFailover
