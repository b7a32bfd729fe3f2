import CertFailover.Proofs.Contents
import CertFailover.Proofs.Scans
import CertFailover.Proofs.Substitution

/-!
Discretion about credential references. Two configurations that differ in references only, with
stores that answer them alike, cannot be told apart by anything but events of the level `debug`.
-/

namespace CertFailover

/-- The likeness of runs in which references correspond and may fail to be answered in any way. -/
def Likeness.ofReferences (corresponds : String → String → Prop) : Likeness :=
  ⟨corresponds, fun _ _ => True⟩

/-- Lines without their newlines that are the same but for the fifth field that is not empty, the
credential reference. The one corresponds to the other, also where it is the same. -/
inductive Line.Counterpart (corresponds : String → String → Prop) : Bytes → Bytes → Prop
  | same {bytes : Bytes}
      (known : ∀ text, bytes.text? = some text → ∀ reference,
        (Entry.fields text)[4]? = some reference → corresponds reference reference) :
      Counterpart corresponds bytes bytes
  | replaced {before after : List Bytes} {reference substitute : String} {bytes other : Bytes}
      (replaced : Bytes.Replaced before after reference substitute bytes other)
      (fifth : (before.filter (! ·.isEmpty)).length = 4) (present : reference ≠ "")
      (substitutePresent : substitute ≠ "")
      (size : reference.utf8ByteSize = substitute.utf8ByteSize)
      (related : corresponds reference substitute) : Counterpart corresponds bytes other

def Line.SameButReferences (corresponds : String → String → Prop) (content other : Bytes) : Prop :=
  List.Forall₂ (Line.Counterpart corresponds) (content.splitOn Line.newline)
    (other.splitOn Line.newline)

section

variable (like : Likeness)

inductive Entry.FieldsAlike : List String → List String → Prop
  | few {fields : List String} (short : fields.length < 5) : FieldsAlike fields fields
  | full (tags label kind uri : String) {reference other : String} (rest : List String)
      (size : reference.utf8ByteSize = other.utf8ByteSize)
      (related : like.reference reference other) :
      FieldsAlike (tags :: label :: kind :: uri :: reference :: rest)
        (tags :: label :: kind :: uri :: other :: rest)

inductive LineBody.Alike : LineBody → LineBody → Prop
  | text {text other : String}
      (fields : Entry.FieldsAlike like (Entry.fields text) (Entry.fields other)) :
      Alike (.text text) (.text other)
  | tooLong : Alike .tooLong .tooLong
  | notUtf8 : Alike .notUtf8 .notUtf8

inductive Line.Alike : Line → Line → Prop
  | mk (number : Nat) {body other : LineBody} (bodies : body.Alike like other) :
      Alike ⟨number, body⟩ ⟨number, other⟩

end

section

variable {like : Likeness}

theorem Entry.fieldsAlike_self {fields : List String}
    (known : ∀ reference, fields[4]? = some reference → like.reference reference reference) :
    FieldsAlike like fields fields := by
  match fields with
  | [] | [_] | [_, _] | [_, _, _] | [_, _, _, _] => exact .few (by simp)
  | tags :: label :: kind :: uri :: reference :: rest =>
      exact .full tags label kind uri rest rfl (known reference rfl)

theorem Entry.ofFields_alike {fields others : List String}
    (alike : FieldsAlike like fields others) (number : Nat) :
    Matching Eq (Entry.Alike like) (ofFields number fields.tail) (ofFields number others.tail) := by
  cases alike with
  | few short =>
      match fields with
      | [] | [_] | [_, _] | [_, _, _] => exact .failed rfl
      | [_, _, _, uri] =>
          rw [List.tail_cons, ofFields]
          split <;> exact .failed rfl
  | full tags label kind uri rest size related =>
      rw [List.tail_cons, List.tail_cons, ofFields, ofFields, size]
      split
      · exact .failed rfl
      · split
        · exact .failed rfl
        · exact .given (.mk label uri related)

namespace Line

variable {line twin : Line}

theorem Alike.readable (alike : line.Alike like twin) : line.readable = twin.readable := by
  obtain ⟨number, bodies⟩ := alike
  cases bodies <;> rfl

theorem Alike.stop (alike : line.Alike like twin) : line.stop = twin.stop := by
  obtain ⟨number, bodies⟩ := alike
  cases bodies <;> rfl

theorem Alike.fields (alike : line.Alike like twin) :
    Entry.FieldsAlike like line.fields twin.fields := by
  obtain ⟨number, bodies⟩ := alike
  cases bodies with
  | text fields => exact fields
  | tooLong | notUtf8 => exact .few (Nat.zero_lt_succ _)

theorem Alike.serves (alike : line.Alike like twin) (group : String) :
    line.serves group = twin.serves group := by
  have fields := alike.fields
  rw [Line.serves, Line.serves]
  generalize line.fields = first at fields
  generalize twin.fields = second at fields
  cases fields <;> rfl

theorem Alike.labelled (alike : line.Alike like twin) (label : String) :
    line.labelled label = twin.labelled label := by
  have fields := alike.fields
  rw [Line.labelled, Line.labelled]
  generalize line.fields = first at fields
  generalize twin.fields = second at fields
  cases fields <;> rfl

theorem Alike.entry (alike : line.Alike like twin) :
    Matching Eq (Entry.Alike like) line.entry twin.entry := by
  have number : line.number = twin.number := by
    cases alike
    rfl
  have parsed := Entry.ofFields_alike alike.fields line.number
  rw [Line.entry, Line.entry, ← number]
  generalize Entry.ofFields line.number line.fields.tail = first at parsed
  generalize Entry.ofFields line.number twin.fields.tail = second at parsed
  cases parsed with
  | failed related => exact .failed (congrArg LookupFault.config related)
  | given related => exact .given related

end Line

namespace Lookup

variable {lines others : List Line}

theorem seen_alike (same : List.Forall₂ (Line.Alike like) lines others) :
    List.Forall₂ (Line.Alike like) (seen lines) (seen others) := by
  induction same with
  | nil => exact .nil
  | @cons line twin rest others first _ ih =>
      by_cases readable : line.readable = true
      · rw [seen_cons readable, seen_cons (first.readable ▸ readable)]
        exact .cons first ih
      · rw [seen_cons_of_not readable, seen_cons_of_not (first.readable ▸ readable)]
        exact .nil

theorem missed_alike (same : List.Forall₂ (Line.Alike like) lines others) :
    missed lines = missed others := by
  induction same with
  | nil => rfl
  | @cons line twin rest others first _ ih =>
      by_cases readable : line.readable = true
      · rw [missed_cons readable, missed_cons (first.readable ▸ readable), ih]
      · rw [missed_cons_of_not readable, missed_cons_of_not (first.readable ▸ readable), first.stop]

theorem getElem?_alike (same : List.Forall₂ (Line.Alike like) lines others) (index : Nat) :
    Option.Rel (Line.Alike like) lines[index]? others[index]? := by
  induction same generalizing index with
  | nil => exact .none
  | cons first _ ih =>
      cases index with
      | zero => exact .some first
      | succ index => exact ih index

theorem pick_alike {kind : Line → Bool}
    (kinds : ∀ line twin, line.Alike like twin → kind line = kind twin)
    (same : List.Forall₂ (Line.Alike like) lines others) (ordinal : Nat) :
    Matching Eq (Entry.Alike like)
      (((seen lines).filter kind)[ordinal]?.elim (.error (missed lines)) Line.entry)
      (((seen others).filter kind)[ordinal]?.elim (.error (missed others)) Line.entry) := by
  have kindred : List.Forall₂ (Line.Alike like) ((seen lines).filter kind)
      ((seen others).filter kind) :=
    List.rel_filter (fun line twin alike => by simp only [kinds line twin alike]) (seen_alike same)
  have picked := getElem?_alike kindred ordinal
  generalize ((seen lines).filter kind)[ordinal]? = first at picked
  generalize ((seen others).filter kind)[ordinal]? = second at picked
  cases picked with
  | none => exact .failed (missed_alike same)
  | some alike => exact alike.entry

theorem inGroup_alike {path : String} {files twin : FileTree}
    (same : Matching Eq (List.Forall₂ (Line.Alike like)) (Lookup.lines files path)
      (Lookup.lines twin path))
    (group : String) : AlikeIn like path group files twin := by
  intro ordinal
  rw [inGroup, inGroup]
  split
  · exact .failed rfl
  · apply same.bind
    intro lines others same
    rw [inGroupLines_eq, inGroupLines_eq]
    exact pick_alike (fun line twin alike => alike.serves group) same ordinal

theorem byLabel_alike {path : String} {files twin : FileTree}
    (same : Matching Eq (List.Forall₂ (Line.Alike like)) (Lookup.lines files path)
      (Lookup.lines twin path)) :
    AlikeUnder like path files twin := by
  intro label
  rw [byLabel, byLabel]
  apply same.bind
  intro lines others same
  simp only [byLabelLines_eq, ← List.head?_filter, List.head?_eq_getElem?]
  exact pick_alike (fun line twin alike => alike.labelled label) same 0

end Lookup

theorem Line.numbered_alike {bodies others : List LineBody}
    (same : List.Forall₂ (LineBody.Alike like) bodies others) (number : Nat) :
    List.Forall₂ (Line.Alike like) (Line.numbered number bodies)
      (Line.numbered number others) := by
  induction same generalizing number with
  | nil => exact .nil
  | cons first _ ih => exact .cons (.mk _ first) (ih _)

end

section

variable {corresponds : String → String → Prop}

namespace Line.Counterpart

variable {bytes other : Bytes}

theorem length (counterpart : Counterpart corresponds bytes other) :
    bytes.length = other.length := by
  cases counterpart with
  | same => rfl
  | replaced replaced _ _ _ size _ => exact replaced.length size

theorem body (counterpart : Counterpart corresponds bytes other) (newlines : Nat) :
    (LineBody.ofBytes bytes (bytes.length + newlines)).Alike (.ofReferences corresponds)
      (LineBody.ofBytes other (other.length + newlines)) := by
  rw [LineBody.ofBytes, LineBody.ofBytes, ← counterpart.length]
  split
  · exact .tooLong
  · cases counterpart with
    | same known =>
        cases decoded : bytes.text? with
        | none => exact .notUtf8
        | some text => exact .text (Entry.fieldsAlike_self (known text decoded))
    | replaced replaced fifth present substitutePresent size related =>
        cases decoded : bytes.text? with
        | some text =>
            obtain ⟨twin, tags, label, kind, uri, rest, twinDecoded, fields, twinFields⟩ :=
              replaced.fields fifth present substitutePresent decoded
            simp only [twinDecoded]
            apply LineBody.Alike.text
            rw [fields, twinFields]
            exact .full tags label kind uri rest size related
        | none =>
            cases twinDecoded : other.text? with
            | none => exact .notUtf8
            | some twin =>
                -- What replaces a field can itself be replaced by it.
                obtain ⟨text, _, _, _, _, _, found, _⟩ :=
                  replaced.symm.fields fifth substitutePresent present twinDecoded
                rw [decoded] at found
                cases found

theorem bodies {stretches others : List Bytes}
    (same : List.Forall₂ (Counterpart corresponds) stretches others) :
    List.Forall₂ (LineBody.Alike (.ofReferences corresponds)) (LineBody.ofStretches stretches)
      (LineBody.ofStretches others) := by
  induction same with
  | nil => exact .nil
  | @cons bytes other rest others first later ih =>
      cases later with
      | nil =>
          have empty : bytes.isEmpty = other.isEmpty := by
            rw [Bool.eq_iff_iff, List.isEmpty_iff_length_eq_zero, List.isEmpty_iff_length_eq_zero,
              first.length]
          rw [LineBody.ofStretches, LineBody.ofStretches, empty]
          split
          · exact .nil
          · exact .cons (first.body 0) .nil
      | cons second later => exact .cons (first.body 1) ih

end Line.Counterpart

theorem Line.SameButReferences.lines {content other : Bytes}
    (same : SameButReferences corresponds content other) :
    List.Forall₂ (Line.Alike (.ofReferences corresponds)) (Line.ofContent content)
      (Line.ofContent other) := by
  rw [Line.ofContent_eq_numbered, Line.ofContent_eq_numbered]
  exact Line.numbered_alike (Line.Counterpart.bodies same) 0

def Logged.overt {α : Type} (computation : Logged α) : Logged α :=
  ⟨computation.value, computation.events.filter (·.level ≠ .debug)⟩

theorem Event.overt_alike {like : Likeness} {events others : List Event}
    (alike : List.Forall₂ (Event.Alike like) events others) :
    events.filter (·.level ≠ .debug) = others.filter (·.level ≠ .debug) := by
  induction alike with
  | nil => rfl
  | cons first _ ih =>
      cases first with
      | same event => rw [List.filter_cons, List.filter_cons, ih]
      | credentialFailed => exact ih

theorem Logged.Alike.overt {like : Likeness} {α : Type} {computation twin : Logged α}
    (alike : computation.Alike like Eq twin) : computation.overt = twin.overt := by
  rw [Logged.overt, Logged.overt, alike.value, Event.overt_alike alike.events]

/-- Steps with the same call, in file trees that are the same but for the references of a
configuration, and with references that correspond answered by the same value or not at all. -/
structure StepButReferences {Call : Type} (corresponds : String → String → Prop)
    (configPath : String) (step other : Host × Call) : Prop where
  call : step.2 = other.2
  files : step.1.files.AlikeAt (Line.SameButReferences corresponds) configPath other.1.files
  answers : ∀ {reference substitute}, corresponds reference substitute →
    Matching (fun _ _ => True) Eq (step.1.credentials reference) (other.1.credentials substitute)

theorem FileTree.AlikeAt.references {configPath : String} {files twin : FileTree}
    (alike : files.AlikeAt (Line.SameButReferences corresponds) configPath twin) :
    (∀ group, Lookup.AlikeIn (.ofReferences corresponds) configPath group files twin) ∧
      Lookup.AlikeUnder (.ofReferences corresponds) configPath files twin := by
  have lines := alike.lines _ Line.SameButReferences.lines
  exact ⟨Lookup.inGroup_alike lines, Lookup.byLabel_alike lines⟩

theorem Matching.describe {like : Likeness} {result other : Except LookupFault Entry}
    (same : Matching Eq (Entry.Alike like) result other) :
    result.map Entry.describe = other.map Entry.describe := by
  cases same with
  | failed related => rw [related]
  | given alike => exact congrArg Except.ok alike.describe

theorem StepButReferences.host {Call : Type} {configPath : String} {step other : Host × Call}
    (same : StepButReferences corresponds configPath step other) :
    step.1.Alike (.ofReferences corresponds) other.1 :=
  ⟨same.files.modified?, same.answers⟩

/-- Credential references are told by nothing but events of the level `debug`. Since the same holds
for fewer steps, it holds at each moment of the life of a handle. -/
theorem lives_discreet {configPath propertiesPath : String} {files others : FileTree}
    (alike : files.AlikeAt (Line.SameButReferences corresponds) configPath others)
    (properties : files.read propertiesPath = others.read propertiesPath) :
    (∀ group {steps twins : List (Host × Selector.Call)},
      List.Forall₂ (StepButReferences corresponds configPath) steps twins →
        (Selector.life files configPath propertiesPath group steps).overt =
          (Selector.life others configPath propertiesPath group twins).overt) ∧
      (∀ {steps twins : List (Host × Locator.Call)},
        List.Forall₂ (StepButReferences corresponds configPath) steps twins →
          (Locator.life files configPath propertiesPath steps).overt =
            (Locator.life others configPath propertiesPath twins).overt) ∧
      (∀ group ordinal,
        (Lookup.inGroup files configPath group ordinal).map Entry.describe =
          (Lookup.inGroup others configPath group ordinal).map Entry.describe) ∧
      ∀ label, (Lookup.byLabel files configPath label).map Entry.describe =
        (Lookup.byLabel others configPath label).map Entry.describe := by
  obtain ⟨inGroup, byLabel⟩ := alike.references
  have engine := alike.engine properties
  refine ⟨?_, ?_, fun group ordinal => (inGroup group ordinal).describe,
    fun label => (byLabel label).describe⟩
  · intro group steps twins same
    have meet := same.imp fun step other same =>
      Selector.StepAlike.mk same.call same.host (same.files.references.1 group)
    exact (Selector.life_alike (inGroup group) engine meet).overt
  · intro steps twins same
    have meet := same.imp fun step other same =>
      Locator.StepAlike.mk same.call same.host same.files.references.2
    exact (Locator.life_alike (alike.isFile configPath) engine meet).overt

theorem lives_discreet_sample :
    let tree (conf : String) := Selector.sampleFiles.write "c.cfg" (Bytes.ofText conf) .epoch
    let files := tree "G,L,P12,a.p12,pc\nG,M,P12,b.p12,pd\n"
    let others := tree "G,L,P12,a.p12,px\nG,M,P12,b.p12,py\n"
    let store (known : String) : Credentials := fun reference =>
      if reference = known then .ok [1] else .error (.notFound reference)
    let steps (host : Host) := [(host, Selector.Call.checkOut), (host, .report 58 "host"),
      (host, .checkOut)]
    let life := Selector.life files "c.cfg" "hrot.properties" "G" (steps ⟨files, store "pc"⟩)
    let twin := Selector.life others "c.cfg" "hrot.properties" "G" (steps ⟨others, store "px"⟩)
    life.events ≠ twin.events ∧ life.overt = twin.overt := by
  intro tree files others store steps life twin
  let corresponds (reference substitute : String) : Prop :=
    reference = "pc" ∧ substitute = "px" ∨ reference = "pd" ∧ substitute = "py"
  have first : Bytes.Replaced (["G", "L", "P12", "a.p12"].map Bytes.ofText) [] "pc" "px"
      (Bytes.ofText "G,L,P12,a.p12,pc") (Bytes.ofText "G,L,P12,a.p12,px") := ⟨by rfl, by rfl⟩
  have second : Bytes.Replaced (["G", "M", "P12", "b.p12"].map Bytes.ofText) [] "pd" "py"
      (Bytes.ofText "G,M,P12,b.p12,pd") (Bytes.ofText "G,M,P12,b.p12,py") := ⟨by rfl, by rfl⟩
  have last : Line.Counterpart corresponds [] [] := by
    apply Line.Counterpart.same
    intro text decoded reference found
    cases decoded
    cases found
  have alike : files.AlikeAt (Line.SameButReferences corresponds) "c.cfg" others := by
    apply FileTree.alikeAt_of_bare (by rfl) (by rfl) (by rfl)
    exact .cons (.replaced first (by rfl) (by decide) (by decide) (by rfl) (.inl ⟨rfl, rfl⟩))
      (.cons (.replaced second (by rfl) (by decide) (by decide) (by rfl) (.inr ⟨rfl, rfl⟩))
        (.cons last .nil))
  have step (call : Selector.Call) : StepButReferences corresponds "c.cfg"
      (⟨files, store "pc"⟩, call) (⟨others, store "px"⟩, call) := by
    refine ⟨rfl, alike, ?_⟩
    rintro reference substitute (⟨rfl, rfl⟩ | ⟨rfl, rfl⟩)
    · exact .given rfl
    · exact .failed trivial
  refine ⟨by decide, ?_⟩
  exact (lives_discreet alike (by rfl)).1 "G"
    (.cons (step _) (.cons (step _) (.cons (step _) .nil)))

end

end CertFailover
