import CertFailover.Proofs.Contents
import CertFailover.Proofs.Scans

/-!
Isolation of groups. A line that can be read and is not one of a group has no part in what a selector
of that group comes to, whatever is wrong with its fields. All that counts is that the line is there.
-/

namespace CertFailover

structure Line.Foreign (group : String) (line : Line) : Prop where
  readable : line.readable = true
  strange : line.serves group = false

def Line.SameOrForeign (group : String) (line twin : Line) : Prop :=
  line = twin ∨ line.Foreign group ∧ twin.Foreign group

/-- Contents of as many lines, the same but for some that are foreign to a group in both. -/
def Line.SameBesides (group : String) (content other : Bytes) : Prop :=
  List.Forall₂ (Line.SameOrForeign group) (Line.ofContent content) (Line.ofContent other)

namespace Lookup

theorem scan_sameBesides {group : String} {lines others : List Line}
    (same : List.Forall₂ (Line.SameOrForeign group) lines others) :
    (seen lines).filter (Line.serves group) = (seen others).filter (Line.serves group) ∧
      missed lines = missed others := by
  induction same with
  | nil => exact ⟨rfl, rfl⟩
  | @cons line twin rest others first _ ih =>
      rcases first with rfl | ⟨foreign, alien⟩
      · by_cases readable : line.readable = true
        · rw [seen_cons readable, seen_cons readable, missed_cons readable, missed_cons readable,
            List.filter_cons, List.filter_cons, ih.1]
          exact ⟨rfl, ih.2⟩
        · rw [seen_cons_of_not readable, seen_cons_of_not readable, missed_cons_of_not readable,
            missed_cons_of_not readable]
          exact ⟨rfl, rfl⟩
      · -- Both lines are passed over, so the rest decides.
        rw [seen_cons foreign.readable, seen_cons alien.readable, missed_cons foreign.readable,
          missed_cons alien.readable, List.filter_cons_of_neg (by simp [foreign.strange]),
          List.filter_cons_of_neg (by simp [alien.strange])]
        exact ih

theorem inGroup_sameBesides {group path : String} {files twin : FileTree}
    (alike : files.AlikeAt (Line.SameBesides group) path twin) (ordinal : Nat) :
    inGroup files path group ordinal = inGroup twin path group ordinal := by
  have lines := alike.lines (List.Forall₂ (Line.SameOrForeign group)) id
  rw [inGroup, inGroup]
  generalize Lookup.lines files path = first at lines
  generalize Lookup.lines twin path = second at lines
  cases lines with
  | failed related => rw [related]
  | given same =>
      have scan := scan_sameBesides same
      simp only [Except.bind, inGroupLines_eq, scan.1, scan.2]

end Lookup

def Likeness.strict : Likeness :=
  ⟨Eq, Eq⟩

theorem Entry.alike_strict (entry : Entry) : entry.Alike .strict entry :=
  .mk entry.label entry.uri rfl

theorem Event.Alike.eq {event other : Event} (alike : event.Alike .strict other) :
    event = other := by
  cases alike with
  | same => rfl
  | credentialFailed related => rw [show _ = _ from related]

theorem Logged.Alike.eq {α : Type} {computation twin : Logged α}
    (alike : computation.Alike .strict Eq twin) : computation = twin := by
  obtain ⟨value, events⟩ := computation
  obtain ⟨other, others⟩ := twin
  have sameEvents : List.Forall₂ Eq events others := alike.events.imp fun _ _ => Event.Alike.eq
  rw [List.forall₂_eq_eq_eq] at sameEvents
  rw [show value = other from alike.value, sameEvents]

theorem Lookup.alikeIn_sameBesides {group path : String} {files twin : FileTree}
    (alike : files.AlikeAt (Line.SameBesides group) path twin) :
    AlikeIn .strict path group files twin := by
  intro ordinal
  rw [inGroup_sameBesides alike]
  exact matching_self Entry.alike_strict _

namespace Selector

structure StepBesides (configPath group : String) (step other : Host × Call) : Prop where
  call : step.2 = other.2
  credentials : step.1.credentials = other.1.credentials
  files : step.1.files.AlikeAt (Line.SameBesides group) configPath other.1.files

theorem StepBesides.alike {configPath group : String} {step other : Host × Call}
    (same : StepBesides configPath group step other) :
    StepAlike .strict configPath group step other := by
  refine ⟨same.call, ⟨same.files.modified?, ?_⟩, Lookup.alikeIn_sameBesides same.files⟩
  rintro reference _ rfl
  rw [same.credentials]
  exact matching_self (fun _ => rfl) _

/-- Nothing that a selector comes to depends on lines that are foreign to its group. Since the same
holds for fewer steps, it holds at each moment of its life. -/
theorem life_isolated {files others : FileTree} {configPath propertiesPath group : String}
    (alike : files.AlikeAt (Line.SameBesides group) configPath others)
    (properties : files.read propertiesPath = others.read propertiesPath)
    {steps twins : List (Host × Call)}
    (same : List.Forall₂ (StepBesides configPath group) steps twins) :
    life files configPath propertiesPath group steps =
      life others configPath propertiesPath group twins := by
  have lookups := Lookup.alikeIn_sameBesides alike
  have meet := same.imp fun _ _ => StepBesides.alike
  exact (life_alike lookups (alike.engine properties) meet).eq

theorem life_isolated_sample :
    let files := sampleFiles.write "c.cfg" (Bytes.ofText "H\nG,L,P12,a.p12,pc\n") .epoch
    let others := sampleFiles.write "c.cfg" (Bytes.ofText "I|H,M,P12\nG,L,P12,a.p12,pc\n") .epoch
    let host (seen : FileTree) : Host := { sampleHost with files := seen }
    let steps (seen : FileTree) := [(host seen, Call.checkOut), (host seen, .report 58 "host")]
    files.AlikeAt (Line.SameBesides "G") "c.cfg" others ∧
      files.read "c.cfg" ≠ others.read "c.cfg" ∧
      life files "c.cfg" "hrot.properties" "G" (steps files) =
        life others "c.cfg" "hrot.properties" "G" (steps others) := by
  intro files others host steps
  have alike : files.AlikeAt (Line.SameBesides "G") "c.cfg" others := by
    apply FileTree.alikeAt_of_bare (by rfl) (by rfl) (by rfl)
    exact .cons (.inr ⟨⟨by rfl, by rfl⟩, ⟨by rfl, by rfl⟩⟩) (.cons (.inl rfl) .nil)
  have step (call : Call) : StepBesides "c.cfg" "G" (host files, call) (host others, call) :=
    ⟨rfl, rfl, alike⟩
  exact ⟨alike, by decide, life_isolated alike (by rfl) (.cons (step _) (.cons (step _) .nil))⟩

end Selector

end CertFailover
