import CertFailover.Lookup
import Mathlib.Data.List.Basic

/-!
Lookups as choices among lines. A scan sees the lines before the first one that cannot be read. In a
group it takes the line at the ordinal among those that serve the group, under a label the first one
labelled so, and makes of it what it can; without such a line it fails as the line that it stopped at
has it.
-/

namespace CertFailover

namespace Line

def readable (line : Line) : Bool :=
  match line.body with
  | .text _ => true
  | .tooLong | .notUtf8 => false

def fields (line : Line) : List String :=
  match line.body with
  | .text text => Entry.fields text
  | .tooLong | .notUtf8 => []

def serves (group : String) (line : Line) : Bool :=
  line.fields.head?.any (Entry.belongs · group)

def labelled (label : String) (line : Line) : Bool :=
  line.fields[1]? == some label

def entry (line : Line) : Except LookupFault Entry :=
  (Entry.ofFields line.number line.fields.tail).mapError .config

def stop (line : Line) : LookupFault :=
  match line.body with
  | .text _ => .noEntry
  | .tooLong => .config (.lineTooLong line.number)
  | .notUtf8 => .config (.lineNotUtf8 line.number)

end Line

namespace Lookup

def seen (lines : List Line) : List Line :=
  lines.takeWhile Line.readable

def missed (lines : List Line) : LookupFault :=
  (lines.find? (! ·.readable)).elim .noEntry Line.stop

theorem seen_cons {line : Line} (readable : line.readable = true) (rest : List Line) :
    seen (line :: rest) = line :: seen rest :=
  List.takeWhile_cons_of_pos readable

theorem seen_cons_of_not {line : Line} (barred : ¬line.readable = true) (rest : List Line) :
    seen (line :: rest) = [] :=
  List.takeWhile_cons_of_neg barred

theorem missed_cons {line : Line} (readable : line.readable = true) (rest : List Line) :
    missed (line :: rest) = missed rest := by
  rw [missed, List.find?_cons_of_neg (by simp [readable]), missed]

theorem missed_cons_of_not {line : Line} (barred : ¬line.readable = true) (rest : List Line) :
    missed (line :: rest) = line.stop := by
  rw [missed, List.find?_cons_of_pos (by simpa using barred), Option.elim_some]

theorem inGroupLines_eq (group : String) (ordinal : Nat) (lines : List Line) :
    inGroupLines group ordinal lines =
      ((seen lines).filter (Line.serves group))[ordinal]?.elim (.error (missed lines))
        Line.entry := by
  induction lines generalizing ordinal with
  | nil => rfl
  | cons line rest ih =>
      obtain ⟨number, body⟩ := line
      cases body with
      | tooLong => rfl
      | notUtf8 => rfl
      | text text =>
          have first : seen (⟨number, .text text⟩ :: rest) =
              ⟨number, .text text⟩ :: seen rest := rfl
          have last : missed (⟨number, .text text⟩ :: rest) = missed rest := rfl
          have fields : Line.fields ⟨number, .text text⟩ = Entry.fields text := rfl
          rw [first, last, List.filter_cons, Line.serves, fields]
          cases split : Entry.fields text with
          | nil => simpa [inGroupLines, split] using ih ordinal
          | cons tags others =>
              by_cases belongs : Entry.belongs tags group
              · cases ordinal with
                | zero => simp [inGroupLines, belongs, Line.entry, fields, split]
                | succ before => simpa [inGroupLines, belongs, split] using ih before
              · simpa [inGroupLines, belongs, split] using ih ordinal

theorem byLabelLines_eq (label : String) (lines : List Line) :
    byLabelLines label lines =
      ((seen lines).find? (Line.labelled label)).elim (.error (missed lines)) Line.entry := by
  induction lines with
  | nil => rfl
  | cons line rest ih =>
      obtain ⟨number, body⟩ := line
      cases body with
      | tooLong => rfl
      | notUtf8 => rfl
      | text text =>
          have first : seen (⟨number, .text text⟩ :: rest) =
              ⟨number, .text text⟩ :: seen rest := rfl
          have last : missed (⟨number, .text text⟩ :: rest) = missed rest := rfl
          have fields : Line.fields ⟨number, .text text⟩ = Entry.fields text := rfl
          rw [first, last, List.find?_cons, Line.labelled, fields]
          match split : Entry.fields text with
          | [] => simpa [byLabelLines, split] using ih
          | [tags] => simpa [byLabelLines, split] using ih
          | tags :: second :: others =>
              by_cases same : second = label
              · simp [byLabelLines, same, Line.entry, fields, split]
              · have other : (second == label) = false := by simpa using same
                simpa [byLabelLines, same, other, split] using ih

theorem find?_seen {lines : List Line} {kind : Line → Bool} {line : Line}
    (member : line ∈ seen lines) (first : lines.find? kind = some line) :
    (seen lines).find? kind = some line := by
  have whole : lines = seen lines ++ lines.dropWhile Line.readable :=
    List.takeWhile_append_dropWhile.symm
  rw [whole, List.find?_append] at first
  cases found : (seen lines).find? kind with
  | some other =>
      rw [found, Option.some_or] at first
      exact first
  | none =>
      rw [found, Option.none_or] at first
      have kindred := List.find?_some first
      have strange := List.find?_eq_none.mp found line member
      exact absurd kindred strange

theorem find?_of_seen {lines : List Line} {kind : Line → Bool} {line : Line}
    (first : (seen lines).find? kind = some line) : lines.find? kind = some line := by
  have whole : lines = seen lines ++ lines.dropWhile Line.readable :=
    List.takeWhile_append_dropWhile.symm
  rw [whole, List.find?_append, first, Option.some_or]

theorem filter_of_seen {lines : List Line} {kind : Line → Bool} {ordinal : Nat} {line : Line}
    (found : ((seen lines).filter kind)[ordinal]? = some line) :
    (lines.filter kind)[ordinal]? = some line := by
  have initial : seen lines <+: lines := List.takeWhile_prefix _
  obtain ⟨rest, whole⟩ := initial.filter kind
  have inside := (List.getElem?_eq_some_iff.mp found).1
  rw [← whole, List.getElem?_append_left inside, found]

theorem inGroup_eq_ok_iff {files : FileTree} {path group : String} {ordinal : Nat} {entry : Entry} :
    inGroup files path group ordinal = .ok entry ↔
      ordinal < Limit.ordinals ∧ ∃ content line, lines files path = .ok content ∧
        ((seen content).filter (Line.serves group))[ordinal]? = some line ∧
        line.entry = .ok entry := by
  rw [inGroup]
  by_cases beyond : Limit.ordinals ≤ ordinal
  · rw [if_pos beyond]
    simp [Nat.not_lt.mpr beyond]
  · rw [if_neg beyond]
    cases lines files path with
    | error fault => simp [Except.bind]
    | ok content =>
        have inside : ordinal < Limit.ordinals := Nat.lt_of_not_le beyond
        simp only [Except.bind, inGroupLines_eq]
        cases found : ((seen content).filter (Line.serves group))[ordinal]? <;>
          simp [inside, found]

theorem byLabel_eq_ok_iff {files : FileTree} {path label : String} {entry : Entry} :
    byLabel files path label = .ok entry ↔
      ∃ content line, lines files path = .ok content ∧
        (seen content).find? (Line.labelled label) = some line ∧ line.entry = .ok entry := by
  rw [byLabel]
  cases lines files path with
  | error fault => simp [Except.bind]
  | ok content =>
      simp only [Except.bind, byLabelLines_eq]
      cases found : (seen content).find? (Line.labelled label) <;> simp [found]

end Lookup

end CertFailover
