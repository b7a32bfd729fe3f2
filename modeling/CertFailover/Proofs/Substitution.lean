import CertFailover.Proofs.Document
import Mathlib.Data.List.Basic

/-!
Lines in which one field is replaced by another. A comma is one byte, which has no part in the
encoding of anything else, so that it stands between the same stretches of a line before and after
decoding, and each of them can be exchanged without the others.
-/

namespace CertFailover

def Entry.joined (stretches : List String) : String :=
  (String.singleton fieldSeparator).intercalate stretches

theorem Entry.exists_joined (line : String) :
    ∃ stretches, stretches ≠ [] ∧
      (∀ stretch ∈ stretches, fieldSeparator ∉ stretch.toList) ∧ line = joined stretches := by
  refine ⟨(line.toList.splitOn fieldSeparator).map String.ofList, by simp, ?_, ?_⟩
  · intro stretch member
    obtain ⟨chars, inside, rfl⟩ := List.mem_map.mp member
    simpa using (Text.mem_splitOn inside).1
  · rw [← String.toList_inj, joined, String.toList_intercalate, List.map_map]
    have same : String.toList ∘ String.ofList = id := funext fun _ => String.toList_ofList
    rw [same, List.map_id, String.toList_singleton, List.intercalate_splitOn]

theorem Entry.fields_joined {stretches : List String}
    (clean : ∀ stretch ∈ stretches, fieldSeparator ∉ stretch.toList) :
    fields (joined stretches) = stretches.filter (· ≠ "") :=
  Text.pieces_intercalate clean

namespace Bytes

def comma : UInt8 := 44

theorem ofText_injective : Function.Injective ofText := by
  intro text other same
  have decoded := text?_ofText text
  rw [same, text?_ofText] at decoded
  exact (Option.some.inj decoded).symm

theorem comma_mem_ofText_iff {text : String} :
    comma ∈ ofText text ↔ Entry.fieldSeparator ∈ text.toList :=
  mem_ofText_iff (by decide) (by decide)

theorem ofText_joined (stretches : List String) :
    ofText (Entry.joined stretches) = [comma].intercalate (stretches.map ofText) := by
  induction stretches with
  | nil => rfl
  | cons first rest ih =>
      cases rest with
      | nil => simp [Entry.joined]
      | cons next others =>
          rw [Entry.joined, String.intercalate_cons_cons, ofText_append, ofText_append,
            List.map_cons, List.map_cons, List.intercalate_cons_cons]
          exact congrArg _ ih

theorem splitOn_ofText_joined {stretches : List String} (some : stretches ≠ [])
    (clean : ∀ stretch ∈ stretches, Entry.fieldSeparator ∉ stretch.toList) :
    (ofText (Entry.joined stretches)).splitOn comma = stretches.map ofText := by
  rw [ofText_joined]
  apply List.splitOn_intercalate
  · intro bytes member
    obtain ⟨stretch, inside, rfl⟩ := List.mem_map.mp member
    exact mt comma_mem_ofText_iff.mp (clean stretch inside)
  · simpa using some

theorem length_intercalate_congr {separator : UInt8} {stretches others : List Bytes}
    (same : stretches.map List.length = others.map List.length) :
    ([separator].intercalate stretches).length = ([separator].intercalate others).length := by
  induction stretches generalizing others with
  | nil =>
      have none : others = [] := by simpa using same.symm
      rw [none]
  | cons first rest ih =>
      cases others with
      | nil => cases same
      | cons second others =>
          simp only [List.map_cons, List.cons.injEq] at same
          have later := ih same.2
          cases rest with
          | nil =>
              have none : others = [] := by simpa using same.2.symm
              simpa [none] using same.1
          | cons next rest =>
              cases others with
              | nil => cases same.2
              | cons other others =>
                  simp only [List.intercalate_cons_cons, List.length_append, later, same.1]

/-- Bytes with a field in which one stretch between commas is another than in other bytes. -/
structure Replaced (before after : List Bytes) (field substitute : String) (bytes other : Bytes) :
    Prop where
  stretches : bytes.splitOn comma = before ++ ofText field :: after
  others : other.splitOn comma = before ++ ofText substitute :: after

namespace Replaced

variable {before after : List Bytes} {field substitute : String} {bytes other : Bytes}

theorem symm (replaced : Replaced before after field substitute bytes other) :
    Replaced before after substitute field other bytes :=
  ⟨replaced.others, replaced.stretches⟩

theorem length (replaced : Replaced before after field substitute bytes other)
    (size : field.utf8ByteSize = substitute.utf8ByteSize) : bytes.length = other.length := by
  have rejoined (whole : Bytes) : [comma].intercalate (whole.splitOn comma) = whole :=
    List.intercalate_splitOn comma
  rw [← rejoined bytes, ← rejoined other]
  apply length_intercalate_congr
  simp [replaced.stretches, replaced.others, length_ofText, size]

theorem decoded (replaced : Replaced before after field substitute bytes other) {text : String}
    (decoded : bytes.text? = some text) :
    ∃ lead rest twin, other.text? = some twin ∧ lead.map ofText = before ∧
      Entry.fields text = (lead ++ field :: rest).filter (· ≠ "") ∧
      Entry.fields twin = (lead ++ substitute :: rest).filter (· ≠ "") := by
  obtain ⟨stretches, some, clean, rfl⟩ := Entry.exists_joined text
  have split := replaced.stretches
  rw [← ofText_of_text? decoded, splitOn_ofText_joined some clean] at split
  obtain ⟨lead, behind, rfl, lead_eq, behind_eq⟩ := List.map_eq_append_iff.mp split
  obtain ⟨here, rest, rfl, same, rest_eq⟩ := List.map_eq_cons_iff.mp behind_eq
  cases ofText_injective same
  have substituteClean : Entry.fieldSeparator ∉ substitute.toList := by
    have member : ofText substitute ∈ other.splitOn comma := by simp [replaced.others]
    exact mt comma_mem_ofText_iff.mpr (Text.mem_splitOn member).1
  have cleanTwin : ∀ stretch ∈ lead ++ substitute :: rest,
      Entry.fieldSeparator ∉ stretch.toList := by
    rw [List.forall_mem_append, List.forall_mem_cons] at clean ⊢
    exact ⟨clean.1, substituteClean, clean.2.2⟩
  refine ⟨lead, rest, Entry.joined (lead ++ substitute :: rest), ?_, lead_eq,
    Entry.fields_joined clean, Entry.fields_joined cleanTwin⟩
  have whole : other = ofText (Entry.joined (lead ++ substitute :: rest)) := by
    rw [ofText_joined, List.map_append, List.map_cons, lead_eq, rest_eq, ← replaced.others,
      List.intercalate_splitOn]
  rw [whole, text?_ofText]

theorem fields (replaced : Replaced before after field substitute bytes other)
    (fifth : (before.filter (! ·.isEmpty)).length = 4) (present : field ≠ "")
    (substitutePresent : substitute ≠ "") {text : String} (decoded : bytes.text? = some text) :
    ∃ twin tags label kind uri rest, other.text? = some twin ∧
      Entry.fields text = tags :: label :: kind :: uri :: field :: rest ∧
      Entry.fields twin = tags :: label :: kind :: uri :: substitute :: rest := by
  obtain ⟨lead, rest, twin, twinDecoded, rfl, fields, twinFields⟩ := replaced.decoded decoded
  have four : (lead.filter (· ≠ "")).length = 4 := by
    rw [← fifth, List.filter_map, List.length_map]
    congr 1
    apply List.filter_congr
    intro stretch _
    rw [Bool.eq_iff_iff]
    simp [ofText_eq_nil_iff]
  rw [List.filter_append, List.filter_cons_of_pos (by simpa using present)] at fields
  rw [List.filter_append, List.filter_cons_of_pos (by simpa using substitutePresent)] at twinFields
  obtain ⟨tags, label, kind, uri, leading⟩ := List.length_eq_four.mp four
  rw [leading] at fields twinFields
  exact ⟨twin, tags, label, kind, uri, _, twinDecoded, fields, twinFields⟩

end Replaced

end Bytes

end CertFailover
