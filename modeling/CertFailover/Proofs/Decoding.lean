import CertFailover.Proofs.Lines
import Mathlib.Tactic.ByContra

/-!
Lines split before they are decoded. A newline stands for one character and has no part in the
encoding of another, so that the lines of encoded text are its stretches between newlines, and bytes
that are no text are so in one of their lines. What is wrong within a line has no part in the
others.
-/

namespace CertFailover

/-- A text as lines that end with a newline, and what is left after the last one. -/
structure TextLines where
  lines : List String
  last : String
  clean : ∀ line ∈ lines, '\n' ∉ line.toList
  lastClean : '\n' ∉ last.toList

def LineBody.ofText (text : String) (newlines : Nat) : LineBody :=
  if text.utf8ByteSize + newlines < Limit.line then .text text else .tooLong

namespace TextLines

def text (split : TextLines) : String :=
  String.join (split.lines.map (· ++ "\n")) ++ split.last

def pieces (split : TextLines) : List String :=
  split.lines ++ if split.last = "" then [] else [split.last]

def bodies (split : TextLines) : List LineBody :=
  split.lines.map (LineBody.ofText · 1) ++
    if split.last = "" then [] else [LineBody.ofText split.last 0]

theorem exists_text (text : String) : ∃ split : TextLines, text = split.text := by
  obtain ⟨lines, last, split, clean, lastClean⟩ := Text.exists_stretches '\n' text.toList
  refine ⟨⟨lines.map String.ofList, String.ofList last, ?_, ?_⟩, ?_⟩
  · simpa using clean
  · simpa using lastClean
  · rw [← String.toList_inj, split, TextLines.text]
    simp [List.flatMap_def, Function.comp_def]

end TextLines

theorem LineBody.ofBytes_eq_ofText (text : String) (newlines : Nat) :
    LineBody.ofBytes (Bytes.ofText text) ((Bytes.ofText text).length + newlines) =
      LineBody.ofText text newlines := by
  rw [Bytes.length_ofText, LineBody.ofText]
  by_cases short : text.utf8ByteSize + newlines < Limit.line
  · rw [LineBody.ofBytes_ofText short, if_pos short]
  · rw [LineBody.ofBytes, if_pos (Nat.le_of_not_lt short), if_neg short]

theorem TextLines.ofContent (split : TextLines) :
    Line.ofContent (Bytes.ofText split.text) = Line.numbered 0 split.bodies := by
  have clean : ∀ bytes ∈ split.lines.map Bytes.ofText, Line.newline ∉ bytes := by
    simpa [Bytes.newline_mem_ofText_iff] using split.clean
  have lastClean : Line.newline ∉ Bytes.ofText split.last :=
    mt Bytes.newline_mem_ofText_iff.mp split.lastClean
  have whole := LineBody.ofBytes_eq_ofText split.last 0
  rw [Nat.add_zero] at whole
  rw [text, Bytes.ofText_append, Bytes.ofText_join, Line.ofContent_split clean lastClean, bodies,
    List.map_map, whole]
  simp only [Function.comp_def, LineBody.ofBytes_eq_ofText, Bytes.ofText_eq_nil_iff]

theorem LineBody.ofText_ne_notUtf8 (text : String) (newlines : Nat) :
    LineBody.ofText text newlines ≠ .notUtf8 := by
  rw [LineBody.ofText]
  split <;> simp

theorem LineBody.eq_text_of_ne {text : String} {newlines : Nat}
    (short : LineBody.ofText text newlines ≠ .tooLong) :
    LineBody.ofText text newlines = .text text := by
  rw [LineBody.ofText] at short ⊢
  split
  · rfl
  · rw [if_neg ‹_›] at short
    exact absurd rfl short

theorem TextLines.mem_bodies {split : TextLines} {body : LineBody} (member : body ∈ split.bodies) :
    ∃ text newlines, body = LineBody.ofText text newlines := by
  rcases List.mem_append.mp member with ended | left
  · obtain ⟨line, -, rfl⟩ := List.mem_map.mp ended
    exact ⟨line, 1, rfl⟩
  · split at left
    · cases left
    · exact ⟨split.last, 0, List.mem_singleton.mp left⟩

theorem TextLines.bodies_eq {split : TextLines} (short : ∀ body ∈ split.bodies, body ≠ .tooLong) :
    split.bodies = split.pieces.map .text := by
  rw [bodies, List.forall_mem_append] at short
  rw [bodies, pieces, List.map_append]
  congr 1
  · refine List.map_congr_left fun line member => ?_
    exact LineBody.eq_text_of_ne (short.1 _ (List.mem_map_of_mem member))
  · by_cases nothing : split.last = ""
    · rw [if_pos nothing, if_pos nothing, List.map_nil]
    · rw [if_neg nothing, List.forall_mem_singleton] at short
      rw [if_neg nothing, if_neg nothing, LineBody.eq_text_of_ne short.2, List.map_singleton]

theorem Text.intercalate_concat (lines : List String) (last : String) :
    "\n".intercalate (lines ++ [last]) = String.join (lines.map (· ++ "\n")) ++ last := by
  induction lines with
  | nil => simp
  | cons line rest ih =>
      rw [List.cons_append, String.intercalate_cons_of_ne_nil (by simp), ih, List.map_cons,
        String.join_cons]
      simp only [String.append_assoc]

theorem TextLines.joined (split : TextLines) :
    split.text = "\n".intercalate split.pieces ∨
      split.text = "\n".intercalate split.pieces ++ "\n" := by
  rw [text, pieces]
  by_cases nothing : split.last = ""
  · rw [if_pos nothing, List.append_nil, nothing, String.append_empty]
    rcases List.eq_nil_or_concat split.lines with none | ⟨before, line, some⟩
    · left
      rw [none]
      rfl
    · right
      rw [some, List.concat_eq_append, Text.intercalate_concat, List.map_append, String.join_append,
        List.map_singleton, String.append_assoc]
      rfl
  · left
    rw [if_neg nothing, Text.intercalate_concat]

theorem Line.forall_body_numbered (holds : LineBody → Prop) {number : Nat}
    {bodies : List LineBody} :
    (∀ line ∈ Line.numbered number bodies, holds line.body) ↔ ∀ body ∈ bodies, holds body := by
  conv => rhs; rw [← Line.map_body_numbered number bodies]
  exact List.forall_mem_map.symm

theorem LineBody.exists_text {bytes : Bytes} {rawLength : Nat}
    (short : LineBody.ofBytes bytes rawLength ≠ .tooLong)
    (decodes : LineBody.ofBytes bytes rawLength ≠ .notUtf8) :
    ∃ text, Bytes.ofText text = bytes := by
  rw [LineBody.ofBytes] at short decodes
  by_cases long : Limit.line ≤ rawLength
  · rw [if_pos long] at short
    exact absurd rfl short
  · rw [if_neg long] at decodes
    cases decoded : bytes.text? with
    | some text => exact ⟨text, Bytes.text?_eq_some_iff.mp decoded⟩
    | none =>
        rw [decoded] at decodes
        exact absurd rfl decodes

theorem Bytes.exists_text_of_lines {lines : List Bytes} {last : Bytes}
    (decodes : ∀ bytes ∈ lines, ∃ text, Bytes.ofText text = bytes)
    (lastDecodes : ∃ text, Bytes.ofText text = last) :
    ∃ text, Bytes.ofText text = lines.flatMap (· ++ [Line.newline]) ++ last := by
  induction lines with
  | nil => exact lastDecodes
  | cons bytes rest ih =>
      rw [List.forall_mem_cons] at decodes
      obtain ⟨line, rfl⟩ := decodes.1
      obtain ⟨others, whole⟩ := ih decodes.2
      refine ⟨line ++ "\n" ++ others, ?_⟩
      rw [Bytes.ofText_append, Bytes.ofText_append, whole, List.flatMap_cons]
      simp only [List.append_assoc]
      rfl

theorem Line.exists_text_of_ofContent {content : Bytes}
    (short : ∀ line ∈ Line.ofContent content, line.body ≠ .tooLong)
    (decodes : ∀ line ∈ Line.ofContent content, line.body ≠ .notUtf8) :
    ∃ text, Bytes.ofText text = content := by
  obtain ⟨lines, last, rfl, clean, lastClean⟩ := Bytes.exists_lines content
  rw [Line.ofContent_split clean lastClean] at short decodes
  rw [Line.forall_body_numbered (· ≠ .tooLong), List.forall_mem_append,
    List.forall_mem_map] at short
  rw [Line.forall_body_numbered (· ≠ .notUtf8), List.forall_mem_append,
    List.forall_mem_map] at decodes
  refine Bytes.exists_text_of_lines (fun bytes member => ?_) ?_
  · exact LineBody.exists_text (short.1 bytes member) (decodes.1 bytes member)
  · by_cases nothing : last = []
    · exact ⟨"", nothing ▸ rfl⟩
    · rw [if_neg nothing, List.forall_mem_singleton] at short decodes
      exact LineBody.exists_text short.2 decodes.2

theorem Bytes.count_lines {lines : List Bytes}
    (clean : ∀ bytes ∈ lines, Line.newline ∉ bytes) :
    (lines.flatMap (· ++ [Line.newline])).count Line.newline = lines.length := by
  induction lines with
  | nil => rfl
  | cons bytes rest ih =>
      rw [List.forall_mem_cons] at clean
      rw [List.flatMap_cons, List.count_append, List.count_append,
        List.count_eq_zero_of_not_mem clean.1, List.count_singleton_self, ih clean.2,
        List.length_cons]
      omega

/-- What stands around some bytes of a line gives the other lines, and the length of these bytes
whether the line is there. -/
theorem Line.ofContent_around (front back : Bytes) :
    ∃ (earlier later : List LineBody) (own : Bytes → List LineBody),
      earlier.length = front.count Line.newline ∧
        (∀ bytes, (own bytes).length ≤ 1) ∧
        (∀ bytes other, bytes.length = other.length → (own bytes).length = (own other).length) ∧
        ∀ bytes, Line.newline ∉ bytes → Line.ofContent (front ++ bytes ++ back) =
          Line.numbered 0 (earlier ++ own bytes ++ later) := by
  obtain ⟨before, opened, rfl, clean, openedClean⟩ := Bytes.exists_lines front
  obtain ⟨after, last, rfl, afterClean, lastClean⟩ := Bytes.exists_lines back
  have count : (before.map fun bytes => LineBody.ofBytes bytes (bytes.length + 1)).length =
      (before.flatMap (· ++ [Line.newline]) ++ opened).count Line.newline := by
    rw [List.length_map, List.count_append, Bytes.count_lines clean,
      List.count_eq_zero_of_not_mem openedClean, Nat.add_zero]
  -- Without a newline behind them, the bytes are of the last line, which there is if it has any.
  cases after with
  | nil =>
      refine ⟨_, [], fun bytes => if opened ++ bytes ++ last = [] then [] else
        [.ofBytes (opened ++ bytes ++ last) (opened ++ bytes ++ last).length],
        count, ?_, ?_, fun bytes inner => ?_⟩
      · intro bytes
        dsimp only
        split <;> simp
      · intro bytes other same
        simp only [← List.length_eq_zero_iff, List.length_append, same, apply_ite List.length,
          List.length_nil, List.length_singleton]
      · have whole : Line.newline ∉ opened ++ bytes ++ last := by
          simp [openedClean, inner, lastClean]
        rw [List.append_nil, ← Line.ofContent_split clean whole]
        simp
  | cons next rest =>
      rw [List.forall_mem_cons] at afterClean
      refine ⟨_, rest.map (fun bytes => LineBody.ofBytes bytes (bytes.length + 1)) ++
          if last = [] then [] else [.ofBytes last last.length],
        fun bytes => [.ofBytes (opened ++ bytes ++ next) ((opened ++ bytes ++ next).length + 1)],
        count, fun _ => Nat.le_refl 1, fun _ _ _ => rfl, fun bytes inner => ?_⟩
      have whole : ∀ line ∈ before ++ (opened ++ bytes ++ next) :: rest, Line.newline ∉ line := by
        rw [List.forall_mem_append, List.forall_mem_cons]
        refine ⟨clean, ?_, afterClean.2⟩
        simp [openedClean, inner, afterClean.1]
      simpa using Line.ofContent_split whole lastClean

theorem Line.getElem?_replaced {earlier own other later : List LineBody}
    (one : own.length ≤ 1) (same : own.length = other.length) {place : Nat}
    (away : place ≠ earlier.length) :
    (Line.numbered 0 (earlier ++ own ++ later))[place]? =
      (Line.numbered 0 (earlier ++ other ++ later))[place]? := by
  rw [Line.getElem?_numbered, Line.getElem?_numbered, List.append_assoc, List.append_assoc]
  rcases Nat.lt_or_gt_of_ne away with before | after
  · rw [List.getElem?_append_left before, List.getElem?_append_left before]
  · rw [List.getElem?_append_right (by omega), List.getElem?_append_right (by omega),
      List.getElem?_append_right (by omega), List.getElem?_append_right (by omega), same]

/-- Bytes are decoded line by line with the outcome of decoding them first: the lines of encoded
text are its pieces, bytes that are no text show it in a line unless one is too long, and bytes of
one line have no part in the others. -/
theorem lines_decoded :
    (∀ text, ∃ split : TextLines, text = split.text) ∧
      (∀ split : TextLines,
        let lines := Line.ofContent (Bytes.ofText split.text)
        lines = Line.numbered 0 split.bodies ∧
          (∀ line ∈ lines, line.body ≠ .notUtf8) ∧
          ((∀ line ∈ lines, line.body ≠ .tooLong) →
            lines.map Line.body = split.pieces.map .text ∧
              (split.text = "\n".intercalate split.pieces ∨
                split.text = "\n".intercalate split.pieces ++ "\n"))) ∧
      (∀ content : Bytes, content.text? = none →
        (∀ line ∈ Line.ofContent content, line.body ≠ .tooLong) →
          ∃ line ∈ Line.ofContent content, line.body = .notUtf8) ∧
      ∀ front bytes other back : Bytes, Line.newline ∉ bytes → Line.newline ∉ other →
        bytes.length = other.length →
          let lines := Line.ofContent (front ++ bytes ++ back)
          let others := Line.ofContent (front ++ other ++ back)
          lines.length = others.length ∧
            ∀ place ≠ front.count Line.newline, lines[place]? = others[place]? := by
  refine ⟨TextLines.exists_text, fun split => ?_, fun content undecoded short => ?_,
    fun front bytes other back inner otherInner same => ?_⟩
  · intro lines
    have numbered : lines = Line.numbered 0 split.bodies := split.ofContent
    rw [numbered, Line.forall_body_numbered (· ≠ .notUtf8),
      Line.forall_body_numbered (· ≠ .tooLong), Line.map_body_numbered]
    refine ⟨rfl, fun body member => ?_, fun short => ⟨TextLines.bodies_eq short, split.joined⟩⟩
    obtain ⟨text, newlines, rfl⟩ := TextLines.mem_bodies member
    exact LineBody.ofText_ne_notUtf8 text newlines
  · by_contra none
    obtain ⟨text, rfl⟩ := Line.exists_text_of_ofContent short
      fun line member bad => none ⟨line, member, bad⟩
    rw [Bytes.text?_ofText] at undecoded
    cases undecoded
  · intro lines others
    obtain ⟨earlier, later, own, count, one, sameOwn, around⟩ := Line.ofContent_around front back
    simp only [lines, others]
    rw [around bytes inner, around other otherInner, ← count]
    refine ⟨?_, fun place away => Line.getElem?_replaced (one bytes) (sameOwn _ _ same) away⟩
    simp only [Line.length_numbered, List.length_append, sameOwn bytes other same]

theorem lines_decoded_sample :
    let broken : Bytes := [0xC3, 0x28, 10, 111, 107, 10]
    (Line.ofContent (Bytes.ofText "é\nok\n")).map Line.body = [.text "é", .text "ok"] ∧
      broken.text? = none ∧ (∃ line ∈ Line.ofContent broken, line.body = .notUtf8) ∧
      (Line.ofContent ([0xC3] ++ [0x28] ++ [10, 111]))[1]? =
        (Line.ofContent ([0xC3] ++ [0xA9] ++ [10, 111]))[1]? := by
  intro broken
  obtain ⟨-, texts, undecoded, replaced⟩ := lines_decoded
  have noText : broken.text? = none := by decide
  refine ⟨?_, noText, undecoded broken noText (by decide), ?_⟩
  · exact ((texts ⟨["é", "ok"], "", by decide, by decide⟩).2.2 (by decide)).1
  · exact (replaced _ _ _ _ (by decide) (by decide) rfl).2 1 (by decide)

end CertFailover
