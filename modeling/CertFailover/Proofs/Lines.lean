import CertFailover.Proofs.Entries

/-!
What the reader makes of whole files. Bytes without a newline add to the line that has begun, up to
the bound, and a newline completes it. So the lines of a file are what stands between its newlines,
of whatever length, with what is left after the last one unless nothing is.
-/

namespace CertFailover

theorem Bytes.ofText_append (first second : String) :
    Bytes.ofText (first ++ second) = Bytes.ofText first ++ Bytes.ofText second := by
  simp [Bytes.ofText_eq_flatMap]

theorem Bytes.ofText_join (lines : List String) :
    Bytes.ofText (String.join (lines.map (· ++ "\n"))) =
      (lines.map Bytes.ofText).flatMap (· ++ [Line.newline]) := by
  induction lines with
  | nil => rfl
  | cons line rest ih =>
      rw [List.map_cons, String.join_cons, Bytes.ofText_append, Bytes.ofText_append, ih]
      rfl

theorem Bytes.length_ofText (text : String) : (Bytes.ofText text).length = text.utf8ByteSize :=
  String.size_toByteArray

theorem Bytes.ofText_eq_nil_iff {text : String} : Bytes.ofText text = [] ↔ text = "" := by
  rw [← List.length_eq_zero_iff, Bytes.length_ofText, String.utf8ByteSize_eq_zero_iff]

theorem Bytes.text?_eq_some_iff {bytes : Bytes} {text : String} :
    bytes.text? = some text ↔ Bytes.ofText text = bytes := by
  constructor
  · exact Bytes.ofText_of_text?
  · rintro rfl
    exact Bytes.text?_ofText text

theorem LineBody.ofBytes_ofText {text : String} {rawLength : Nat}
    (short : rawLength < Limit.line) :
    LineBody.ofBytes (Bytes.ofText text) rawLength = .text text := by
  rw [LineBody.ofBytes, if_neg (Nat.not_le.mpr short), Bytes.text?_ofText]

/-- A line that exceeds the bound is too long with or without the bytes that were dropped. -/
theorem LineBody.ofBytes_take (bytes : Bytes) (newlines : Nat) :
    LineBody.ofBytes (bytes.take Limit.line) ((bytes.take Limit.line).length + newlines) =
      LineBody.ofBytes bytes (bytes.length + newlines) := by
  rw [List.length_take]
  by_cases long : Limit.line ≤ bytes.length
  · rw [LineBody.ofBytes, if_pos (by omega), LineBody.ofBytes, if_pos (by omega)]
  · rw [List.take_of_length_le (by omega), Nat.min_eq_right (by omega)]

def Line.numbered : Nat → List LineBody → List Line
  | _, [] => []
  | number, body :: rest => ⟨number + 1, body⟩ :: Line.numbered (number + 1) rest

/-- The bodies of lines, by what stands between newlines. After the last one there is no line unless
something is there. -/
def LineBody.ofStretches : List Bytes → List LineBody
  | [] => []
  | [last] => if last.isEmpty then [] else [.ofBytes last last.length]
  | bytes :: next :: rest => .ofBytes bytes (bytes.length + 1) :: ofStretches (next :: rest)

theorem Line.numbered_append (number : Nat) (first second : List LineBody) :
    Line.numbered number (first ++ second) =
      Line.numbered number first ++ Line.numbered (number + first.length) second := by
  induction first generalizing number with
  | nil => rfl
  | cons body rest ih =>
      rw [List.cons_append, Line.numbered, Line.numbered, ih, List.cons_append, List.length_cons,
        Nat.add_right_comm, Nat.add_assoc]

theorem Line.map_body_numbered (number : Nat) (bodies : List LineBody) :
    (Line.numbered number bodies).map Line.body = bodies := by
  induction bodies generalizing number with
  | nil => rfl
  | cons body rest ih => rw [Line.numbered, List.map_cons, ih]

theorem Line.length_numbered (number : Nat) (bodies : List LineBody) :
    (Line.numbered number bodies).length = bodies.length := by
  rw [← List.length_map Line.body, Line.map_body_numbered]

theorem Line.getElem?_numbered (number : Nat) (bodies : List LineBody) (place : Nat) :
    (Line.numbered number bodies)[place]? =
      bodies[place]?.map fun body => ⟨number + place + 1, body⟩ := by
  induction bodies generalizing number place with
  | nil => rfl
  | cons body rest ih =>
      cases place with
      | zero => rfl
      | succ place =>
          have order : number + 1 + place + 1 = number + (place + 1) + 1 := by omega
          rw [Line.numbered, List.getElem?_cons_succ, List.getElem?_cons_succ, ih, order]

namespace LineReader

def begun (number : Nat) (bytes : Bytes) : LineReader :=
  ⟨number, (bytes.take Limit.line).toArray, by
    rw [List.size_toArray, List.length_take]
    exact Nat.min_le_left _ _⟩

theorem start_eq_begun : start = begun 0 [] :=
  rfl

theorem take_begun {byte : UInt8} (other : byte ≠ Line.newline) (number : Nat) (bytes : Bytes) :
    (begun number bytes).take byte = (begun number (bytes ++ [byte]), none) := by
  rw [take, if_neg other]
  by_cases room : bytes.length < Limit.line
  · have held : bytes.take Limit.line = bytes := List.take_of_length_le (Nat.le_of_lt room)
    have pushed : (bytes ++ [byte]).take Limit.line = bytes ++ [byte] :=
      List.take_of_length_le (by simpa using Nat.succ_le_of_lt room)
    simp [begun, held, pushed, room]
  · have full : ¬(begun number bytes).held.size < Limit.line := by
      rw [begun, List.size_toArray, List.length_take]
      omega
    have dropped : (bytes ++ [byte]).take Limit.line = bytes.take Limit.line :=
      List.take_append_of_le_length (by omega)
    rw [dif_neg full]
    simp only [begun, dropped]

theorem take_begun_newline (number : Nat) (bytes : Bytes) :
    (begun number bytes).take Line.newline =
      (begun (number + 1) [], some ⟨number + 1, .ofBytes bytes (bytes.length + 1)⟩) := by
  rw [take, if_pos rfl, ← LineBody.ofBytes_take]
  rfl

theorem feed_cons (reader : LineReader) (byte : UInt8) (rest : Bytes) :
    reader.feed (byte :: rest) =
      (((reader.take byte).1.feed rest).1,
        (reader.take byte).2.toList ++ ((reader.take byte).1.feed rest).2) :=
  rfl

theorem feed_begun {bytes : Bytes} (clean : Line.newline ∉ bytes) (number : Nat)
    (held : Bytes) :
    (begun number held).feed bytes = (begun number (held ++ bytes), []) := by
  induction bytes generalizing held with
  | nil => rw [feed, List.append_nil]
  | cons byte rest ih =>
      rw [List.mem_cons, not_or] at clean
      rw [feed_cons, take_begun (Ne.symm clean.1), ih clean.2, List.append_assoc]
      rfl

theorem feed_line {bytes : Bytes} (clean : Line.newline ∉ bytes) (number : Nat) :
    (begun number []).feed (bytes ++ [Line.newline]) =
      (begun (number + 1) [], [⟨number + 1, .ofBytes bytes (bytes.length + 1)⟩]) := by
  rw [feed_append, feed_begun clean, List.nil_append, feed, take_begun_newline]
  rfl

theorem feed_lines {lines : List Bytes} (clean : ∀ bytes ∈ lines, Line.newline ∉ bytes)
    (number : Nat) :
    (begun number []).feed (lines.flatMap (· ++ [Line.newline])) =
      (begun (number + lines.length) [],
        Line.numbered number (lines.map fun bytes => .ofBytes bytes (bytes.length + 1))) := by
  induction lines generalizing number with
  | nil => rfl
  | cons bytes rest ih =>
      rw [List.forall_mem_cons] at clean
      rw [List.flatMap_cons, feed_append, feed_line clean.1, ih clean.2, List.length_cons,
        Nat.add_right_comm, Nat.add_assoc]
      rfl

theorem finish_begun {bytes : Bytes} (more : bytes ≠ []) (number : Nat) :
    (begun number bytes).finish = [⟨number + 1, .ofBytes bytes bytes.length⟩] := by
  have held : (begun number bytes).held.isEmpty = false := by
    simp [begun, more]
  rw [finish, held, if_neg Bool.false_ne_true, ← Nat.add_zero bytes.length,
    ← LineBody.ofBytes_take]
  rfl

theorem lines_begun {stretches : List Bytes} (clean : ∀ bytes ∈ stretches, Line.newline ∉ bytes)
    (some : stretches ≠ []) (number : Nat) :
    let outcome := (begun number []).feed ([Line.newline].intercalate stretches)
    outcome.2 ++ outcome.1.finish = Line.numbered number (LineBody.ofStretches stretches) := by
  intro outcome
  induction stretches generalizing number with
  | nil => exact absurd rfl some
  | cons bytes rest ih =>
      rw [List.forall_mem_cons] at clean
      cases rest with
      | nil =>
          have fed : outcome = (begun number bytes, []) := by
            rw [← List.nil_append bytes, ← feed_begun clean.1]
            simp only [outcome, List.intercalate_singleton]
          rw [fed, LineBody.ofStretches]
          by_cases more : bytes = []
          · subst more
            rfl
          · rw [if_neg (by simpa using more)]
            exact finish_begun more number
      | cons next others =>
          have fed : outcome =
              (((begun (number + 1) []).feed ([Line.newline].intercalate (next :: others))).1,
                ⟨number + 1, .ofBytes bytes (bytes.length + 1)⟩ ::
                  ((begun (number + 1) []).feed
                    ([Line.newline].intercalate (next :: others))).2) := by
            simp only [outcome]
            rw [List.intercalate_cons_cons, feed_append, feed_line clean.1]
            rfl
          rw [fed, LineBody.ofStretches, List.cons_append, Line.numbered]
          exact congrArg _ (ih clean.2 (List.cons_ne_nil _ _) _)

end LineReader

theorem Line.ofContent_eq_numbered (content : Bytes) :
    Line.ofContent content =
      Line.numbered 0 (LineBody.ofStretches (content.splitOn Line.newline)) := by
  have clean : ∀ bytes ∈ content.splitOn Line.newline, Line.newline ∉ bytes :=
    fun bytes member => (Text.mem_splitOn member).1
  have lines := LineReader.lines_begun clean (List.splitOn_ne_nil _ _) 0
  rw [List.intercalate_splitOn] at lines
  exact lines

theorem Line.ofContent_lines {lines : List Bytes}
    (clean : ∀ bytes ∈ lines, Line.newline ∉ bytes) :
    Line.ofContent (lines.flatMap (· ++ [Line.newline])) =
      Line.numbered 0 (lines.map fun bytes => .ofBytes bytes (bytes.length + 1)) := by
  rw [Line.ofContent, LineReader.start_eq_begun, LineReader.feed_lines clean]
  exact List.append_nil _

theorem Line.ofContent_lines_append {lines : List Bytes} {last : Bytes}
    (clean : ∀ bytes ∈ lines, Line.newline ∉ bytes) (lastClean : Line.newline ∉ last)
    (more : last ≠ []) :
    Line.ofContent (lines.flatMap (· ++ [Line.newline]) ++ last) =
      Line.numbered 0 (lines.map (fun bytes => .ofBytes bytes (bytes.length + 1)) ++
        [.ofBytes last last.length]) := by
  rw [Line.ofContent, LineReader.feed_append, LineReader.start_eq_begun,
    LineReader.feed_lines clean, LineReader.feed_begun lastClean]
  simp only [List.nil_append, List.append_nil]
  rw [LineReader.finish_begun more, Line.numbered_append, List.length_map]
  rfl

theorem Text.exists_stretches {α : Type} [DecidableEq α] (separator : α) (chars : List α) :
    ∃ (stretches : List (List α)) (last : List α),
      chars = stretches.flatMap (· ++ [separator]) ++ last ∧
        (∀ stretch ∈ stretches, separator ∉ stretch) ∧ separator ∉ last := by
  induction chars with
  | nil => exact ⟨[], [], rfl, by simp, by simp⟩
  | cons first rest ih =>
      obtain ⟨stretches, last, split, clean, lastClean⟩ := ih
      by_cases same : first = separator
      · refine ⟨[] :: stretches, last, ?_, ?_, lastClean⟩
        · rw [split, same]
          rfl
        · exact List.forall_mem_cons.mpr ⟨List.not_mem_nil, clean⟩
      · have other {stretch : List α} (inner : separator ∉ stretch) :
            separator ∉ first :: stretch := by
          rw [List.mem_cons, not_or]
          exact ⟨Ne.symm same, inner⟩
        cases stretches with
        | nil => exact ⟨[], first :: last, by rw [split]; rfl, clean, other lastClean⟩
        | cons stretch others =>
            rw [List.forall_mem_cons] at clean
            refine ⟨(first :: stretch) :: others, last, by rw [split]; rfl, ?_, lastClean⟩
            exact List.forall_mem_cons.mpr ⟨other clean.1, clean.2⟩

theorem Bytes.exists_lines (content : Bytes) :
    ∃ (lines : List Bytes) (last : Bytes),
      content = lines.flatMap (· ++ [Line.newline]) ++ last ∧
        (∀ bytes ∈ lines, Line.newline ∉ bytes) ∧ Line.newline ∉ last :=
  Text.exists_stretches Line.newline content

theorem Line.ofContent_split {lines : List Bytes} {last : Bytes}
    (clean : ∀ bytes ∈ lines, Line.newline ∉ bytes) (lastClean : Line.newline ∉ last) :
    Line.ofContent (lines.flatMap (· ++ [Line.newline]) ++ last) =
      Line.numbered 0 (lines.map (fun bytes => .ofBytes bytes (bytes.length + 1)) ++
        if last = [] then [] else [.ofBytes last last.length]) := by
  by_cases nothing : last = []
  · subst nothing
    rw [List.append_nil, Line.ofContent_lines clean, if_pos rfl, List.append_nil]
  · rw [Line.ofContent_lines_append clean lastClean nothing, if_neg nothing]

theorem Line.getElem?_ofContent {lines : List Bytes} {last : Bytes}
    (clean : ∀ bytes ∈ lines, Line.newline ∉ bytes) (lastClean : Line.newline ∉ last)
    (place : Nat) :
    (Line.ofContent (lines.flatMap (· ++ [Line.newline]) ++ last))[place]? =
      (lines.map (fun bytes => LineBody.ofBytes bytes (bytes.length + 1)) ++
        if last = [] then [] else [.ofBytes last last.length])[place]?.map
          fun body => ⟨place + 1, body⟩ := by
  rw [Line.ofContent_split clean lastClean, Line.getElem?_numbered, Nat.zero_add]

end CertFailover
