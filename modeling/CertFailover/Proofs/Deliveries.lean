import CertFailover.Proofs.Lines

/-!
Lines drawn one by one from bytes that are delivered in chunks. A draw reads up to a newline or up to
the bound, whichever comes first, and drops what is left of a line that exceeds the bound. However
the bytes are cut into chunks, the draws give what stands between the newlines, one line each.
-/

namespace CertFailover

/-- The chunks that are still to come. The first one is at hand, and an empty one would say that
there are no more bytes. -/
structure Delivery where
  chunks : List Bytes
  filled : [] ∉ chunks

namespace Delivery

def content (delivery : Delivery) : Bytes :=
  delivery.chunks.flatten

def atHand (delivery : Delivery) : Bytes :=
  delivery.chunks.head?.getD []

def consume : Delivery → Nat → Delivery
  | ⟨[], filled⟩, _ => ⟨[], filled⟩
  | ⟨chunk :: rest, filled⟩, count =>
    if some : count < chunk.length then
      ⟨chunk.drop count :: rest, by simp_all⟩
    else ⟨rest, fun member => filled (List.mem_cons_of_mem _ member)⟩

theorem content_consume (delivery : Delivery) {count : Nat}
    (bound : count ≤ delivery.atHand.length) :
    (delivery.consume count).content = delivery.content.drop count := by
  obtain ⟨chunks, filled⟩ := delivery
  cases chunks with
  | nil => simp [consume, content]
  | cons chunk rest =>
      simp only [atHand, List.head?_cons, Option.getD_some] at bound
      rw [consume]
      split
      · simp [content, List.drop_append_of_le_length bound]
      · have all : chunk.length = count := by omega
        simp [content, ← all]

theorem atHand_prefix (delivery : Delivery) : delivery.atHand <+: delivery.content := by
  obtain ⟨chunks, filled⟩ := delivery
  cases chunks with
  | nil => exact List.prefix_refl _
  | cons chunk rest => exact ⟨rest.flatten, rfl⟩

theorem content_eq_nil {delivery : Delivery} (nothing : delivery.atHand = []) :
    delivery.content = [] := by
  obtain ⟨chunks, filled⟩ := delivery
  cases chunks with
  | nil => rfl
  | cons chunk rest =>
      simp only [atHand, List.head?_cons, Option.getD_some] at nothing
      simp [nothing] at filled

def read (delivery : Delivery) (room : Nat) (buffer : Bytes) : Delivery × Bytes :=
  let shown := delivery.atHand.take room
  match shown.idxOf? Line.newline with
  | some place => (delivery.consume (place + 1), buffer ++ shown.take (place + 1))
  | none =>
    if _ended : shown = [] then (delivery, buffer)
    else (delivery.consume shown.length).read (room - shown.length) (buffer ++ shown)
termination_by room
decreasing_by
  have some := List.length_pos_iff.mpr _ended
  simp only [shown, List.length_take] at some ⊢
  omega

def discard (delivery : Delivery) : Delivery :=
  match delivery.atHand.idxOf? Line.newline with
  | some place => delivery.consume (place + 1)
  | none =>
    if _ended : delivery.atHand = [] then delivery
    else (delivery.consume delivery.atHand.length).discard
termination_by delivery.content.length
decreasing_by
  have some := List.length_pos_iff.mpr _ended
  have part := delivery.atHand_prefix.length_le
  rw [content_consume delivery (Nat.le_refl _), List.length_drop]
  omega

inductive Taken (room : Nat) : Bytes → Bytes → Bytes → Prop
  | line {bytes rest} (clean : Line.newline ∉ bytes) (short : bytes.length < room) :
      Taken room (bytes ++ Line.newline :: rest) (bytes ++ [Line.newline]) rest
  | full {bytes rest} (clean : Line.newline ∉ bytes) (long : bytes.length = room) :
      Taken room (bytes ++ rest) bytes rest
  | ended {bytes} (clean : Line.newline ∉ bytes) (short : bytes.length < room) :
      Taken room bytes bytes []

theorem Taken.append {room : Nat} {content taken rest first : Bytes}
    (clean : Line.newline ∉ first) (fits : first.length ≤ room)
    (later : Taken (room - first.length) content taken rest) :
    Taken room (first ++ content) (first ++ taken) rest := by
  cases later with
  | line cleanLater short =>
      rw [← List.append_assoc, ← List.append_assoc]
      exact .line (by simp [clean, cleanLater]) (by rw [List.length_append]; omega)
  | full cleanLater long =>
      rw [← List.append_assoc]
      exact .full (by simp [clean, cleanLater]) (by rw [List.length_append]; omega)
  | ended cleanLater short =>
      exact .ended (by simp [clean, cleanLater]) (by rw [List.length_append]; omega)

theorem Taken.length_le {room : Nat} {content taken rest : Bytes}
    (took : Taken room content taken rest) : taken.length ≤ room := by
  cases took with
  | line clean short => rwa [List.length_append]
  | full clean long => exact Nat.le_of_eq long
  | ended clean short => exact Nat.le_of_lt short

theorem exists_of_idxOf? {bytes : Bytes} {place : Nat}
    (found : bytes.idxOf? Line.newline = some place) :
    ∃ before after, bytes = before ++ Line.newline :: after ∧ Line.newline ∉ before ∧
      before.length = place := by
  obtain ⟨inside, here, earlier⟩ := List.idxOf?_eq_some_iff.mp found
  refine ⟨bytes.take place, bytes.drop (place + 1), ?_, ?_, ?_⟩
  · rw [← here, ← List.drop_eq_getElem_cons inside, List.take_append_drop]
  · intro member
    obtain ⟨position, bound, same⟩ := List.mem_take_iff_getElem.mp member
    exact earlier position (by omega) same
  · rw [List.length_take]
    omega

theorem content_consume_of_initial {delivery : Delivery} {shown rest : Bytes}
    (initial : shown <+: delivery.atHand) (split : delivery.content = shown ++ rest) :
    (delivery.consume shown.length).content = rest := by
  rw [content_consume delivery initial.length_le, split, List.drop_left]

theorem read_taken (delivery : Delivery) (room : Nat) (buffer : Bytes) :
    ∃ taken, (delivery.read room buffer).2 = buffer ++ taken ∧
      Taken room delivery.content taken (delivery.read room buffer).1.content := by
  fun_induction read delivery room buffer with
  | case1 delivery room buffer shown place found =>
      obtain ⟨before, after, split, clean, rfl⟩ := exists_of_idxOf? found
      have initial : shown <+: delivery.atHand := List.take_prefix _ _
      have fits : shown.length ≤ room := List.length_take_le _ _
      have taken : shown.take (before.length + 1) = before ++ [Line.newline] := by
        rw [split, List.append_cons]
        exact List.take_left' (by simp)
      have first : before ++ [Line.newline] <+: delivery.atHand := by
        rw [← taken]
        exact (List.take_prefix _ _).trans initial
      obtain ⟨rest, content⟩ := first.trans delivery.atHand_prefix
      have left := content_consume_of_initial first content.symm
      rw [List.length_append, List.length_singleton] at left
      refine ⟨before ++ [Line.newline], by rw [taken], ?_⟩
      rw [left, ← content, List.append_assoc]
      refine .line clean ?_
      rw [split, List.length_append, List.length_cons] at fits
      omega
  | case2 delivery room buffer shown clean ended =>
      refine ⟨[], (List.append_nil _).symm, ?_⟩
      rcases Nat.eq_zero_or_pos room with none | some
      · have clean : Line.newline ∉ ([] : Bytes) := List.not_mem_nil
        exact .full clean none.symm
      · have nothing : delivery.content = [] := by
          refine content_eq_nil ?_
          simpa [shown, Nat.ne_of_gt some] using ended
        rw [nothing]
        exact .ended (by simp) some
  | case3 delivery room buffer shown clean more ih =>
      obtain ⟨taken, buffered, later⟩ := ih
      have initial : shown <+: delivery.atHand := List.take_prefix _ _
      obtain ⟨rest, content⟩ := initial.trans delivery.atHand_prefix
      refine ⟨shown ++ taken, ?_, ?_⟩
      · rw [buffered, List.append_assoc]
      · rw [content_consume_of_initial initial content.symm] at later
        rw [← content]
        exact later.append (List.idxOf?_eq_none_iff.mp clean) (List.length_take_le _ _)

theorem dropWhile_line {bytes : Bytes} (clean : Line.newline ∉ bytes) (rest : Bytes) :
    (bytes ++ rest).dropWhile (· ≠ Line.newline) = rest.dropWhile (· ≠ Line.newline) := by
  apply List.dropWhile_append_of_pos
  intro byte member
  have other : byte ≠ Line.newline := fun same => clean (same ▸ member)
  simpa using other

theorem content_discard (delivery : Delivery) :
    delivery.discard.content = (delivery.content.dropWhile (· ≠ Line.newline)).tail := by
  fun_induction discard delivery with
  | case1 delivery place found =>
      obtain ⟨before, after, split, clean, rfl⟩ := exists_of_idxOf? found
      have first : before ++ [Line.newline] <+: delivery.atHand := ⟨after, by simp [split]⟩
      obtain ⟨rest, content⟩ := first.trans delivery.atHand_prefix
      have left := content_consume_of_initial first content.symm
      rw [List.length_append, List.length_singleton] at left
      rw [left, ← content, List.append_assoc, dropWhile_line clean]
      rfl
  | case2 delivery unmet ended =>
      rw [content_eq_nil ended]
      rfl
  | case3 delivery unmet more ih =>
      obtain ⟨rest, content⟩ := delivery.atHand_prefix
      have left := content_consume_of_initial (List.prefix_refl _) content.symm
      rw [ih, left, ← content, dropWhile_line (List.idxOf?_eq_none_iff.mp unmet)]

end Delivery

structure LineSource where
  delivery : Delivery
  number : Nat
  buffer : Bytes

namespace LineSource

def opened (delivery : Delivery) : LineSource :=
  ⟨delivery, 0, []⟩

def draw (source : LineSource) : LineSource × Option Line :=
  let (left, buffer) := source.delivery.read Limit.line []
  if buffer = [] then (⟨left, source.number, buffer⟩, none)
  else if Limit.line ≤ buffer.length then
    let rest := if buffer.getLast? = some Line.newline then left else left.discard
    (⟨rest, source.number + 1, buffer⟩, some ⟨source.number + 1, .tooLong⟩)
  else
    let bytes := if buffer.getLast? = some Line.newline then buffer.dropLast else buffer
    let body := (Bytes.text? bytes).elim LineBody.notUtf8 LineBody.text
    (⟨left, source.number + 1, buffer⟩, some ⟨source.number + 1, body⟩)

def after (source : LineSource) : Nat → LineSource
  | 0 => source
  | draws + 1 => source.draw.1.after draws

def drawn (source : LineSource) (draws : Nat) : Option Line :=
  (source.after draws).draw.2

theorem draw_of_empty {source : LineSource} {left : Delivery}
    (read : source.delivery.read Limit.line [] = (left, [])) :
    source.draw = (⟨left, source.number, []⟩, none) := by
  rw [draw, read]
  rfl

theorem draw_of_long {source : LineSource} {left : Delivery} {buffer : Bytes}
    (read : source.delivery.read Limit.line [] = (left, buffer))
    (long : Limit.line ≤ buffer.length) :
    source.draw =
      (⟨if buffer.getLast? = some Line.newline then left else left.discard, source.number + 1,
        buffer⟩, some ⟨source.number + 1, .tooLong⟩) := by
  have some : buffer ≠ [] := by
    rintro rfl
    exact absurd long (by decide)
  simp only [draw, read, if_neg some, if_pos long]

theorem draw_of_short {source : LineSource} {left : Delivery} {buffer : Bytes}
    (read : source.delivery.read Limit.line [] = (left, buffer)) (some : buffer ≠ [])
    (short : buffer.length < Limit.line) :
    source.draw =
      (⟨left, source.number + 1, buffer⟩, .some ⟨source.number + 1,
        .ofBytes (if buffer.getLast? = .some Line.newline then buffer.dropLast else buffer)
          buffer.length⟩) := by
  have body (bytes : Bytes) :
      LineBody.ofBytes bytes buffer.length = bytes.text?.elim .notUtf8 .text := by
    rw [LineBody.ofBytes, if_neg (Nat.not_le.mpr short)]
    cases bytes.text? <;> rfl
  simp only [draw, read, if_neg some, if_neg (Nat.not_le.mpr short), body]

theorem getLast?_ne {bytes : Bytes} (clean : Line.newline ∉ bytes) :
    bytes.getLast? ≠ some Line.newline :=
  fun last => clean (List.mem_of_getLast? last)

theorem draw_of_full {source : LineSource} {left : Delivery} {buffer bytes : Bytes}
    {rawLength : Nat} (read : source.delivery.read Limit.line [] = (left, buffer))
    (clean : Line.newline ∉ buffer) (full : buffer.length = Limit.line)
    (exceeds : Limit.line ≤ rawLength) :
    source.draw = (⟨left.discard, source.number + 1, buffer⟩,
      some ⟨source.number + 1, .ofBytes bytes rawLength⟩) := by
  rw [draw_of_long read (Nat.le_of_eq full.symm), if_neg (getLast?_ne clean), LineBody.ofBytes,
    if_pos exceeds]

theorem line_unique {bytes other rest otherRest : Bytes} (clean : Line.newline ∉ bytes)
    (otherClean : Line.newline ∉ other)
    (same : bytes ++ Line.newline :: rest = other ++ Line.newline :: otherRest) :
    bytes = other ∧ rest = otherRest := by
  have tails := congrArg (List.dropWhile (· ≠ Line.newline)) same
  rw [Delivery.dropWhile_line clean, Delivery.dropWhile_line otherClean] at tails
  obtain rfl : rest = otherRest := by simpa using tails
  exact ⟨List.append_cancel_right same, rfl⟩

theorem line_beyond {bytes rest first after : Bytes} (clean : Line.newline ∉ first)
    (same : bytes ++ Line.newline :: rest = first ++ after) :
    ∃ more, bytes = first ++ more ∧ more ++ Line.newline :: rest = after := by
  rcases List.append_eq_append_iff.mp same with ⟨others, split, tail⟩ | ⟨more, split, tail⟩
  · cases others with
    | nil => exact ⟨[], by simpa using split.symm, tail⟩
    | cons byte others =>
        cases tail
        simp [split] at clean
  · exact ⟨more, split, tail.symm⟩

theorem exists_read (source : LineSource) :
    ∃ left buffer, source.delivery.read Limit.line [] = (left, buffer) ∧
      Delivery.Taken Limit.line source.delivery.content buffer left.content := by
  obtain ⟨taken, buffered, took⟩ := source.delivery.read_taken Limit.line []
  refine ⟨_, taken, Prod.ext rfl ?_, took⟩
  rw [buffered, List.nil_append]

theorem draw_line {source : LineSource} {bytes rest : Bytes} (clean : Line.newline ∉ bytes)
    (content : source.delivery.content = bytes ++ Line.newline :: rest) :
    source.draw.2 = some ⟨source.number + 1, .ofBytes bytes (bytes.length + 1)⟩ ∧
      source.draw.1.delivery.content = rest ∧ source.draw.1.number = source.number + 1 := by
  obtain ⟨left, buffer, read, took⟩ := source.exists_read
  rw [content] at took
  generalize whole : bytes ++ Line.newline :: rest = given at took
  generalize remaining : left.content = after at took
  cases took with
  | @line first _ cleanTaken short =>
      obtain ⟨rfl, rfl⟩ := line_unique clean cleanTaken whole
      have last : (bytes ++ [Line.newline]).getLast? = some Line.newline :=
        List.getLast?_concat ..
      have length : (bytes ++ [Line.newline]).length = bytes.length + 1 := List.length_append
      by_cases long : Limit.line ≤ bytes.length + 1
      · rw [draw_of_long read (length.symm ▸ long), LineBody.ofBytes, if_pos long, if_pos last]
        exact ⟨rfl, remaining, rfl⟩
      · rw [draw_of_short read (by simp) (by omega), if_pos last, List.dropLast_concat, length]
        exact ⟨rfl, remaining, rfl⟩
  | full cleanTaken long =>
      -- The line goes on, or its newline is the first byte that had no room.
      obtain ⟨more, rfl, rfl⟩ := line_beyond cleanTaken whole
      rw [List.mem_append, not_or] at clean
      have exceeds : Limit.line ≤ (buffer ++ more).length + 1 := by
        rw [List.length_append]
        omega
      rw [draw_of_full read cleanTaken long exceeds]
      refine ⟨rfl, ?_, rfl⟩
      rw [Delivery.content_discard, remaining, Delivery.dropWhile_line clean.2]
      rfl
  | ended cleanTaken short =>
      rw [← whole] at cleanTaken
      simp at cleanTaken

theorem draw_last {source : LineSource} (clean : Line.newline ∉ source.delivery.content)
    (more : source.delivery.content ≠ []) :
    source.draw.2 = some ⟨source.number + 1,
        .ofBytes source.delivery.content source.delivery.content.length⟩ ∧
      source.draw.1.delivery.content = [] ∧ source.draw.1.number = source.number + 1 := by
  obtain ⟨left, buffer, read, took⟩ := source.exists_read
  generalize whole : source.delivery.content = given at took clean more
  generalize remaining : left.content = after at took
  cases took with
  | line cleanTaken short =>
      simp at clean
  | full cleanTaken long =>
      rw [List.mem_append, not_or] at clean
      have exceeds : Limit.line ≤ (buffer ++ after).length := by
        rw [List.length_append]
        omega
      rw [draw_of_full read cleanTaken long exceeds]
      refine ⟨rfl, ?_, rfl⟩
      rw [Delivery.content_discard, remaining, ← List.append_nil after,
        Delivery.dropWhile_line clean.2]
      rfl
  | ended cleanTaken short =>
      rw [draw_of_short read more short, if_neg (getLast?_ne cleanTaken)]
      exact ⟨rfl, remaining, rfl⟩

theorem draw_ended {source : LineSource} (ended : source.delivery.content = []) :
    source.draw.2 = none ∧ source.draw.1.delivery.content = [] := by
  obtain ⟨left, buffer, read, took⟩ := source.exists_read
  rw [ended] at took
  generalize whole : ([] : Bytes) = given at took
  generalize remaining : left.content = after at took
  cases took with
  | line cleanTaken short => simp at whole
  | full cleanTaken long =>
      obtain ⟨rfl, rfl⟩ := List.nil_eq_append_iff.mp whole
      exact absurd long (by decide)
  | ended cleanTaken short =>
      subst whole
      rw [draw_of_empty read]
      exact ⟨rfl, remaining⟩

theorem drawn_of_ended {source : LineSource} (ended : source.delivery.content = [])
    (draws : Nat) : source.drawn draws = none := by
  induction draws generalizing source with
  | zero => exact (draw_ended ended).1
  | succ draws ih => exact ih (draw_ended ended).2

theorem drawn_stretches {stretches : List Bytes}
    (clean : ∀ bytes ∈ stretches, Line.newline ∉ bytes) (some : stretches ≠ [])
    {source : LineSource}
    (content : source.delivery.content = [Line.newline].intercalate stretches) (draws : Nat) :
    source.drawn draws =
      (Line.numbered source.number (LineBody.ofStretches stretches))[draws]? := by
  induction stretches generalizing source draws with
  | nil => exact absurd rfl some
  | cons bytes rest ih =>
      rw [List.forall_mem_cons] at clean
      cases rest with
      | nil =>
          rw [List.intercalate_singleton] at content
          -- Nothing is left after the last newline, or an unfinished line is.
          by_cases more : bytes = []
          · subst more
            exact drawn_of_ended content draws
          · rw [LineBody.ofStretches, if_neg (by simpa using more)]
            obtain ⟨given, left, _⟩ := draw_last (content ▸ clean.1) (content ▸ more)
            cases draws with
            | zero => exact content ▸ given
            | succ draws => exact drawn_of_ended left draws
      | cons next others =>
          rw [List.intercalate_cons_cons] at content
          rw [List.append_assoc] at content
          obtain ⟨given, left, number⟩ := draw_line clean.1 content
          cases draws with
          | zero => exact given
          | succ draws =>
              have later := ih clean.2 (List.cons_ne_nil _ _) left draws
              rw [number] at later
              exact later

theorem length_buffer_draw (source : LineSource) : source.draw.1.buffer.length ≤ Limit.line := by
  obtain ⟨left, buffer, read, took⟩ := source.exists_read
  have bound : buffer.length ≤ Limit.line := took.length_le
  by_cases long : Limit.line ≤ buffer.length
  · rw [draw_of_long read long]
    exact bound
  · by_cases empty : buffer = []
    · subst empty
      rw [draw_of_empty read]
      exact bound
    · rw [draw_of_short read empty (Nat.lt_of_not_le long)]
      exact bound

theorem length_buffer_after {source : LineSource} (start : source.buffer.length ≤ Limit.line)
    (draws : Nat) : (source.after draws).buffer.length ≤ Limit.line := by
  induction draws generalizing source with
  | zero => exact start
  | succ draws ih => exact ih source.length_buffer_draw

end LineSource

structure LineBody.Tells (bytes : Bytes) (rawLength : Nat) (body : LineBody) : Prop where
  tooLong : body = .tooLong ↔ Limit.line ≤ rawLength
  notUtf8 : body = .notUtf8 ↔ rawLength < Limit.line ∧ ∀ text, Bytes.ofText text ≠ bytes
  text : ∀ text, body = .text text ↔ rawLength < Limit.line ∧ Bytes.ofText text = bytes

theorem LineBody.tells_ofBytes (bytes : Bytes) (rawLength : Nat) :
    (LineBody.ofBytes bytes rawLength).Tells bytes rawLength := by
  rw [LineBody.ofBytes]
  by_cases long : Limit.line ≤ rawLength
  · rw [if_pos long]
    refine ⟨by simp [long], ?_, fun text => ?_⟩ <;> simp [Nat.not_lt.mpr long]
  · have short : rawLength < Limit.line := Nat.lt_of_not_le long
    rw [if_neg long]
    cases decoded : bytes.text? with
    | some text =>
        have same := Bytes.text?_eq_some_iff.mp decoded
        refine ⟨by simp [long], ?_, fun other => ?_⟩
        · simp only [reduceCtorEq, false_iff, not_and]
          exact fun _ unlike => unlike text same
        · rw [← Bytes.text?_eq_some_iff, decoded]
          simp [short]
    | none =>
        have unlike (text : String) : Bytes.ofText text ≠ bytes := by
          rw [ne_eq, ← Bytes.text?_eq_some_iff, decoded]
          exact Option.some_ne_none text ∘ Eq.symm
        exact ⟨by simp [long], by simp [short, unlike], fun text => by simp [unlike]⟩

def LineReader.feedAll (reader : LineReader) : List Bytes → LineReader × List Line
  | [] => (reader, [])
  | chunk :: rest =>
    let (next, lines) := reader.feed chunk
    let (last, more) := next.feedAll rest
    (last, lines ++ more)

theorem LineReader.feedAll_eq (reader : LineReader) (chunks : List Bytes) :
    reader.feedAll chunks = reader.feed chunks.flatten := by
  induction chunks generalizing reader with
  | nil => rfl
  | cons chunk rest ih =>
      rw [List.flatten_cons, feed_append, ← ih]
      rfl

theorem LineSource.drawn_opened (delivery : Delivery) (draws : Nat) :
    (opened delivery).drawn draws = (Line.ofContent delivery.content)[draws]? := by
  rw [Line.ofContent_eq_numbered]
  refine drawn_stretches ?_ (List.splitOn_ne_nil _ _) ?_ draws
  · exact fun bytes member => (Text.mem_splitOn member).1
  · exact (List.intercalate_splitOn Line.newline).symm

/-- However bytes are delivered, the lines drawn are what stands between the newlines, in order and
one for each, with what is left after the last newline unless nothing is. -/
theorem draws_exact (delivery : Delivery) :
    let source := LineSource.opened delivery
    let fed := LineReader.start.feedAll delivery.chunks
    ∃ (lines : List Bytes) (last : Bytes),
      delivery.content = lines.flatMap (· ++ [Line.newline]) ++ last ∧
      (∀ bytes ∈ lines, Line.newline ∉ bytes) ∧ Line.newline ∉ last ∧
      (∀ place bytes, lines[place]? = some bytes →
        ∃ body, source.drawn place = some ⟨place + 1, body⟩ ∧
          body.Tells bytes (bytes.length + 1)) ∧
      (last ≠ [] →
        ∃ body, source.drawn lines.length = some ⟨lines.length + 1, body⟩ ∧
          body.Tells last last.length) ∧
      (∀ draws, lines.length + (if last = [] then 0 else 1) ≤ draws →
        source.drawn draws = none) ∧
      (∀ draws, (source.after draws).buffer.length ≤ Limit.line) ∧
      (∀ draws, source.drawn draws = (Line.ofContent delivery.content)[draws]?) ∧
      fed.2 ++ fed.1.finish = Line.ofContent delivery.content := by
  intro source fed
  obtain ⟨lines, last, split, clean, lastClean⟩ := delivery.content.exists_lines
  have given (draws : Nat) := split ▸ LineSource.drawn_opened delivery draws
  simp only [Line.getElem?_ofContent clean lastClean] at given
  refine ⟨lines, last, split, clean, lastClean, ?_, ?_, ?_, ?_, ?_, ?_⟩
  · intro place bytes found
    refine ⟨_, ?_, LineBody.tells_ofBytes bytes (bytes.length + 1)⟩
    have inside := (List.getElem?_eq_some_iff.mp found).1
    rw [given, List.getElem?_append_left (by simpa using inside), List.getElem?_map, found]
    rfl
  · intro more
    refine ⟨_, ?_, LineBody.tells_ofBytes last last.length⟩
    rw [given, List.getElem?_append_right (by simp), List.length_map, Nat.sub_self, if_neg more]
    rfl
  · intro draws beyond
    rw [given, List.getElem?_eq_none, Option.map_none]
    rw [List.length_append, List.length_map]
    by_cases nothing : last = []
    · rw [if_pos nothing] at beyond ⊢
      exact beyond
    · rw [if_neg nothing] at beyond ⊢
      exact beyond
  · exact fun draws => LineSource.length_buffer_after (Nat.zero_le _) draws
  · exact LineSource.drawn_opened delivery
  · rw [Line.ofContent]
    simp only [fed, LineReader.feedAll_eq]
    rfl

end CertFailover
