import CertFailover.Line.Basic

/-!
Reading lines from bytes as they arrive. The reader never holds more bytes than a line may have;
what exceeds them is dropped up to the next newline, so that a line of any length is one line.
-/

namespace CertFailover

structure LineReader where
  number : Nat
  held : Array UInt8
  bounded : held.size ≤ Limit.line

namespace LineReader

def start : LineReader :=
  ⟨0, #[], by decide⟩

def take (reader : LineReader) (byte : UInt8) : LineReader × Option Line :=
  if byte = Line.newline then
    (⟨reader.number + 1, #[], by decide⟩,
      some ⟨reader.number + 1, .ofBytes reader.held.toList (reader.held.size + 1)⟩)
  else if room : reader.held.size < Limit.line then
    (⟨reader.number, reader.held.push byte, by simpa [Nat.succ_le_iff] using room⟩, none)
  else (reader, none)

def feed (reader : LineReader) : List UInt8 → LineReader × List Line
  | [] => (reader, [])
  | byte :: rest =>
    let (next, line?) := reader.take byte
    let (last, lines) := next.feed rest
    (last, line?.toList ++ lines)

def finish (reader : LineReader) : List Line :=
  if reader.held.isEmpty then []
  else [⟨reader.number + 1, .ofBytes reader.held.toList reader.held.size⟩]

theorem feed_append (reader : LineReader) (first second : List UInt8) :
    reader.feed (first ++ second) =
      (((reader.feed first).1.feed second).1,
        (reader.feed first).2 ++ ((reader.feed first).1.feed second).2) := by
  induction first generalizing reader with
  | nil => simp [feed]
  | cons byte rest ih => simp [feed, ih]

end LineReader

def Line.ofContent (content : Bytes) : List Line :=
  let (reader, lines) := LineReader.start.feed content
  lines ++ reader.finish

end CertFailover
