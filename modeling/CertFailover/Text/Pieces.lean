/-!
Text split at a separator. Adjacent separators leave empty stretches between them, and these are
no pieces.
-/

namespace CertFailover.Text

def pieces (separator : Char) (text : String) : List String :=
  ((text.toList.splitOn separator).filter (! ·.isEmpty)).map String.ofList

theorem ne_empty_of_mem_pieces {separator : Char} {text piece : String}
    (member : piece ∈ pieces separator text) : piece ≠ "" := by
  simp only [pieces, List.mem_map, List.mem_filter] at member
  obtain ⟨chars, ⟨_, nonempty⟩, rfl⟩ := member
  intro isEmpty
  have : chars = [] := by simpa using congrArg String.toList isEmpty
  simp [this] at nonempty

end CertFailover.Text
