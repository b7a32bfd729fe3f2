/-!
Beginnings of a text: what follows a given beginning, and the longest beginning of whole characters
that a number of bytes can hold.
-/

namespace CertFailover.Text

def after? (beginning text : String) : Option String :=
  (beginning.toList.isPrefixOf? text.toList).map String.ofList

def cutChars : Nat → List Char → List Char
  | _, [] => []
  | budget, c :: rest =>
    if c.utf8Size ≤ budget then c :: cutChars (budget - c.utf8Size) rest else []

def cut (budget : Nat) (text : String) : String :=
  String.ofList (cutChars budget text.toList)

end CertFailover.Text
