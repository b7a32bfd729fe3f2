import CertFailover.Bytes
import CertFailover.Limit

/-!
The lines of a file. A line ends with a newline or with the file, and is readable if it stays below
its bound and is valid UTF-8.
-/

namespace CertFailover

inductive LineBody where
  | text (text : String)
  | tooLong
  | notUtf8
  deriving DecidableEq

structure Line where
  number : Nat
  body : LineBody
  deriving DecidableEq

def Line.newline : UInt8 := 10

/-- The body of a line, from its bytes without the newline and its length with it. -/
def LineBody.ofBytes (bytes : Bytes) (rawLength : Nat) : LineBody :=
  if Limit.line ≤ rawLength then .tooLong
  else match bytes.text? with
    | some decoded => .text decoded
    | none => .notUtf8

end CertFailover
