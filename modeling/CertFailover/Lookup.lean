import CertFailover.Entry
import CertFailover.Files.Basic
import CertFailover.Line.Reader
import CertFailover.Logged

/-!
Lookups in the configuration file, by group and ordinal or by label. Each lookup reads the file
afresh. A line that cannot be read ends the search, since nothing after it can be trusted to keep
its place.
-/

namespace CertFailover.Lookup

def inGroupLines (group : String) : Nat → List Line → Except LookupFault Entry
  | _, [] => .error .noEntry
  | _, ⟨number, .tooLong⟩ :: _ => .error (.config (.lineTooLong number))
  | _, ⟨number, .notUtf8⟩ :: _ => .error (.config (.lineNotUtf8 number))
  | ordinal, ⟨number, .text text⟩ :: rest =>
    match Entry.fields text with
    | [] => inGroupLines group ordinal rest
    | tags :: others =>
      if Entry.belongs tags group then
        match ordinal with
        | 0 => (Entry.ofFields number others).mapError .config
        | before + 1 => inGroupLines group before rest
      else inGroupLines group ordinal rest

def byLabelLines (label : String) : List Line → Except LookupFault Entry
  | [] => .error .noEntry
  | ⟨number, .tooLong⟩ :: _ => .error (.config (.lineTooLong number))
  | ⟨number, .notUtf8⟩ :: _ => .error (.config (.lineNotUtf8 number))
  | ⟨number, .text text⟩ :: rest =>
    match Entry.fields text with
    | _ :: second :: others =>
      if second = label then (Entry.ofFields number (second :: others)).mapError .config
      else byLabelLines label rest
    | _ => byLabelLines label rest

def lines (files : FileTree) (path : String) : Except LookupFault (List Line) :=
  match files.find path with
  | .error _ => .error (.config (.notOpened path))
  | .ok node =>
    match node.content with
    | .error cause => .error (.config (.notRead path cause))
    | .ok content => .ok (Line.ofContent content)

def inGroup (files : FileTree) (path group : String) (ordinal : Nat) :
    Except LookupFault Entry :=
  if Limit.ordinals ≤ ordinal then .error .noEntry
  else (lines files path).bind (inGroupLines group ordinal)

def byLabel (files : FileTree) (path label : String) : Except LookupFault Entry :=
  (lines files path).bind (byLabelLines label)

end CertFailover.Lookup
