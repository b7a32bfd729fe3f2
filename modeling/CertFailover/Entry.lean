import CertFailover.Fault
import CertFailover.Text.Beginning
import CertFailover.Text.Pieces
import CertFailover.Text.Record

/-!
Entries of the configuration file. A line is `tags,label,type,uri,credential reference`, where the
tags name the groups that the entry belongs to. Empty fields and tags are skipped and fields after
the fifth are ignored.
-/

namespace CertFailover

structure Entry where
  label : String
  uri : String
  credentialRef : String
  deriving DecidableEq

namespace Entry

def fieldSeparator : Char := ','

def tagSeparator : Char := '|'

def fileScheme : String := "file://"

def fields (line : String) : List String :=
  Text.pieces fieldSeparator line

def belongs (tags group : String) : Bool :=
  ((Text.pieces tagSeparator tags).take Limit.groupTags).contains group

/-- The entry in the fields that follow the tags. Fields are examined in their order, so the first
one that is missing or too long is the one reported. -/
def ofFields (line : Nat) : List String → Except ConfigFault Entry
  | label :: _ :: uri :: rest =>
    if !Field.uri.fits uri.utf8ByteSize then
      .error (.fieldTooLong line .uri uri.utf8ByteSize)
    else match rest with
      | [] => .error (.missingFields line)
      | credentialRef :: _ =>
        if !Field.credentialRef.fits credentialRef.utf8ByteSize then
          .error (.fieldTooLong line .credentialRef credentialRef.utf8ByteSize)
        else .ok ⟨label, uri, credentialRef⟩
  | _ => .error (.missingFields line)

def pathOfUri (uri : String) : String :=
  (Text.after? fileScheme uri).getD uri

def path (entry : Entry) : String :=
  pathOfUri entry.uri

def describe (entry : Entry) : String :=
  Text.record "CertEntry"
    [("label", Text.quoted entry.label), ("uri", Text.quoted entry.uri),
     ("credential_ref", Text.quoted "<redacted>")]

end Entry

end CertFailover
