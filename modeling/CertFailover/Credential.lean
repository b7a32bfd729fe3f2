import CertFailover.Files.Basic
import CertFailover.Limit
import CertFailover.Text.Quoted
import CertFailover.Text.Record

/-!
Credential stores. A store answers a reference with the bytes kept under it. The store on files
takes each reference as the path of a file, from a base directory if it has one.
-/

namespace CertFailover

inductive CredentialFault where
  | notFound (reference : String)
  | unreadable (reference : String) (cause : String)
  | tooLarge (reference : String) (limit : Nat)
  deriving DecidableEq

def CredentialFault.message : CredentialFault → String
  | notFound reference => "no credential for reference " ++ Text.quoted reference
  | unreadable reference cause =>
    "failed to read credential " ++ Text.quoted reference ++ ": " ++ cause
  | tooLarge reference limit =>
    "credential " ++ Text.quoted reference ++ " exceeds " ++ toString limit ++ " bytes"

abbrev Credentials := String → Except CredentialFault Bytes

structure CredentialFiles where
  baseDirectory? : Option String
  deriving DecidableEq

namespace CredentialFiles

def pathOf (store : CredentialFiles) (reference : String) : String :=
  match store.baseDirectory? with
  | some base => FileTree.join base reference
  | none => reference

/-- Reads one byte more than a credential may have, to tell whether there is more. -/
def readBounded (reference : String) (content : Bytes) : Except CredentialFault Bytes :=
  let value := content.take (Limit.credentialFile + 1)
  if Limit.credentialFile < value.length then .error (.tooLarge reference Limit.credentialFile)
  else .ok value

def credentials (store : CredentialFiles) (files : FileTree) : Credentials := fun reference =>
  match files.read (store.pathOf reference) with
  | .error .missing => .error (.notFound reference)
  | .error cause => .error (.unreadable reference cause.message)
  | .ok content => readBounded reference content

def describe (store : CredentialFiles) : String :=
  Text.record "FileSecretResolver"
    [("base_dir", Text.optional Text.quoted store.baseDirectory?)]

end CredentialFiles

inductive CredentialSource where
  | files (store : CredentialFiles)
  | custom (credentials : Credentials)

namespace CredentialSource

def standard : CredentialSource :=
  .files ⟨none⟩

def credentials (source : CredentialSource) (tree : FileTree) : Credentials :=
  match source with
  | files store => store.credentials tree
  | custom credentials => credentials

def description : String :=
  Text.quoted "<SecretResolver>"

end CredentialSource

end CertFailover
