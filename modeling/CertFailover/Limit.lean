/-!
The bounds on every value that a caller or a file supplies. Lengths are counted in bytes; a value
fits when it is strictly shorter than its limit.
-/

namespace CertFailover

namespace Limit

abbrev path : Nat := 128

abbrev parameter : Nat := 64

/-- A passcode without its final newline. -/
abbrev passcode : Nat := 63

abbrev engine : Nat := 32

abbrev ordinals : Nat := 6

/-- A raw line with its newline. -/
abbrev line : Nat := 1024

abbrev groupTags : Nat := 10

abbrev credentialFile : Nat := 4096

end Limit

inductive Field where
  | configPath
  | group
  | label
  | uri
  | credentialRef
  | passcode
  deriving DecidableEq

namespace Field

def all : List Field :=
  [.configPath, .group, .label, .uri, .credentialRef, .passcode]

def name : Field → String
  | configPath => "config_path"
  | group => "group"
  | label => "label"
  | uri => "uri"
  | credentialRef => "credential_ref"
  | passcode => "secret"

def tag : Field → String
  | configPath => "ConfigPath"
  | group => "Group"
  | label => "Label"
  | uri => "Uri"
  | credentialRef => "CredentialRef"
  | passcode => "Secret"

def limit : Field → Nat
  | configPath | uri => Limit.path
  | group | label | credentialRef => Limit.parameter
  | passcode => Limit.passcode

def fits (field : Field) (length : Nat) : Bool :=
  length < field.limit

@[simp] theorem fits_iff (field : Field) (length : Nat) :
    field.fits length = true ↔ length < field.limit := by
  simp [fits]

end Field

end CertFailover
