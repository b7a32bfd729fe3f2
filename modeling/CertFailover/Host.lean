import CertFailover.Credential
import CertFailover.Passcode

/-!
What the operations of selectors and locators consult, and what they hand out.
-/

namespace CertFailover

structure Host where
  files : FileTree
  credentials : Credentials

structure Grant where
  uri : String
  passcode : Passcode
  deriving DecidableEq

end CertFailover
