import CertFailover.Fault
import CertFailover.Host
import CertFailover.Outcome

/-!
Replies, what calls on selectors and locators come back with.
-/

namespace CertFailover

inductive Reply where
  | granted (grant : Grant)
  | failed (fault : Fault)
  | decided (decision : Decision)
  | destroyed
  deriving DecidableEq

def Reply.ofGrant : Except Fault Grant → Reply
  | .ok grant => granted grant
  | .error fault => failed fault

end CertFailover
