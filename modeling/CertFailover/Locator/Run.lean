import CertFailover.Locator.Basic
import CertFailover.Reply

/-!
Runs of a locator: calls in sequence, each with the surroundings that it meets.
-/

namespace CertFailover.Locator

inductive Call where
  | locate (label : String)
  | destroy
  deriving DecidableEq

def call (locator : Locator) (host : Host) : Call → Logged (Locator × Reply)
  | .locate label => do
    let (next, result) ← locator.locate host label
    pure (next, .ofGrant result)
  | .destroy => pure (locator.destroy, .destroyed)

def run (locator : Locator) : List (Host × Call) → Logged (Locator × List Reply)
  | [] => pure (locator, [])
  | (host, made) :: rest => do
    let (next, reply) ← locator.call host made
    let (last, replies) ← next.run rest
    pure (last, reply :: replies)

end CertFailover.Locator
