import CertFailover.Reply
import CertFailover.Selector.CheckOut
import CertFailover.Selector.Report

/-!
Runs of a selector: calls in sequence, each with the surroundings that it meets.
-/

namespace CertFailover.Selector

inductive Call where
  | checkOut
  | report (code : Nat) (endpoint : String)
  | destroy
  deriving DecidableEq

def call (selector : Selector) (host : Host) : Call → Logged (Selector × Reply)
  | .checkOut => do
    let (next, result) ← selector.checkOut host
    pure (next, .ofGrant result)
  | .report code endpoint => do
    let (next, decision) ← selector.report host.files code endpoint
    pure (next, .decided decision)
  | .destroy => do
    let next ← selector.destroy
    pure (next, .destroyed)

def run (selector : Selector) : List (Host × Call) → Logged (Selector × List Reply)
  | [] => pure (selector, [])
  | (host, made) :: rest => do
    let (next, reply) ← selector.call host made
    let (last, replies) ← next.run rest
    pure (last, reply :: replies)

end CertFailover.Selector
