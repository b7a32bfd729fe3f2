/-!
Outcomes of a connection, told by the result code of the transfer, and what a caller is to do after
reporting one.
-/

namespace CertFailover

inductive Outcome where
  | success
  | certificateError
  | other
  deriving DecidableEq

namespace Outcome

def successCode : Nat := 0

/-- The codes that blame the local certificate: the handshake, the engine, the certificate itself,
the cipher, the shutdown, the issuer, the pinned key and the certificate status. -/
def certificateErrorCodes : List Nat :=
  [35, 53, 54, 58, 59, 66, 80, 83, 90, 91]

def ofCode (code : Nat) : Outcome :=
  if code = successCode then .success
  else if code ∈ certificateErrorCodes then .certificateError
  else .other

end Outcome

inductive Decision where
  | noRetry
  | tryAnother
  | retryError
  deriving DecidableEq

namespace Decision

def all : List Decision :=
  [.noRetry, .tryAnother, .retryError]

def name : Decision → String
  | noRetry => "no_retry"
  | tryAnother => "try_another"
  | retryError => "retry_error"

def tag : Decision → String
  | noRetry => "NoRetry"
  | tryAnother => "TryAnother"
  | retryError => "RetryError"

def code : Decision → Nat
  | noRetry => 100
  | tryAnother => 101
  | retryError => 102

end Decision

end CertFailover
