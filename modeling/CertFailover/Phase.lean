/-!
The phases of a selector, as callers see them.
-/

namespace CertFailover

inductive Phase where
  | unknown
  | readyToGive
  | readyToCheck
  | noCertificate
  deriving DecidableEq

namespace Phase

def all : List Phase :=
  [.unknown, .readyToGive, .readyToCheck, .noCertificate]

def name : Phase → String
  | unknown => "unknown"
  | readyToGive => "ready_to_give_cert"
  | readyToCheck => "ready_to_check_cert"
  | noCertificate => "no_cert"

def tag : Phase → String
  | unknown => "Unknown"
  | readyToGive => "ReadyToGiveCert"
  | readyToCheck => "ReadyToCheckCert"
  | noCertificate => "NoCert"

def code : Phase → Nat
  | unknown => 200
  | readyToGive => 201
  | readyToCheck => 202
  | noCertificate => 203

end Phase

end CertFailover
