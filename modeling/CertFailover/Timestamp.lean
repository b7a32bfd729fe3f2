import CertFailover.Text.Record

/-!
Modification times, to the nanosecond.
-/

namespace CertFailover

/-- Nanoseconds since the start of 1970, negative before it. -/
structure Timestamp where
  nanoseconds : Int
  deriving DecidableEq

namespace Timestamp

def nanosecondsPerSecond : Int := 1000000000

def epoch : Timestamp := ⟨0⟩

def ofSeconds (seconds nanoseconds : Int) : Timestamp :=
  ⟨seconds * nanosecondsPerSecond + nanoseconds⟩

/-- Whole seconds are rounded down, so that the rest is never negative. -/
def describe (time : Timestamp) : String :=
  Text.record "SystemTime"
    [("tv_sec", toString (time.nanoseconds / nanosecondsPerSecond)),
     ("tv_nsec", toString (time.nanoseconds % nanosecondsPerSecond))]

end Timestamp

end CertFailover
