import CertFailover.Proofs.Document
import CertFailover.Proofs.Labels

/-!
Lookups as answers of single lines. A group lists the lines that serve it, in their order and with one
ordinal for each, as far as lines can be read, and a label gets what the first line has that carries
it or cannot be read. No byte after the line that decides has a part in the answer.
-/

namespace CertFailover

inductive Line.Bars (line : Line) : LookupFault → Prop
  | tooLong (long : line.body = .tooLong) : Bars line (.config (.lineTooLong line.number))
  | notUtf8 (foreign : line.body = .notUtf8) : Bars line (.config (.lineNotUtf8 line.number))

namespace Line

end Line

namespace Lookup

end Lookup

namespace Line

def outcome (line : Line) : Except LookupFault Entry :=
  if line.readable then line.entry else .error line.stop

end Line

namespace Lookup

end Lookup

end CertFailover
