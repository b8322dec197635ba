import ArchiveUpkeep.Measure.Basic
import ArchiveUpkeep.Time

/-! Periods are written in seconds, minutes, hours or days. A number without a suffix counts
seconds. -/
namespace ArchiveUpkeep.Period
open Text

/-- The seconds that a suffix stands for. -/
def unit? : List Char → Option Nat
  | [] => some 1
  | ['s'] => some 1
  | ['m'] => some 60
  | ['h'] => some 3600
  | ['d'] => some 86400
  | _ => none

/-- Reads a period, with any white space around it. -/
def parse (s : String) : Except MeasureError Period :=
  match Measure.readScaled? unit? (trimChars s.toList) with
  | some seconds => .ok (ofSeconds seconds)
  | none => .error (.period (trim s))

end ArchiveUpkeep.Period
