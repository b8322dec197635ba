import ArchiveUpkeep.Text.Blank
import ArchiveUpkeep.Text.Decimal

/-! Measures are numbers with a unit, as a policy writes them: a run of digits and then a suffix
that names the unit. A measure is refused when its suffix names no unit, and when the number or the
scaled number leaves 64 bits; nothing is rounded or reduced. -/
namespace ArchiveUpkeep

/-- Why a measure cannot be read. Each cause carries the text that was refused. -/
inductive MeasureError where
  | period (text : String)
  | size (text : String)
  | codec (name : String)
  | compression (text : String)
deriving DecidableEq, Repr

namespace MeasureError

def message : MeasureError → String
  | period text =>
    "Invalid period '" ++ text ++ "' - expected digits with an optional s/m/h/d suffix"
  | size text => "Invalid size '" ++ text ++ "' - expected digits with an optional K/M/G suffix"
  | codec name =>
    "Unknown compression type '" ++ name ++ "' - must be one of: none, snappy, gzip, lzma"
  | compression text =>
    "Invalid compression option '" ++ text ++ "' - expected name[:level[:threads]]"

instance : ToString MeasureError := ⟨message⟩

end MeasureError

namespace Measure
open Text

/-- Reads digits and a suffix. The suffix is turned into a factor by `unit?`, and both the number
and its product with the factor have to be below two to the sixty-four. -/
def readScaled? (unit? : List Char → Option Nat) (text : List Char) : Option UInt64 := do
  let (digits, suffix) := splitDigits text
  let factor ← unit? suffix
  let number ← readDigits? UInt64.size digits
  if number * factor < UInt64.size then some (number * factor).toUInt64 else none

end Measure

end ArchiveUpkeep
