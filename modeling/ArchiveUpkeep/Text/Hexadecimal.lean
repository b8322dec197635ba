/-! Numbers written in hexadecimal digits of either case. -/
namespace ArchiveUpkeep.Text

def hexDigit? (c : Char) : Option Nat :=
  if '0' ≤ c ∧ c ≤ '9' then some (c.toNat - '0'.toNat)
  else if 'a' ≤ c ∧ c ≤ 'f' then some (c.toNat - 'a'.toNat + 10)
  else if 'A' ≤ c ∧ c ≤ 'F' then some (c.toNat - 'A'.toNat + 10)
  else none

/-- Reads one or more hexadecimal digits. -/
def readHexDigits? (cs : List Char) : Option Nat :=
  if cs.isEmpty then none
  else cs.foldlM (fun value c => (hexDigit? c).map (16 * value + ·)) 0

/-- Reads a number with one optional plus sign in front of its digits. -/
def readHex? : List Char → Option Nat
  | '+' :: digits => readHexDigits? digits
  | digits => readHexDigits? digits

end ArchiveUpkeep.Text
