import ArchiveUpkeep.Measure.Basic

/-! Sizes count bytes. Their suffixes are binary multiples in either case, and a number without a
suffix is a number of bytes. -/
namespace ArchiveUpkeep.Size
open Text

/-- The bytes that a suffix stands for. -/
def unit? : List Char → Option Nat
  | [] => some 1
  | ['K'] | ['k'] => some 1024
  | ['M'] | ['m'] => some 1048576
  | ['G'] | ['g'] => some 1073741824
  | _ => none

/-- The sum of two sizes, or the greatest size there is if the sum is beyond it. -/
def add (a b : UInt64) : UInt64 :=
  if a.toNat + b.toNat < UInt64.size then a + b else UInt64.ofNat (UInt64.size - 1)

theorem toNat_add (a b : UInt64) : (add a b).toNat = min (a.toNat + b.toNat) (UInt64.size - 1) := by
  unfold add
  split
  · simp only [UInt64.toNat_add, UInt64.size] at *
    omega
  · simp only [UInt64.toNat_ofNat', UInt64.size] at *
    omega

/-- Reads a size, with any white space around it. -/
def parse (s : String) : Except MeasureError UInt64 :=
  match Measure.readScaled? unit? (trimChars s.toList) with
  | some bytes => .ok bytes
  | none => .error (.size (trim s))

end ArchiveUpkeep.Size
