/-! Numbers written in decimal. Only the ten ASCII digits count as digits, a run of them may have
any length and any number of leading zeros, and a number that is too large for its place is refused
rather than reduced. -/
namespace ArchiveUpkeep.Text

/-- The leading digits of a text, and what follows them. -/
def splitDigits (cs : List Char) : List Char × List Char :=
  (cs.takeWhile Char.isDigit, cs.dropWhile Char.isDigit)

/-- The value of a run of digits; the empty run has the value zero. -/
def digitsValue (digits : List Char) : Nat := Nat.ofDigitChars 10 digits 0

/-- Reads one or more digits as a number below `bound`. -/
def readDigits? (bound : Nat) (cs : List Char) : Option Nat :=
  if cs ≠ [] ∧ cs.all Char.isDigit ∧ digitsValue cs < bound then some (digitsValue cs) else none

/-- Reads a count below `bound`: one optional plus sign and then one or more digits. -/
def readCount? (bound : Nat) : List Char → Option Nat
  | '+' :: digits => readDigits? bound digits
  | digits => readDigits? bound digits

theorem isDigit_of_mem_toDigits {n : Nat} {c : Char} (found : c ∈ Nat.toDigits 10 n) :
    c.isDigit :=
  Nat.isDigit_of_mem_toDigits (by decide) (by decide) found

theorem toList_toString_nat (n : Nat) : (toString n).toList = Nat.toDigits 10 n := by
  rw [Nat.toString_eq_repr, Nat.toList_repr]

/-- The decimal digits of a number are read back as that number. -/
theorem readDigits?_toDigits {bound n : Nat} (small : n < bound) :
    readDigits? bound (Nat.toDigits 10 n) = some n := by
  have value : digitsValue (Nat.toDigits 10 n) = n :=
    Nat.ofDigitChars_toDigits (by decide) (by decide)
  have nonempty : Nat.toDigits 10 n ≠ [] :=
    List.ne_nil_of_length_pos Nat.length_toDigits_pos
  have digits : (Nat.toDigits 10 n).all Char.isDigit = true :=
    List.all_eq_true.2 fun _ => isDigit_of_mem_toDigits
  simp [readDigits?, value, nonempty, digits, small]

end ArchiveUpkeep.Text
