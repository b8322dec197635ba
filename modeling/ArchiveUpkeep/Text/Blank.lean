/-! White space around a value never belongs to the value. The characters that count as blank are
the twenty-five of the Unicode property White_Space, which has been stable since Unicode 6.3. -/
namespace ArchiveUpkeep.Text

/-- The closed ranges of code points with the property White_Space, ascending. -/
def blankRanges : List (Nat × Nat) :=
  [(0x09, 0x0D), (0x20, 0x20), (0x85, 0x85), (0xA0, 0xA0), (0x1680, 0x1680), (0x2000, 0x200A),
   (0x2028, 0x2029), (0x202F, 0x202F), (0x205F, 0x205F), (0x3000, 0x3000)]

def isBlank (c : Char) : Bool :=
  blankRanges.any fun range => range.1 ≤ c.toNat && c.toNat ≤ range.2

/-- The characters without the blank ones at the end. -/
def trimEnd (cs : List Char) : List Char := (cs.reverse.dropWhile isBlank).reverse

/-- The characters without the blank ones at either end. -/
def trimChars (cs : List Char) : List Char := trimEnd (cs.dropWhile isBlank)

/-- The text without the blank characters at either end. -/
def trim (s : String) : String := String.ofList (trimChars s.toList)

@[simp] theorem toList_trim (s : String) : (trim s).toList = trimChars s.toList := by
  simp [trim]

end ArchiveUpkeep.Text
