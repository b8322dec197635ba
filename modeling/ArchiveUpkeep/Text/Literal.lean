import ArchiveUpkeep.Text.Unprintable

/-! Characters and texts as literals, for messages that have to show exactly which ones they mean.
-/
namespace ArchiveUpkeep.Text

/-- The letter that stands for a control character or a backslash behind a backslash. -/
def escapeLetter? : Char → Option Char
  | '\x00' => some '0'
  | '\t' => some 't'
  | '\n' => some 'n'
  | '\r' => some 'r'
  | '\\' => some '\\'
  | _ => none

/-- One character inside a literal that is closed by `quote`. An unprintable character is written by
its code point in hexadecimal digits. -/
def escapeChar (quote c : Char) : List Char :=
  match escapeLetter? c with
  | some letter => ['\\', letter]
  | none =>
    if c = quote then ['\\', c]
    else if isUnprintable c then ['\\', 'u', '\x7b'] ++ Nat.toDigits 16 c.toNat ++ ['\x7d']
    else [c]

/-- A single character between apostrophes. -/
def charLiteral (c : Char) : String := String.ofList ('\'' :: escapeChar '\'' c ++ ['\''])

/-- A text between double quotes. -/
def textLiteral (s : String) : String :=
  String.ofList ('"' :: s.toList.flatMap (escapeChar '"') ++ ['"'])

end ArchiveUpkeep.Text
