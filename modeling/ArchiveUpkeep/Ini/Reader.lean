import ArchiveUpkeep.Ini.Cursor
import ArchiveUpkeep.Ini.Document
import ArchiveUpkeep.Text.Blank
import ArchiveUpkeep.Text.Hexadecimal
import ArchiveUpkeep.Text.Literal

/-! The reader turns the text of a policy into a document. It goes over the characters once: every
step says where the cursor stands afterwards, also when it fails, and a round of the main loop
always moves on. A failure is reported with the line and column that the cursor had reached. -/
namespace ArchiveUpkeep.Ini
open Text

/-- What the reader cannot make sense of. -/
inductive Fault where
  /-- A comment sign behind other characters of its line. -/
  | inlineComment
  /-- A separator without a key in front of it. -/
  | missingKey
  /-- The end of the text where one of these was expected; `none` stands for the end itself. -/
  | endOfText (expected : List (Option Char))
  /-- A backslash inside a character code that does not continue the line. -/
  | brokenContinuation (found : Option Char)
  /-- A character code that is no number, or the number of no character. -/
  | unknownCharacter
deriving DecidableEq, Repr

structure ReadError where
  line : Nat
  column : Nat
  fault : Fault
deriving DecidableEq, Repr

/-- How a message shows a character, or the end of the text. -/
def showExpected : Option Char → String
  | some c => "Some(" ++ charLiteral c ++ ")"
  | none => "None"

def Fault.message : Fault → String
  | inlineComment => "doesn't support inline comment"
  | missingKey => "missing key"
  | endOfText expected =>
    "expecting \"[" ++ ", ".intercalate (expected.map showExpected) ++ "]\" but found EOF."
  | brokenContinuation found => "expecting \"\\\\n\" but found \"" ++ showExpected found ++ "\"."
  | unknownCharacter => "unknown character in \\xHH form"

def ReadError.message (error : ReadError) : String :=
  s!"{error.line + 1}:{error.column + 1} {error.fault.message}"

namespace Cursor

/-- What a step has read, or why it could not, and where the cursor stands after it. -/
structure Step (cur : Cursor) (α : Type) where
  outcome : Except Fault α
  cursor : cur.Later

/-- The failure as it is reported from here. -/
def fail (cur : Cursor) (fault : Fault) : ReadError := ⟨cur.line, cur.column, fault⟩

/-- Reads the next `count` characters of a character code. A backslash among them has to be at the
end of its line. -/
def code (stops : List (Option Char)) : Nat → (cur : Cursor) → cur.Step (List Char)
  | 0, cur => ⟨.ok [], cur.stay⟩
  | count + 1, cur =>
    let here := cur.onward
    match here.1.current? with
    | none => ⟨.error (.endOfText stops), here⟩
    | some c =>
      let last := if c = '\\' then here.trans here.1.onward else here
      if c = '\\' ∧ last.1.current? ≠ some '\n' then
        ⟨.error (.brokenContinuation last.1.current?), last⟩
      else
        let more := code stops count last.1
        ⟨more.outcome.map (c :: ·), last.trans more.cursor⟩

/-- The letters that stand for control characters behind a backslash. -/
def control? : Char → Option Char
  | '0' => some '\x00'
  | 'a' => some '\x07'
  | 'b' => some '\x08'
  | 't' => some '\t'
  | 'r' => some '\r'
  | 'n' => some '\n'
  | _ => none

/-- Reads what stands behind a backslash, and leaves the cursor on its last character. A line feed
continues the line, and the letter `x` begins a character code of four digits. Any other character
stands for itself, and a backslash at the end of the text too. -/
def escaped (stops : List (Option Char)) (cur : Cursor) : cur.Step (List Char) :=
  match cur.current? with
  | none => ⟨.ok ['\\'], cur.stay⟩
  | some '\n' => ⟨.ok [], cur.stay⟩
  | some 'x' =>
    let digits := code stops 4 cur
    let character := do
      match (readHex? (← digits.outcome)).filter (·.isValidChar) with
      | some n => return [Char.ofNat n]
      | none => throw .unknownCharacter
    ⟨character, digits.cursor⟩
  | some c => ⟨.ok [(control? c).getD c], cur.stay⟩

/-- Reads up to one of the `stops`, where `none` stands for the end of the text. Line ends are no
exception: a text goes on over them unless they are among the stops. -/
def upTo (stops : List (Option Char)) (cur : Cursor) : cur.Step (List Char) :=
  if cur.current? ∈ stops then ⟨.ok [], cur.stay⟩
  else
    match found : cur.current? with
    | none => ⟨.error (.endOfText stops), cur.stay⟩
    | some c =>
      let mid := past found
      if c = '\\' then
        let piece := escaped stops mid.1
        let last := mid.trans piece.cursor
        match piece.outcome with
        | .error fault => ⟨.error fault, last.later⟩
        | .ok cs =>
          let after := last.trans last.1.onward
          let more := upTo stops after.1
          ⟨more.outcome.map (cs ++ ·), (after.trans more.cursor).later⟩
      else
        let more := upTo stops mid.1
        ⟨more.outcome.map (c :: ·), (mid.trans more.cursor).later⟩
termination_by cur.left
decreasing_by
  · exact after.2
  · exact mid.2

/-- The stops that end a key. -/
def separators : List (Option Char) := [some '=', some ':']

/-- The stops that end a value. -/
def lineEnds : List (Option Char) := [some '\n', some '\r', none]

/-- Reads the parts of a value: any number of quoted parts, and then the rest of the line. Quotes
count only at the start of the value and right behind a closing quote. White space at the end of the
line is dropped, and at its start too unless a quoted part stands there. -/
def parts (first : Bool) (cur : Cursor) : cur.Step (List Char) :=
  match found : cur.current? with
  | none => ⟨.ok [], cur.stay⟩
  | some c =>
    if c = '"' ∨ c = '\'' then
      let opened := past found
      let quoted := upTo [some c] opened.1
      let closing := opened.trans quoted.cursor
      match quoted.outcome with
      | .error fault => ⟨.error fault, closing.later⟩
      | .ok text =>
        let closed := closing.trans closing.1.onward
        let more := parts false closed.1
        ⟨more.outcome.map (text ++ ·), (closed.trans more.cursor).later⟩
    else
      let line := upTo lineEnds cur
      ⟨line.outcome.map (if first then trimChars else trimEnd), line.cursor⟩
termination_by cur.left
decreasing_by exact closed.2

/-- Reads the value behind a separator. -/
def value (cur : Cursor) : cur.Step (List Char) :=
  let start := cur.skipWhile fun c => isBlank c && c ≠ '\n' && c ≠ '\r'
  let text := parts true start.1
  ⟨text.outcome, start.trans text.cursor⟩

/-- A space or a tab. -/
def isIndent (c : Char) : Bool := c = ' ' || c = '\t'

/-- Moves over white space between items, but stops at the indentation of a line. -/
def skipGap (cur : Cursor) : cur.Later :=
  match found : cur.current? with
  | none => cur.stay
  | some c =>
    let mid := past found
    if c = '\n' ∨ c = '\r' then
      if mid.1.current?.any isIndent then mid.later
      else (mid.trans (skipGap mid.1)).later
    else if isBlank c then (mid.trans (skipGap mid.1)).later
    else cur.stay
termination_by cur.left
decreasing_by all_goals exact mid.2

/-- What one round of the main loop has read: an item or none, the key that now waits for its
separator, and where the next round begins. -/
structure Round (cur : Cursor) where
  item? : Option Item := none
  key : List Char
  cursor : cur.Beyond

/-- Reads a header, with the cursor on its opening bracket. -/
def header (key : List Char) {cur : Cursor} {c : Char} (found : cur.current? = some c) :
    Except ReadError cur.Round :=
  let opened := past found
  let name := upTo [some ']'] opened.1
  let closing := opened.trans name.cursor
  match name.outcome with
  | .error fault => .error (closing.1.fail fault)
  | .ok text =>
    let after := closing.trans closing.1.onward
    .ok ⟨some (.header (String.ofList (trimChars text))), key, after.trans after.1.skipGap⟩

/-- Reading from a character that is no stop moves the cursor on, also when it fails. -/
theorem left_upTo_lt {stops : List (Option Char)} {cur : Cursor} {c : Char}
    (found : cur.current? = some c) (inside : some c ∉ stops) :
    (cur.upTo stops).cursor.1.left < cur.left := by
  rw [upTo, if_neg (found ▸ inside)]
  split <;> rename_i here
  · cases found.symm.trans here
  · dsimp only
    split
    · split
      · exact Beyond.later_left_lt _
      · exact Beyond.later_left_lt _
    · exact Beyond.later_left_lt _

/-- Reads the key that begins with the character under the cursor. -/
def key {cur : Cursor} {c : Char} (found : cur.current? = some c) (inside : some c ∉ separators) :
    Except ReadError cur.Round :=
  let text := cur.upTo separators
  match text.outcome with
  | .error fault => .error (text.cursor.1.fail fault)
  | .ok name =>
    let after : cur.Beyond := ⟨text.cursor.1, left_upTo_lt found inside⟩
    .ok ⟨none, trimChars name, after.trans after.1.skipGap⟩

/-- Reads a line that begins with white space. A key in it that cannot be read leaves the pending
key as it is. -/
def indented (pending : List Char) {cur : Cursor} {c : Char} (found : cur.current? = some c) :
    Except ReadError cur.Round :=
  let first := past found
  let start := first.trans (first.1.skipWhile isIndent)
  match here : start.1.current? with
  | some '[' => do
    let round ← header pending here
    return { round with cursor := start.trans round.cursor.later }
  | some '\n' | some '\r' => .ok ⟨none, pending, start.trans start.1.onward⟩
  | _ =>
    let text := start.1.upTo separators
    let after := start.trans text.cursor
    let name := match text.outcome with
      | .ok name => trimChars name
      | .error _ => pending
    .ok ⟨none, name, after.trans after.1.skipGap⟩

/-- One round of the main loop, chosen by the character under the cursor. -/
def round (pending : List Char) {cur : Cursor} {c : Char} (found : cur.current? = some c) :
    Except ReadError cur.Round :=
  let after := past found
  if c = ';' ∨ c = '#' then
    if 1 < cur.column then .error (cur.fail .inlineComment)
    else
      let lineEnd := after.trans (after.1.skipWhile (· ≠ '\n'))
      let next := lineEnd.trans lineEnd.1.onward
      .ok ⟨none, pending, next.trans next.1.skipGap⟩
  else if c = '[' then header pending found
  else if inside : some c ∉ separators then
    if isIndent c then indented pending found
    else if c = '\n' ∨ c = '\r' then .ok ⟨none, pending, after.trans after.1.skipGap⟩
    else key found inside
  else if pending = [] then .error (cur.fail .missingKey)
  else
    let text := after.1.value
    let last := after.trans text.cursor
    match text.outcome with
    | .error fault => .error (last.1.fail fault)
    | .ok line =>
      .ok ⟨some (.pair (String.ofList pending) (String.ofList line)), [], last.trans last.1.skipGap⟩

/-- Reads the items from here to the end of the text. -/
def items (pending : List Char) (cur : Cursor) : Except ReadError (List Item) :=
  match found : cur.current? with
  | none => .ok []
  | some _ =>
    match round pending found with
    | .error error => .error error
    | .ok ⟨item?, waiting, next⟩ => (items waiting next.1).map (item?.toList ++ ·)
termination_by cur.left
decreasing_by exact next.2

end Cursor

/-- Reads the text of a document. -/
def Document.read (text : String) : Except ReadError Document :=
  ((Cursor.start text.toList).items []).map Document.ofItems

end ArchiveUpkeep.Ini
