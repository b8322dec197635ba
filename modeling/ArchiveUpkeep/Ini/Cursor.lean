/-! A cursor stands on a character of a document, or at its end, and knows the line and column for
messages. Moving on counts the character that is arrived at: a line feed begins the next line. -/
namespace ArchiveUpkeep.Ini

structure Cursor where
  line : Nat
  column : Nat
  /-- The text from the character that the cursor stands on. -/
  rest : List Char
deriving DecidableEq, Repr

namespace Cursor

/-- Arrives at the first character of `text`, if there is one. -/
def arrive (line column : Nat) (text : List Char) : Cursor :=
  match text with
  | [] => ⟨line, column, text⟩
  | '\n' :: _ => ⟨line + 1, 0, text⟩
  | _ => ⟨line, column + 1, text⟩

/-- The cursor on the first character of a text. -/
def start (text : List Char) : Cursor := arrive 0 0 text

/-- The cursor on the next character. -/
def next (cur : Cursor) : Cursor := arrive cur.line cur.column cur.rest.tail

/-- The character that the cursor stands on, unless it is at the end. -/
def current? (cur : Cursor) : Option Char := cur.rest.head?

@[simp] theorem rest_arrive (line column : Nat) (text : List Char) :
    (arrive line column text).rest = text := by
  unfold arrive
  split <;> rfl

@[simp] theorem rest_next (cur : Cursor) : cur.next.rest = cur.rest.tail := rest_arrive ..

/-- How many characters are left. -/
abbrev left (cur : Cursor) : Nat := cur.rest.length

theorem left_next_le (cur : Cursor) : cur.next.left ≤ cur.left := by simp [left]

theorem left_next_lt {cur : Cursor} {c : Char} (found : cur.current? = some c) :
    cur.next.left < cur.left := by
  obtain ⟨tail, split⟩ := List.head?_eq_some_iff.1 found
  simp [left, split]

/-- A cursor that has not gone back behind `cur`. -/
abbrev Later (cur : Cursor) := { later : Cursor // later.left ≤ cur.left }

/-- A cursor that has moved on from `cur`. -/
abbrev Beyond (cur : Cursor) := { beyond : Cursor // beyond.left < cur.left }

/-- Stays where it is. -/
def stay (cur : Cursor) : cur.Later := ⟨cur, Nat.le_refl _⟩

/-- Moves on by one character, if there is one. -/
def onward (cur : Cursor) : cur.Later := ⟨cur.next, cur.left_next_le⟩

/-- Moves on from the character that the cursor is known to stand on. -/
def past {cur : Cursor} {c : Char} (found : cur.current? = some c) : cur.Beyond :=
  ⟨cur.next, left_next_lt found⟩

def Later.trans {cur : Cursor} (mid : cur.Later) (later : mid.1.Later) : cur.Later :=
  ⟨later.1, Nat.le_trans later.2 mid.2⟩

def Beyond.trans {cur : Cursor} (mid : cur.Beyond) (later : mid.1.Later) : cur.Beyond :=
  ⟨later.1, Nat.lt_of_le_of_lt later.2 mid.2⟩

def Beyond.later {cur : Cursor} (beyond : cur.Beyond) : cur.Later :=
  ⟨beyond.1, Nat.le_of_lt beyond.2⟩

theorem Beyond.later_left_lt {cur : Cursor} (beyond : cur.Beyond) :
    beyond.later.1.left < cur.left := beyond.2

/-- Moves over the characters in a class. -/
def skipWhile (inClass : Char → Bool) (cur : Cursor) : cur.Later :=
  match found : cur.current? with
  | none => cur.stay
  | some c =>
    if inClass c then
      let mid := past found
      (mid.trans (skipWhile inClass mid.1)).later
    else cur.stay
termination_by cur.left
decreasing_by exact mid.2

end Cursor

end ArchiveUpkeep.Ini
