import ArchiveUpkeep.Config.Error
import ArchiveUpkeep.Measure.Compression
import ArchiveUpkeep.Measure.Period
import ArchiveUpkeep.Measure.Size

/-! The values that keys of a policy document may have. White space around a value never counts. A
value that is refused is reported as it stands in the document, unless its fault says otherwise. -/
namespace ArchiveUpkeep.Value
open Text

/-- A refused value as it is reported, and what is wrong with it. -/
structure Rejection where
  shown : String
  fault : ValueFault
deriving DecidableEq, Repr

/-- A text that is not blank. -/
def text (s : String) : Except Rejection String :=
  if trim s = "" then .error ⟨"", .blank⟩ else .ok (trim s)

/-- A number below `bound`, with any white space around it. -/
def number? (bound : Nat) (s : String) : Option Nat := readCount? bound (trimChars s.toList)

def port (s : String) : Except Rejection UInt16 :=
  match number? UInt16.size s with
  | some n => .ok n.toUInt16
  | none => .error ⟨s, .port⟩

def natural (s : String) : Except Rejection UInt64 :=
  match number? UInt64.size s with
  | some n => .ok n.toUInt64
  | none => .error ⟨s, .natural⟩

def positive (s : String) : Except Rejection UInt64 :=
  match number? UInt64.size s with
  | some (n + 1) => .ok (n + 1).toUInt64
  | _ => .error ⟨s, .positive⟩

/-- The most diffs in a merge. A number that is too small is reported in plain decimal. -/
def mergeCount (s : String) : Except Rejection UInt64 := do
  let n ← natural s
  if n < 2 then throw ⟨toString n, .lone⟩ else return n

/-- A measure in a notation of its own. -/
def measured (parse : String → Except MeasureError α) (s : String) : Except Rejection α :=
  match parse s with
  | .ok a => .ok a
  | .error cause => .error ⟨s, .measure cause⟩

def period : String → Except Rejection Period := measured Period.parse

def size : String → Except Rejection UInt64 := measured Size.parse

def compression : String → Except Rejection Compression := measured Compression.parse

end ArchiveUpkeep.Value
