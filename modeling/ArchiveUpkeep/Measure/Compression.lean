import ArchiveUpkeep.Measure.Basic

/-! A compression option is a codec with a level and a number of threads, written as up to three
fields between colons. Zero leaves the choice of level or threads to the server, and so does a
missing field. -/
namespace ArchiveUpkeep
open Text

/-- The codecs that archive servers understand. -/
inductive Codec where
  | none
  | snappy
  | gzip
  | lzma
deriving DecidableEq, Repr

namespace Codec

def name : Codec → String
  | none => "none"
  | snappy => "snappy"
  | gzip => "gzip"
  | lzma => "lzma"

instance : ToString Codec := ⟨name⟩

/-- The codec of this exact name. -/
def parse (s : String) : Except MeasureError Codec :=
  match s with
  | "none" => .ok none
  | "snappy" => .ok snappy
  | "gzip" => .ok gzip
  | "lzma" => .ok lzma
  | _ => .error (.codec s)

theorem parse_name (c : Codec) : parse c.name = .ok c := by cases c <;> rfl

end Codec

structure Compression where
  codec : Codec := .none
  level : UInt32 := 0
  threads : UInt32 := 0
deriving DecidableEq, Repr

namespace Compression

/-- The canonical text of an option always has three fields. -/
def toText (c : Compression) : String := s!"{c.codec.name}:{c.level.toNat}:{c.threads.toNat}"

instance : ToString Compression := ⟨toText⟩

/-- Reads a numeric field; a missing field is zero. -/
def readField? : Option (List Char) → Option UInt32
  | .none => some 0
  | some field => (readCount? UInt32.size field).map Nat.toUInt32

/-- Reads a compression option, with any white space around it. Too many fields outrank an unknown
codec, which outranks a number that cannot be read. -/
def parse (s : String) : Except MeasureError Compression := do
  let fields := (trimChars s.toList).splitOn ':'
  if 3 < fields.length then throw (.compression (trim s))
  let codec ← Codec.parse (String.ofList (fields.headD []))
  match readField? fields[1]?, readField? fields[2]? with
  | some level, some threads => return { codec, level, threads }
  | _, _ => throw (.compression (trim s))

end Compression

end ArchiveUpkeep
