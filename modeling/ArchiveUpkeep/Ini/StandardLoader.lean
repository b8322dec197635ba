import ArchiveUpkeep.Files.Fault
import ArchiveUpkeep.Ini.Loader
import ArchiveUpkeep.Ini.Reader

/-! The loader unless another one is given: it opens a file, skips one byte order mark, and has the
reader read the text that is left. -/
namespace ArchiveUpkeep.Ini

/-- Why a file does not give the text of a document, or gives none that can be read. -/
inductive FileFault where
  | path (fault : PathFault)
  | notUtf8
  | malformed (cause : ReadError)
deriving DecidableEq, Repr

def FileFault.message : FileFault → String
  | path fault => fault.message
  | notUtf8 => "stream did not contain valid UTF-8"
  | malformed cause => cause.message

/-- The content behind its byte order mark, if it begins with one. -/
def withoutMark (content : ByteArray) : ByteArray :=
  if (content.extract 0 3).data = byteOrderMark.data then content.extract 3 content.size
  else content

/-- Reads the document that is written in some bytes. -/
def Document.readBytes (content : ByteArray) : Except FileFault Document :=
  match String.fromUTF8? content with
  | some text => (Document.read text).mapError .malformed
  | none => .error .notUtf8

/-- Reads the document that a file holds. -/
def Document.readFile : ConfigFile → Except FileFault Document
  | .missing => .error (.path .missing)
  | .directory => .error (.path .isADirectory)
  | .bytes content => Document.readBytes (withoutMark content)

def Loader.standard : Loader where
  TextError := ReadError
  FileError := FileFault
  textMessage := ReadError.message
  fileMessage := FileFault.message
  malformed := .malformed
  loadText := Document.read
  loadBytes := Document.readBytes
  loadFile := Document.readFile

theorem withoutMark_marked (content : ByteArray) :
    withoutMark (byteOrderMark ++ content) = content := by
  have front : (byteOrderMark ++ content).extract 0 3 = byteOrderMark :=
    ByteArray.extract_append_eq_left rfl
  rw [withoutMark, if_pos (congrArg ByteArray.data front)]
  exact ByteArray.extract_append_eq_right rfl ByteArray.size_append

theorem withoutMark_unmarked {content : ByteArray}
    (unmarked : ∀ rest, content ≠ byteOrderMark ++ rest) : withoutMark content = content := by
  refine if_neg fun front => unmarked (content.extract 3 content.size) ?_
  have marked : content.extract 0 3 = byteOrderMark := ByteArray.ext front
  have long : 3 ≤ content.size := by
    have three : (content.extract 0 3).size = 3 := congrArg ByteArray.size marked
    rw [ByteArray.size_extract] at three
    omega
  rw [← marked, ← ByteArray.extract_eq_extract_append_extract 3 (Nat.zero_le 3) long,
    ByteArray.extract_zero_size]

/-- The standard loader takes a file for its text. -/
theorem Loader.lawful_standard : Loader.standard.Lawful where
  loadFile_marked content := by
    simp only [standard, Document.readFile, withoutMark_marked]
  loadFile_unmarked content unmarked := by
    simp only [standard, Document.readFile, withoutMark_unmarked unmarked]
  loadBytes_text content text decoded := by
    simp only [standard, Document.readBytes, decoded]
  fileMessage_malformed _ := rfl

end ArchiveUpkeep.Ini
