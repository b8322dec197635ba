import ArchiveUpkeep.Ini.Document

/-! A loader turns a text in memory, or what stands at a path, into a document. How it reads a text,
and what it has to say of one that is no document, is its own matter. What is relied on is that it
takes a file for the text that the file holds. -/
namespace ArchiveUpkeep

/-- What stands at the path of a configuration file. -/
inductive ConfigFile where
  | missing
  | directory
  | bytes (content : ByteArray)

namespace Ini

/-- The byte order mark in UTF-8. -/
def byteOrderMark : ByteArray := ⟨#[0xEF, 0xBB, 0xBF]⟩

structure Loader where
  /-- Why a text is no document. -/
  TextError : Type
  /-- Why a file gives no document. -/
  FileError : Type
  textMessage : TextError → String
  fileMessage : FileError → String
  /-- The error of a file for a text that is no document. -/
  malformed : TextError → FileError
  loadText : String → Except TextError Document
  /-- Loads what is left to read of an open file. -/
  loadBytes : ByteArray → Except FileError Document
  loadFile : ConfigFile → Except FileError Document

/-- The loader takes a file for its text. -/
structure Loader.Lawful (loader : Loader) : Prop where
  /-- A mark in front of a file is skipped, once. -/
  loadFile_marked (content : ByteArray) :
    loader.loadFile (.bytes (byteOrderMark ++ content)) = loader.loadBytes content
  /-- Nothing else is skipped. -/
  loadFile_unmarked (content : ByteArray) :
    (∀ rest, content ≠ byteOrderMark ++ rest) →
      loader.loadFile (.bytes content) = loader.loadBytes content
  /-- Bytes are decoded as UTF-8, and their text is read as it is in memory. -/
  loadBytes_text (content : ByteArray) (text : String) :
    String.fromUTF8? content = some text →
      loader.loadBytes content = (loader.loadText text).mapError loader.malformed
  /-- What is wrong with a text is said in the same words, wherever the text comes from. -/
  fileMessage_malformed (error : loader.TextError) :
    loader.fileMessage (loader.malformed error) = loader.textMessage error

end Ini

end ArchiveUpkeep
