import ArchiveUpkeep.Config.Load
import ArchiveUpkeep.Proofs.DocumentMeaning
import ArchiveUpkeep.Proofs.TextOrder

/-! A configuration file against the text that it holds. Every text comes back from its bytes in
UTF-8, with a byte order mark in front of them or without. Without one the text must not begin with
the character of the mark, or it would be taken for it. Whatever loader is given, if it takes a file
for its text, then the file gives what the text gives in memory, and only a text that is no document
is told otherwise: as a fault of the file. -/
namespace ArchiveUpkeep
open Ini Text

theorem Ini.byteOrderMark_eq : byteOrderMark = (String.utf8EncodeChar '\uFEFF').toByteArray := rfl

namespace Text

theorem toByteArray_utf8 (t : String) : (utf8 t).toByteArray = t.toList.utf8Encode := by
  rw [utf8_eq_flatMap, List.utf8Encode]

theorem fromUTF8?_utf8 (t : String) : String.fromUTF8? (utf8 t).toByteArray = some t := by
  rw [toByteArray_utf8, String.utf8Encode_toList, String.fromUTF8?, dif_pos t.isValidUTF8]
  rfl

/-- Only one character begins with the bytes of the mark. -/
theorem head?_of_marked {t : String} {rest : ByteArray}
    (marked : (utf8 t).toByteArray = byteOrderMark ++ rest) : t.toList.head? = some '\uFEFF' := by
  have first : t.toList.utf8Encode.utf8DecodeChar? 0 = some '\uFEFF' := by
    rw [← toByteArray_utf8, marked, byteOrderMark_eq,
      ByteArray.utf8DecodeChar?_utf8EncodeChar_append]
  cases shape : t.toList with
  | nil =>
    rw [shape] at first
    cases first
  | cons c cs =>
    rw [shape, List.utf8DecodeChar?_utf8Encode_cons] at first
    rw [List.head?_cons, first]

end Text

namespace Ini.Loader.Lawful
variable {loader : Loader}

theorem loadFile_marked_text (lawful : loader.Lawful) (t : String) :
    loader.loadFile (.bytes (0xEF :: 0xBB :: 0xBF :: utf8 t).toByteArray) =
      (loader.loadText t).mapError loader.malformed := by
  have split : (0xEF :: 0xBB :: 0xBF :: utf8 t).toByteArray =
      byteOrderMark ++ (utf8 t).toByteArray := by
    rw [byteOrderMark_eq, ← List.toByteArray_append]
    rfl
  rw [split, lawful.loadFile_marked, lawful.loadBytes_text _ t (fromUTF8?_utf8 t)]

theorem loadFile_unmarked_text (lawful : loader.Lawful) {t : String}
    (unmarked : t.toList.head? ≠ some '\uFEFF') :
    loader.loadFile (.bytes (utf8 t).toByteArray) =
      (loader.loadText t).mapError loader.malformed := by
  rw [lawful.loadFile_unmarked _ fun _ marked => unmarked (head?_of_marked marked),
    lawful.loadBytes_text _ t (fromUTF8?_utf8 t)]

end Ini.Loader.Lawful

/-- The error is about what a document says, and not about getting one. -/
def ConfigError.OfContent : ConfigError → Prop
  | unreadable _ | malformed _ => False
  | invalidValue .. | missingKey .. | unknownKey .. | unknownSection _ => True

namespace Config

/-- What a file gives is what its text gives in memory, but that a text that is no document is a
fault of the file, for the same cause. -/
inductive SameLoad : (ofFile ofText : Except ConfigError Config) → Prop where
  | loaded (config : Config) : SameLoad (.ok config) (.ok config)
  | malformed (cause : String) :
      SameLoad (.error (.unreadable cause)) (.error (.malformed cause))
  | refused {error : ConfigError} (content : error.OfContent) :
      SameLoad (.error error) (.error error)

theorem ofContent_of_refused {block : Section} {error : ConfigError}
    (refused : Refused block error) : error.OfContent := by
  cases refused with
  | headless | unknownSection | unknownKey => trivial
  | @faulty kind _ headed known first =>
    obtain ⟨rule, -, fault⟩ := List.exists_of_findSome?_eq_some first
    unfold SectionKind.ruleFault? at fault
    split at fault
    · obtain ⟨rejection, -, rfl⟩ := Option.map_eq_some_iff.1 fault
      trivial
    · obtain ⟨-, ⟨⟩⟩ := Option.ite_none_right_eq_some.1 fault
      trivial

theorem ofContent_of_error {document : Document} {error : ConfigError}
    (failed : ofDocument document = .error error) : error.OfContent := by
  rcases ofDocument_eq_error_iff.1 failed with ⟨_, _, _, _, refused, _⟩ | ⟨_, _, rfl⟩
  · exact ofContent_of_refused refused
  · trivial

theorem sameLoad_of_loadFile {loader : Loader} (lawful : loader.Lawful) {file : ConfigFile}
    {t : String} (same : loader.loadFile file = (loader.loadText t).mapError loader.malformed) :
    SameLoad (ofFile file loader) (ofText t loader) := by
  simp only [ofFile, ofText, same]
  cases loader.loadText t with
  | error cause =>
    simp only [Except.mapError, lawful.fileMessage_malformed]
    exact .malformed _
  | ok document =>
    change SameLoad (ofDocument document) (ofDocument document)
    cases described : ofDocument document with
    | ok config => exact .loaded config
    | error error => exact .refused (ofContent_of_error described)

/-- A file gives what its text gives in memory, whether a byte order mark is in front of the text or
not, by any loader that takes a file for its text. If the text is no document, the two messages
differ in what they say was to be done. -/
theorem file_is_read_as_its_text {loader : Loader} (lawful : loader.Lawful) (t : String) :
    SameLoad (ofFile (.bytes (0xEF :: 0xBB :: 0xBF :: utf8 t).toByteArray) loader)
        (ofText t loader) ∧
      (t.toList.head? ≠ some '\uFEFF' →
        SameLoad (ofFile (.bytes (utf8 t).toByteArray) loader) (ofText t loader)) ∧
      ∀ cause : String,
        (ConfigError.unreadable cause).message = "Failed to read config file: " ++ cause ∧
          (ConfigError.malformed cause).message = "Failed to parse config document: " ++ cause :=
  ⟨sameLoad_of_loadFile lawful (lawful.loadFile_marked_text t),
    fun unmarked => sameLoad_of_loadFile lawful (lawful.loadFile_unmarked_text unmarked),
    fun _ => ⟨rfl, rfl⟩⟩

/-- The first character differs from the mark in its last byte alone. -/
theorem file_is_read_as_its_text_near_the_mark :
    let cause := ReadError.message ⟨0, 1, .endOfText [some '=', some ':']⟩
    Loader.standard.Lawful ∧ "\uFEFE".toList.head? ≠ some '\uFEFF' ∧
      ofText "\uFEFE" = .error (.malformed cause) ∧
      ofFile (.bytes [0xEF, 0xBB, 0xBE].toByteArray) = .error (.unreadable cause) := by
  intro cause
  have unmarked : "\uFEFE".toList.head? ≠ some '\uFEFF' := by decide
  have failed : ofText "\uFEFE" = .error (.malformed cause) := by decide +kernel
  have same : SameLoad (ofFile (.bytes [0xEF, 0xBB, 0xBE].toByteArray)) (ofText "\uFEFE") :=
    (file_is_read_as_its_text Loader.lawful_standard "\uFEFE").2.1 unmarked
  refine ⟨Loader.lawful_standard, unmarked, failed, ?_⟩
  rw [failed] at same
  generalize ofFile (.bytes [0xEF, 0xBB, 0xBE].toByteArray) = loaded at same ⊢
  cases same with
  | malformed => rfl
  | refused content => cases content

end Config

end ArchiveUpkeep
