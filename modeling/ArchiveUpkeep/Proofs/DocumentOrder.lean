import ArchiveUpkeep.Proofs.DocumentMeaning
import Mathlib.Data.List.Forall2

/-! The order of a document does not count as long as nothing stands twice in it. A lookup finds the
only pair of its key wherever that stands, and the last section of a name is the only one, so the
sections may be taken into account in any order. Only the choice among several faults goes by the
order. -/
namespace ArchiveUpkeep
open Ini SectionKind Written

namespace Ini

/-- The same pairs under the same name, in any order. -/
structure Section.Rearranged (block other : Section) : Prop where
  name_eq : block.name = other.name
  perm : block.pairs.Perm other.pairs

/-- The same sections in any order, each with its own pairs in any order. -/
def Document.Rearranged (document other : Document) : Prop :=
  ∃ reordered : Document,
    document.Perm reordered ∧ List.Forall₂ Section.Rearranged reordered other

/-- No key stands twice in the section. -/
abbrev Section.KeysApart (block : Section) : Prop := (block.pairs.map Pair.key).Nodup

/-- No section of the document has the name of another one. -/
abbrev Document.NamesApart (document : Document) : Prop := (document.map Section.name).Nodup

namespace Section.Rearranged
variable {block other : Section} (rearranged : block.Rearranged other)
include rearranged

theorem get?_eq (apart : block.KeysApart) (key : String) : block.get? key = other.get? key :=
  congrArg (Option.map Pair.value) (DistinctKeys.find?_eq_of_perm apart rearranged.perm.symm).symm

theorem forall_pair_iff {accept : Pair → Prop} :
    (∀ pair ∈ block.pairs, accept pair) ↔ ∀ pair ∈ other.pairs, accept pair :=
  forall_congr' fun _ => imp_congr_left rearranged.perm.mem_iff

end Section.Rearranged

namespace Document
variable {document other : Document}

theorem last?_eq_find? (apart : document.NamesApart) (name : String) :
    document.last? name = document.find? (·.name = some name) := by
  rw [last?, DistinctKeys.filter_eq_toList_find? apart]
  cases document.find? (·.name = some name) <;> rfl

theorem last?_eq_of_perm (apart : document.NamesApart) (perm : document.Perm other)
    (name : String) : document.last? name = other.last? name := by
  have alsoApart : other.NamesApart := (perm.map Section.name).nodup_iff.1 apart
  rw [last?_eq_find? apart, last?_eq_find? alsoApart,
    DistinctKeys.find?_eq_of_perm apart perm.symm]

end Document

end Ini

/-- A reading that finds the same in a section whatever the order of its pairs. -/
def Orderless {α : Type} (read : Section → Except ConfigError α) : Prop :=
  ∀ {block other : Section} {a : α}, block.Rearranged other → block.KeysApart →
    (read block = .ok a ↔ read other = .ok a)

theorem General.orderless_ofSection : Orderless General.ofSection := by
  intro block other own rearranged apart
  simp only [General.ofSection_eq_ok_iff, SectionKind.required, SectionKind.optional,
    rearranged.get?_eq apart, rearranged.forall_pair_iff]

theorem ApplyPolicy.orderless_ofSection : Orderless ApplyPolicy.ofSection := by
  intro block other own rearranged apart
  simp only [ApplyPolicy.ofSection_eq_ok_iff, SectionKind.optional, rearranged.get?_eq apart,
    rearranged.forall_pair_iff]

theorem MergePolicy.orderless_ofSection : Orderless MergePolicy.ofSection := by
  intro block other own rearranged apart
  simp only [MergePolicy.ofSection_eq_ok_iff, SectionKind.optional, rearranged.get?_eq apart,
    rearranged.forall_pair_iff]

theorem ReplicationPolicy.orderless_ofSection (name : String) :
    Orderless (ReplicationPolicy.ofSection name) := by
  intro block other own rearranged apart
  simp only [ReplicationPolicy.ofSection_eq_ok_iff, SectionKind.required, SectionKind.optional,
    rearranged.get?_eq apart, rearranged.forall_pair_iff]

namespace Config
variable {document other : Document} {draft next : Draft} {config : Config}

theorem Draft.orderless_add (draft : Draft) : Orderless draft.add := by
  intro block other next rearranged apart
  have kept {α : Type} {read : Section → Except ConfigError α} {into : α → Draft}
      (orderless : Orderless read) :
      (read block >>= fun own => pure (into own)) = .ok next ↔
        (read other >>= fun own => pure (into own)) = .ok next := by
    simp only [bind_eq_ok_iff, orderless rearranged apart]
  unfold Draft.add
  rw [← rearranged.name_eq]
  split
  case h_1 =>
    have perm := rearranged.perm
    cases pairs : block.pairs with
    | nil =>
      rw [pairs, List.nil_perm] at perm
      rw [perm]
    | cons pair rest =>
      cases otherPairs : other.pairs with
      | nil =>
        rw [otherPairs, List.perm_nil, pairs] at perm
        cases perm
      | cons => exact iff_of_false nofun nofun
  case h_2 =>
    split
    · rfl
    · exact kept General.orderless_ofSection
    · exact kept ApplyPolicy.orderless_ofSection
    · exact kept MergePolicy.orderless_ofSection
    · exact kept (ReplicationPolicy.orderless_ofSection _)

/-- Sections whose pairs are rearranged are all read to the same end. -/
theorem foldlM_add_eq_ok_iff_of_rearranged
    (rearranged : List.Forall₂ Section.Rearranged document other)
    (apart : ∀ block ∈ document, block.KeysApart) :
    document.foldlM Draft.add draft = .ok next ↔ other.foldlM Draft.add draft = .ok next := by
  induction rearranged generalizing draft with
  | nil => rfl
  | cons first _ ih =>
    obtain ⟨here, later⟩ := List.forall_mem_cons.1 apart
    rw [List.foldlM_cons, List.foldlM_cons, bind_eq_ok_iff, bind_eq_ok_iff]
    exact exists_congr fun _ => and_congr (draft.orderless_add first here) (ih later)

theorem Draft.Reflects.of_perm (reflects : Reflects document draft)
    (apart : document.NamesApart) (perm : document.Perm other) : Reflects other draft := by
  have gives {α : Type} {name : String} {read : Section → Except ConfigError α}
      {given : Option α} (own : document.Gives name read given) : other.Gives name read given := by
    rwa [Document.Gives, ← Document.last?_eq_of_perm apart perm]
  have givesOr {α : Type} {name : String} {read : Section → Except ConfigError α} {absent a : α}
      (own : document.GivesOr name read absent a) : other.GivesOr name read absent a := by
    obtain ⟨given, own, same⟩ := own
    exact ⟨given, gives own, same⟩
  exact ⟨gives reflects.general, givesOr reflects.apply, givesOr reflects.merge,
    fun name => gives (reflects.targets name)⟩

theorem ofDocument_of_perm (apart : document.NamesApart) (perm : document.Perm other)
    (loaded : ofDocument document = .ok config) : ofDocument other = .ok config := by
  obtain ⟨upright, reflects⟩ := ofDocument_eq_ok_iff.1 loaded
  refine ofDocument_eq_ok_iff.2 ⟨fun block within => ?_, reflects.of_perm apart perm⟩
  exact upright block (perm.mem_iff.2 within)

/-- Documents without a repeated name or key that differ in nothing but their order load to the same
configuration, or both of them fail. -/
theorem order_of_document_does_not_count (document other : Document)
    (namesApart : document.NamesApart) (keysApart : ∀ block ∈ document, block.KeysApart)
    (rearranged : document.Rearranged other) :
    (∀ config, ofDocument document = .ok config ↔ ofDocument other = .ok config) ∧
    ((∃ error, ofDocument document = .error error) ↔
      ∃ error, ofDocument other = .error error) := by
  obtain ⟨reordered, perm, alike⟩ := rearranged
  have reorderedApart : reordered.NamesApart := (perm.map Section.name).nodup_iff.1 namesApart
  have same (config : Config) :
      ofDocument document = .ok config ↔ ofDocument other = .ok config := by
    calc ofDocument document = .ok config
        ↔ ofDocument reordered = .ok config :=
          ⟨ofDocument_of_perm namesApart perm, ofDocument_of_perm reorderedApart perm.symm⟩
      _ ↔ ofDocument other = .ok config := by
          rw [ofDocument_eq_ok_iff_foldlM, ofDocument_eq_ok_iff_foldlM]
          exact foldlM_add_eq_ok_iff_of_rearranged alike fun block within =>
            keysApart block (perm.mem_iff.2 within)
  refine ⟨same, ?_⟩
  cases loaded : ofDocument document with
  | ok config => simp [(same config).1 loaded]
  | error error =>
    cases alsoLoaded : ofDocument other with
    | ok config => exact absurd (loaded.symm.trans ((same config).2 alsoLoaded)) nofun
    | error other => simp

/-- A general section and one more. -/
def forwardDocument (port lastName : String) : Document :=
  [⟨none, []⟩, ⟨some "general", [⟨"addr", "a"⟩, ⟨"port", port⟩]⟩,
    ⟨some lastName, [⟨"max_nr", "5"⟩, ⟨"interval", "1h"⟩]⟩]

/-- The same document from its end to its beginning. -/
def backwardDocument (port lastName : String) : Document :=
  [⟨some lastName, [⟨"interval", "1h"⟩, ⟨"max_nr", "5"⟩]⟩,
    ⟨some "general", [⟨"port", port⟩, ⟨"addr", "a"⟩]⟩, ⟨none, []⟩]

theorem rearranged_backwardDocument (port lastName : String) :
    (forwardDocument port lastName).Rearranged (backwardDocument port lastName) :=
  ⟨_, (List.reverse_perm _).symm,
    .cons ⟨rfl, .swap _ _ _⟩ (.cons ⟨rfl, .swap _ _ _⟩ (.cons ⟨rfl, .refl _⟩ .nil))⟩

/-- Read backwards, a document loads to the same configuration. One with two faults fails both ways,
each time for the fault that comes first. -/
theorem order_of_document_does_not_count_backwards :
    let sound := forwardDocument "1" "merge"
    let faulty := forwardDocument "bad" "mrg"
    let config : Config :=
      { general := { addr := "a", port := 1 }
        merge := { maxCount := 5, interval := .ofSeconds 3600 }
        targets := .empty }
    (sound.NamesApart ∧ (∀ block ∈ sound, block.KeysApart) ∧
        sound.Rearranged (backwardDocument "1" "merge")) ∧
      (faulty.NamesApart ∧ (∀ block ∈ faulty, block.KeysApart) ∧
        faulty.Rearranged (backwardDocument "bad" "mrg")) ∧
      ofDocument sound = .ok config ∧ ofDocument (backwardDocument "1" "merge") = .ok config ∧
      ofDocument faulty = .error (.invalidValue "general" "port" "bad" .port) ∧
      (∃ error, ofDocument (backwardDocument "bad" "mrg") = .error error) ∧
      ofDocument (backwardDocument "bad" "mrg") = .error (.unknownSection "mrg") := by
  intro sound faulty config
  have soundApart : sound.NamesApart ∧ ∀ block ∈ sound, block.KeysApart := by decide
  have faultyApart : faulty.NamesApart ∧ ∀ block ∈ faulty, block.KeysApart := by decide
  have loaded : ofDocument sound = .ok config := by decide
  have failed : ofDocument faulty = .error (.invalidValue "general" "port" "bad" .port) := by
    decide
  have rearranged := rearranged_backwardDocument
  have same := (order_of_document_does_not_count sound _ soundApart.1 soundApart.2
    (rearranged "1" "merge")).1 config
  have fails := (order_of_document_does_not_count faulty _ faultyApart.1 faultyApart.2
    (rearranged "bad" "mrg")).2
  exact ⟨⟨soundApart.1, soundApart.2, rearranged _ _⟩,
    ⟨faultyApart.1, faultyApart.2, rearranged _ _⟩, loaded, same.1 loaded, failed,
    fails.1 ⟨_, failed⟩, by decide⟩

end Config

end ArchiveUpkeep
