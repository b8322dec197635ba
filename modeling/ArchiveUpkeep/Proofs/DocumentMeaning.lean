import ArchiveUpkeep.Proofs.DistinctKeys
import ArchiveUpkeep.Proofs.SectionRefusal

/-! What a document means. It is refused with the error of its first refused section, and one
without a refused section needs a general one. What it then says of a name is what the last section
of that name says, read by itself: nothing is taken over from another section, and nothing from an
earlier one of the same name. -/
namespace ArchiveUpkeep
open Ini SectionKind Written

namespace Ini.Document
variable {document : Document} {block : Section} {name : String}

/-- The last section with a name. -/
def last? (document : Document) (name : String) : Option Section :=
  (document.filter (·.name = some name)).getLast?

theorem last?_concat_of_named (named : block.name = some name) :
    last? (document ++ [block]) name = some block := by
  simp [last?, List.filter_append, named]

theorem last?_concat_of_other (other : block.name ≠ some name) :
    last? (document ++ [block]) name = last? document name := by
  simp [last?, List.filter_append, other]

theorem last?_eq_none_iff :
    document.last? name = none ↔ ∀ block ∈ document, block.name ≠ some name := by
  simp [last?]

/-- What the last section with a name says when it is read, and nothing where there is none. -/
def Gives {α : Type} (document : Document) (name : String) (read : Section → Except ConfigError α)
    (given : Option α) : Prop :=
  (document.last? name).map read = given.map .ok

/-- What the last section with a name says when it is read, or `absent` where there is none. -/
def GivesOr {α : Type} (document : Document) (name : String)
    (read : Section → Except ConfigError α) (absent a : α) : Prop :=
  ∃ given, document.Gives name read given ∧ a = given.getD absent

section Gives
variable {α : Type} {read : Section → Except ConfigError α} {given : Option α} {absent a : α}

theorem gives_none_iff : document.Gives name read none ↔ document.last? name = none := by
  rw [Gives, Option.map_none, Option.map_eq_none_iff]

theorem gives_some_iff :
    document.Gives name read (some a) ↔
      ∃ block, document.last? name = some block ∧ read block = .ok a := by
  rw [Gives, Option.map_some, Option.map_eq_some_iff]

theorem Gives.isSome_iff (gives : document.Gives name read given) :
    given.isSome ↔ ∃ block ∈ document, block.name = some name := by
  have same := congrArg Option.isSome gives
  rw [Option.isSome_map, Option.isSome_map] at same
  rw [← same, Option.isSome_iff_ne_none, ne_eq, last?_eq_none_iff]
  simp

theorem Gives.of_named (named : block.name = some name) (own : read block = .ok a) :
    Gives (document ++ [block]) name read (some a) :=
  gives_some_iff.2 ⟨block, last?_concat_of_named named, own⟩

theorem Gives.concat (gives : document.Gives name read given) (other : block.name ≠ some name) :
    Gives (document ++ [block]) name read given := by
  rwa [Gives, last?_concat_of_other other]

theorem GivesOr.of_named (named : block.name = some name) (own : read block = .ok a) :
    GivesOr (document ++ [block]) name read absent a :=
  ⟨some a, .of_named named own, rfl⟩

theorem GivesOr.concat (gives : document.GivesOr name read absent a)
    (other : block.name ≠ some name) : GivesOr (document ++ [block]) name read absent a := by
  obtain ⟨given, gives, same⟩ := gives
  exact ⟨given, gives.concat other, same⟩

end Gives

end Ini.Document

namespace Targets
variable {targets other : Targets} {name : String} {policy : ReplicationPolicy}

theorem find?_insertEntry (entries : List (String × ReplicationPolicy)) (sought : String) :
    ((insertEntry name policy entries).find? (·.1 = sought)).map Prod.snd =
      if name = sought then some policy else (entries.find? (·.1 = sought)).map Prod.snd := by
  induction entries with
  | nil => by_cases same : name = sought <;> simp [insertEntry, same]
  | cons entry rest ih =>
    simp only [insertEntry]
    split
    next => by_cases same : name = sought <;> simp [same]
    next =>
      split
      next taken =>
        by_cases same : name = sought
        · simp [same]
        · simp [same, taken ▸ same]
      next free =>
        rw [List.find?_cons, List.find?_cons]
        by_cases here : entry.1 = sought
        · simp [here, here ▸ free]
        · simpa [here] using ih

theorem get?_insert (sought : String) :
    (targets.insert name policy).get? sought =
      if name = sought then some policy else targets.get? sought :=
  find?_insertEntry targets.entries sought

theorem nodup_names (targets : Targets) : (targets.entries.map Prod.fst).Nodup :=
  List.pairwise_map.2 (targets.sorted.imp fun before => Std.ne_of_lt before)

theorem mem_entries_iff : (name, policy) ∈ targets.entries ↔ targets.get? name = some policy := by
  simp only [get?, Option.map_eq_some_iff, DistinctKeys.find?_eq_some_iff targets.nodup_names]
  constructor
  · intro listed
    exact ⟨(name, policy), ⟨listed, rfl⟩, rfl⟩
  · rintro ⟨⟨_, _⟩, ⟨listed, rfl⟩, rfl⟩
    exact listed

/-- Targets are told apart by what they hold for some name. -/
theorem ext_get? (same : ∀ name, targets.get? name = other.get? name) : targets = other := by
  have perm : targets.entries.Perm other.entries := by
    have distinct (targets : Targets) : targets.entries.Nodup := targets.nodup_names.of_map
    refine (List.perm_ext_iff_of_nodup (distinct targets) (distinct other)).2 ?_
    rintro ⟨name, policy⟩
    rw [mem_entries_iff, mem_entries_iff, same]
  have alike : targets.entries = other.entries := by
    refine perm.eq_of_pairwise (fun entry later _ _ before after => ?_) targets.sorted other.sorted
    exact absurd (String.lt_trans before after) (String.lt_irrefl _)
  cases targets
  cases other
  cases alike
  rfl

end Targets

namespace Config
variable {document done rest : Document} {draft next : Draft} {config : Config} {block : Section}
  {error : ConfigError}

/-- The error is that of the first section that is refused. -/
def FirstRefused (document : Document) (error : ConfigError) : Prop :=
  ∃ before block after, document = before ++ block :: after ∧ Refused block error ∧
    ∀ earlier ∈ before, ∀ other, ¬ Refused earlier other

/-- What is drafted before any section is read. -/
def Draft.initial : Draft := ⟨none, {}, {}, .empty⟩

theorem Draft.refusal?_add (draft : Draft) (block : Section) :
    refusal? (draft.add block) = refusal? (Draft.initial.add block) := by
  ext error
  rw [refusal?_eq_some_iff, refusal?_eq_some_iff, Draft.add_eq_error_iff, Draft.add_eq_error_iff]

theorem foldlM_add_eq_error_iff :
    document.foldlM Draft.add draft = .error error ↔ FirstRefused document error := by
  rw [← refusal?_eq_some_iff, refusal?_foldlM Draft.refusal?_add, List.findSome?_eq_some_iff]
  simp only [FirstRefused, Option.eq_none_iff_forall_ne_some, ne_eq, refusal?_eq_some_iff,
    Draft.add_eq_error_iff]

/-- What is drafted for each name is what the last section of that name says. The apply and the
merge policy have defaults. -/
structure Draft.Reflects (document : Document) (draft : Draft) : Prop where
  general : document.Gives SectionKind.general.name General.ofSection draft.general
  apply : document.GivesOr SectionKind.apply.name ApplyPolicy.ofSection {} draft.apply
  merge : document.GivesOr SectionKind.merge.name MergePolicy.ofSection {} draft.merge
  targets : ∀ name, document.Gives (target name).name (ReplicationPolicy.ofSection name)
    (draft.targets.get? name)

namespace Draft.Reflects

theorem initial : Reflects [] .initial where
  general := rfl
  apply := ⟨none, rfl, rfl⟩
  merge := ⟨none, rfl, rfl⟩
  targets _ := rfl

/-- A section that is taken into account changes what is drafted for its own name alone. -/
theorem add (reflects : Reflects done draft) (added : draft.add block = .ok next) :
    Reflects (done ++ [block]) next := by
  obtain ⟨general, apply, merge, targets⟩ := reflects
  have other {kind sought : SectionKind} (named : block.name = some kind.name)
      (apart : kind ≠ sought) : block.name ≠ some sought.name :=
    fun same => apart (kind_unique named same)
  cases Draft.added_of_add added with
  | blank unnamed =>
    have other (name : String) : block.name ≠ some name := by simp [unnamed]
    exact ⟨general.concat (other _), apply.concat (other _), merge.concat (other _),
      fun name => (targets name).concat (other _)⟩
  | general named own =>
    exact ⟨.of_named named own, apply.concat (other named (by simp)),
      merge.concat (other named (by simp)),
      fun name => (targets name).concat (other named (by simp))⟩
  | apply named own =>
    exact ⟨general.concat (other named (by simp)), .of_named named own,
      merge.concat (other named (by simp)),
      fun name => (targets name).concat (other named (by simp))⟩
  | merge named own =>
    exact ⟨general.concat (other named (by simp)), apply.concat (other named (by simp)),
      .of_named named own, fun name => (targets name).concat (other named (by simp))⟩
  | target named own =>
    refine ⟨general.concat (other named (by simp)), apply.concat (other named (by simp)),
      merge.concat (other named (by simp)), fun sought => ?_⟩
    rw [Targets.get?_insert]
    split
    next same => exact same ▸ .of_named named own
    next apart => exact (targets sought).concat (other named fun same => apart (target.inj same))

/-- A draft of what is done, carried on through the rest, reflects the whole. -/
theorem foldlM (reflects : Reflects done draft) (read : rest.foldlM Draft.add draft = .ok next) :
    Reflects (done ++ rest) next := by
  induction rest generalizing done draft with
  | nil =>
    cases read
    rwa [List.append_nil]
  | cons block rest ih =>
    rw [List.foldlM_cons] at read
    obtain ⟨middle, added, read⟩ := bind_eq_ok_iff.1 read
    rw [List.append_cons]
    exact ih (reflects.add added) read

/-- There is no more than one draft that reflects a document. -/
theorem unique (reflects : Reflects document draft) (also : Reflects document next) :
    draft = next := by
  have same {α : Type} {given other : Option α} {read : Section → Except ConfigError α}
      {name : String} (gives : document.Gives name read given)
      (gives' : document.Gives name read other) : given = other :=
    Option.map_injective (fun _ _ => Except.ok.inj) (gives.symm.trans gives')
  obtain ⟨general, ⟨_, apply, applied⟩, ⟨_, merge, merged⟩, targets⟩ := reflects
  obtain ⟨general', ⟨_, apply', applied'⟩, ⟨_, merge', merged'⟩, targets'⟩ := also
  cases same apply apply'
  cases same merge merge'
  cases draft
  cases next
  simp only [Draft.mk.injEq]
  exact ⟨same general general', applied.trans applied'.symm, merged.trans merged'.symm,
    Targets.ext_get? fun name => same (targets name) (targets' name)⟩

end Draft.Reflects

/-- Sections are all read exactly if none of them is refused. -/
theorem exists_foldlM_add_iff :
    (∃ next, document.foldlM Draft.add draft = .ok next) ↔
      ∀ block ∈ document, ∀ error, ¬ Refused block error := by
  rw [← refusal?_eq_none_iff, refusal?_foldlM Draft.refusal?_add, List.findSome?_eq_none_iff]
  simp only [Option.eq_none_iff_forall_ne_some, ne_eq, refusal?_eq_some_iff, Draft.add_eq_error_iff]

theorem not_firstRefused (upright : ∀ block ∈ document, ∀ error, ¬ Refused block error) :
    ¬ FirstRefused document error := by
  rintro ⟨before, block, after, rfl, refused, -⟩
  exact upright block (by simp) error refused

theorem ofDocument_eq_ok_iff_foldlM :
    ofDocument document = .ok config ↔ document.foldlM Draft.add .initial =
      .ok ⟨some config.general, config.apply, config.merge, config.targets⟩ := by
  change document.foldlM Draft.add .initial >>= _ = _ ↔ _
  cases document.foldlM Draft.add .initial with
  | error error => exact ⟨nofun, nofun⟩
  | ok draft =>
    obtain ⟨general, apply, merge, targets⟩ := draft
    cases general with
    | none => exact ⟨nofun, nofun⟩
    | some general =>
      cases config
      simp [bind, Except.bind, pure, Except.pure]

/-- A document loads exactly if none of its sections is refused and one is general, and the
configuration is what its last sections say. -/
theorem ofDocument_eq_ok_iff :
    ofDocument document = .ok config ↔
      (∀ block ∈ document, ∀ error, ¬ Refused block error) ∧
        Draft.Reflects document
          ⟨some config.general, config.apply, config.merge, config.targets⟩ := by
  rw [ofDocument_eq_ok_iff_foldlM]
  constructor
  · intro read
    exact ⟨exists_foldlM_add_iff.1 ⟨_, read⟩, Draft.Reflects.initial.foldlM read⟩
  · rintro ⟨upright, reflects⟩
    obtain ⟨draft, read⟩ := exists_foldlM_add_iff.2 upright
    rw [read, (Draft.Reflects.initial.foldlM read).unique reflects]

theorem ofDocument_of_foldlM_error (read : document.foldlM Draft.add .initial = .error error) :
    ofDocument document = .error error := by
  change document.foldlM Draft.add .initial >>= _ = _
  rw [read]
  rfl

theorem ofDocument_of_not_general {draft : Draft}
    (read : document.foldlM Draft.add .initial = .ok draft) (absent : draft.general = none) :
    ofDocument document = .error (.missingKey SectionKind.general.name "addr") := by
  change document.foldlM Draft.add .initial >>= _ = _
  obtain ⟨general, apply, merge, targets⟩ := draft
  cases absent
  rw [read]
  rfl

/-- A document fails to load with the error of its first refused section. Where none is refused, it
fails to load only for want of a general one. -/
theorem ofDocument_eq_error_iff :
    ofDocument document = .error error ↔
      FirstRefused document error ∨
        (∀ block ∈ document, ∀ other, ¬ Refused block other) ∧
          document.last? SectionKind.general.name = none ∧
          error = .missingKey SectionKind.general.name "addr" := by
  cases read : document.foldlM Draft.add .initial with
  | error first =>
    have refused := foldlM_add_eq_error_iff.1 read
    have same : FirstRefused document error ↔ first = error := by
      rw [← foldlM_add_eq_error_iff, read, Except.error.injEq]
    rw [ofDocument_of_foldlM_error read, same, Except.error.injEq]
    refine ⟨.inl, ?_⟩
    rintro (same | ⟨upright, -⟩)
    · exact same
    · exact absurd refused (not_firstRefused upright)
  | ok draft =>
    have upright := exists_foldlM_add_iff.1 ⟨draft, read⟩
    have general := (Draft.Reflects.initial.foldlM read).general
    rw [List.nil_append] at general
    rw [or_iff_right (not_firstRefused upright), and_iff_right upright]
    -- a draft without a general part reflects a document without a general section
    obtain ⟨_ | own, apply, merge, targets⟩ := draft
    · rw [Document.gives_none_iff] at general
      rw [ofDocument_of_not_general read rfl, and_iff_right general, Except.error.injEq, eq_comm]
    · rw [Document.gives_some_iff] at general
      obtain ⟨block, last, -⟩ := general
      have loaded : ofDocument document = .ok ⟨own, apply, merge, targets⟩ :=
        ofDocument_eq_ok_iff_foldlM.2 read
      rw [loaded, last]
      exact iff_of_false nofun fun wrong => Option.some_ne_none _ wrong.1

/-- Loading fails exactly if a section is refused or none is general, and the first refused section
decides the error. A document that loads is what the last section of each name says by itself, and
its targets are the ones that sections are named after. -/
theorem document_means_what_its_sections_say (document : Document) :
    ((∃ error, ofDocument document = .error error) ↔
      (∃ block ∈ document, ∃ error, Refused block error) ∨
        ∀ block ∈ document, block.name ≠ some SectionKind.general.name) ∧
    (∀ error, ofDocument document = .error error ↔
      FirstRefused document error ∨
        (∀ block ∈ document, ∀ other, ¬ Refused block other) ∧
          (∀ block ∈ document, block.name ≠ some SectionKind.general.name) ∧
          error = .missingKey SectionKind.general.name "addr") ∧
    (∀ config, ofDocument document = .ok config ↔
      (∀ block ∈ document, ∀ error, ¬ Refused block error) ∧
        Draft.Reflects document
          ⟨some config.general, config.apply, config.merge, config.targets⟩) ∧
    ∀ config, ofDocument document = .ok config →
      ∀ name, (config.targets.get? name).isSome ↔
        ∃ block ∈ document, block.name = some (target name).name := by
  refine ⟨?_, fun error => ?_, fun config => ofDocument_eq_ok_iff, fun config loaded name => ?_⟩
  · constructor
    · rintro ⟨error, failed⟩
      rcases ofDocument_eq_error_iff.1 failed with
        ⟨before, block, after, rfl, refused, -⟩ | ⟨-, absent, -⟩
      · exact .inl ⟨block, by simp, error, refused⟩
      · exact .inr (Document.last?_eq_none_iff.1 absent)
    · intro wrong
      cases loaded : ofDocument document with
      | error error => exact ⟨error, rfl⟩
      | ok config =>
        obtain ⟨upright, reflects⟩ := ofDocument_eq_ok_iff.1 loaded
        obtain ⟨general, within, named⟩ := reflects.general.isSome_iff.1 rfl
        rcases wrong with ⟨block, within, error, refused⟩ | absent
        · exact absurd refused (upright block within error)
        · exact absurd named (absent general within)
  · rw [ofDocument_eq_error_iff, Document.last?_eq_none_iff]
  · exact (ofDocument_eq_ok_iff.1 loaded).2.targets name |>.isSome_iff

/-- Two general sections, and two of one target with a section of another name between them. -/
def repeatedDocument : Document :=
  [⟨none, []⟩,
    ⟨some "general", [⟨"addr", "a"⟩, ⟨"port", "1"⟩, ⟨"max_concurrent_tasks", "7"⟩]⟩,
    ⟨some "repl_servers.r", [⟨"addr", "b"⟩, ⟨"port", "2"⟩, ⟨"bulk_size", "4K"⟩]⟩,
    ⟨some "merge", [⟨"max_nr", "5"⟩]⟩,
    ⟨some "repl_servers.r", [⟨"port", "3"⟩, ⟨"addr", "c"⟩]⟩,
    ⟨some "general", [⟨"addr", "d"⟩, ⟨"port", "4"⟩]⟩]

def repeatedConfig : Config where
  general := { addr := "d", port := 4 }
  merge := { maxCount := 5 }
  targets := Targets.insert .empty "r" { addr := "c", port := 3 }

theorem repeated_document_means_what_its_sections_say :
    ofDocument repeatedDocument = .ok repeatedConfig ∧
      (∀ block ∈ repeatedDocument, ∀ error, ¬ Refused block error) ∧
      Draft.Reflects repeatedDocument
        ⟨some repeatedConfig.general, repeatedConfig.apply, repeatedConfig.merge,
          repeatedConfig.targets⟩ ∧
      ((repeatedConfig.targets.get? "r").isSome ↔
        ∃ block ∈ repeatedDocument, block.name = some (target "r").name) := by
  have loaded : ofDocument repeatedDocument = .ok repeatedConfig := by decide
  obtain ⟨-, -, means, named⟩ := document_means_what_its_sections_say repeatedDocument
  obtain ⟨upright, reflects⟩ := (means repeatedConfig).1 loaded
  exact ⟨loaded, upright, reflects, named repeatedConfig loaded "r"⟩

end Config

end ArchiveUpkeep
