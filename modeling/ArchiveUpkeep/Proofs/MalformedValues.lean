import ArchiveUpkeep.Proofs.SectionReading

/-! What a malformed value does to a document. Sections are read key by key and each key is looked
up, so the value that a lookup finds has to be one of its form, while a pair behind another one of
the same key is not seen at all. -/
namespace ArchiveUpkeep
open Ini Written

namespace SectionKind

/-- The keys of a section with the forms of their values. -/
def forms : SectionKind → List (String × Form)
  | general =>
    [("addr", .text), ("port", .count 0 UInt16.size), ("walbc_path", .text),
      ("max_concurrent_tasks", .count 1 UInt64.size)]
  | apply =>
    [("keep_period", .period), ("threshold_nr", .count 0 UInt64.size), ("threshold_size", .size)]
  | merge =>
    [("interval", .period), ("max_nr", .count 2 UInt64.size), ("max_size", .size),
      ("threshold_nr", .count 0 UInt64.size)]
  | target _ =>
    [("addr", .text), ("port", .count 0 UInt16.size), ("interval", .period),
      ("compress", .compression), ("max_merge_size", .size), ("bulk_size", .size)]

/-- Every key that a section knows has a form, and no other key has one. -/
theorem map_fst_forms (kind : SectionKind) : kind.forms.map Prod.fst = kind.keys := by
  cases kind <;> rfl

/-- The text is a value of the form that the key has in this section. -/
def Admits (kind : SectionKind) (key text : String) : Prop :=
  ∃ form, (key, form) ∈ kind.forms ∧ form.Admits text

/-- Whatever a lookup in the section finds is a value of its key's form. -/
def AdmitsAll (kind : SectionKind) (block : Section) : Prop :=
  ∀ entry ∈ kind.forms, ∀ text, block.get? entry.1 = some text → entry.2.Admits text

section Reading
variable {α : Type} {kind : SectionKind} {block : Section} {key : String} {absent a : α}
  {form : Form} {read : String → Except Value.Rejection α}

theorem admits_of_required (reads : Reads form read)
    (found : kind.required block key read = .ok a) :
    ∀ text, block.get? key = some text → form.Admits text := by
  intro text here
  obtain ⟨_, same, accepted⟩ := required_eq_ok_iff.1 found
  cases here.symm.trans same
  exact (reads text).1 ⟨a, accepted⟩

theorem admits_of_optional (reads : Reads form read)
    (found : kind.optional block key absent read = .ok a) :
    ∀ text, block.get? key = some text → form.Admits text := by
  intro text here
  rcases optional_eq_ok_iff.1 found with ⟨missing, -⟩ | ⟨_, same, accepted⟩
  · cases here.symm.trans missing
  · cases here.symm.trans same
    exact (reads text).1 ⟨a, accepted⟩

end Reading

/-- No lookup and no check of the keys tells the two sections apart. -/
structure Alike (kind : SectionKind) (block other : Section) : Prop where
  get? : ∀ key, block.get? key = other.get? key
  checkKeys : kind.checkKeys block = kind.checkKeys other

section Alike
variable {α : Type} {kind : SectionKind} {block other : Section} {key : String} {absent : α}
  {read : String → Except Value.Rejection α}

theorem Alike.required (alike : kind.Alike block other) :
    kind.required block key read = kind.required other key read := by
  simp only [SectionKind.required, alike.get?]

theorem Alike.optional (alike : kind.Alike block other) :
    kind.optional block key absent read = kind.optional other key absent read := by
  simp only [SectionKind.optional, alike.get?]

end Alike

end SectionKind

namespace Ini.Section
variable {name : Option String} {pair : Pair} {earlier later : List Pair}

theorem get?_of_first (first : pair.key ∉ earlier.map Pair.key) :
    (mk name (earlier ++ pair :: later)).get? pair.key = some pair.value := by
  have absent : earlier.find? (·.key = pair.key) = none := by
    refine List.find?_eq_none.2 fun other before same => first ?_
    exact List.mem_map.2 ⟨other, before, of_decide_eq_true same⟩
  simp [Section.get?, List.find?_append, absent]

/-- A pair behind one of the same key is not found under any key. -/
theorem get?_of_repeated (repeated : pair.key ∈ earlier.map Pair.key) (key : String) :
    (mk name (earlier ++ pair :: later)).get? key = (mk name (earlier ++ later)).get? key := by
  by_cases same : pair.key = key
  · subst same
    obtain ⟨twin, before, same⟩ := List.mem_map.1 repeated
    have present : (earlier.find? (·.key = pair.key)).isSome :=
      List.find?_isSome.2 ⟨twin, before, decide_eq_true same⟩
    obtain ⟨first, found⟩ := Option.isSome_iff_exists.1 present
    simp only [Section.get?, List.find?_append, found, Option.some_or]
  · simp [Section.get?, List.find?_append, same]

theorem alike_of_repeated {kind : SectionKind} (known : pair.key ∈ kind.keys)
    (repeated : pair.key ∈ earlier.map Pair.key) :
    kind.Alike (mk name (earlier ++ pair :: later)) (mk name (earlier ++ later)) where
  get? := get?_of_repeated repeated
  checkKeys := by simp [SectionKind.checkKeys, List.find?_append, known]

end Ini.Section

open SectionKind

variable {block : Section}

theorem General.admitsAll_of_ofSection {general : General}
    (read : General.ofSection block = .ok general) : SectionKind.general.AdmitsAll block := by
  obtain ⟨-, addr, port, path, most⟩ := General.ofSection_eq_ok_iff.1 read
  simp only [AdmitsAll, forms, List.forall_mem_cons]
  exact ⟨admits_of_required reads_text addr, admits_of_required reads_port port,
    admits_of_optional reads_text path, admits_of_optional reads_positive most, nofun⟩

theorem ApplyPolicy.admitsAll_of_ofSection {policy : ApplyPolicy}
    (read : ApplyPolicy.ofSection block = .ok policy) : SectionKind.apply.AdmitsAll block := by
  obtain ⟨-, keep, count, size⟩ := ApplyPolicy.ofSection_eq_ok_iff.1 read
  simp only [AdmitsAll, forms, List.forall_mem_cons]
  exact ⟨admits_of_optional reads_period keep,
    admits_of_optional (reads_map some reads_natural) count,
    admits_of_optional (reads_map some reads_size) size, nofun⟩

theorem MergePolicy.admitsAll_of_ofSection {policy : MergePolicy}
    (read : MergePolicy.ofSection block = .ok policy) : SectionKind.merge.AdmitsAll block := by
  obtain ⟨-, most, interval, size, count⟩ := MergePolicy.ofSection_eq_ok_iff.1 read
  simp only [AdmitsAll, forms, List.forall_mem_cons]
  exact ⟨admits_of_optional reads_period interval, admits_of_optional reads_mergeCount most,
    admits_of_optional reads_size size, admits_of_optional reads_natural count, nofun⟩

theorem ReplicationPolicy.admitsAll_of_ofSection {name : String} {policy : ReplicationPolicy}
    (read : ReplicationPolicy.ofSection name block = .ok policy) :
    (SectionKind.target name).AdmitsAll block := by
  obtain ⟨-, compress, addr, port, interval, merged, bulk⟩ :=
    ReplicationPolicy.ofSection_eq_ok_iff.1 read
  simp only [AdmitsAll, forms, List.forall_mem_cons]
  exact ⟨admits_of_required reads_text addr, admits_of_required reads_port port,
    admits_of_optional reads_period interval, admits_of_optional reads_compression compress,
    admits_of_optional reads_size merged, admits_of_optional reads_size bulk, nofun⟩

namespace Config
variable {draft next : Draft} {config : Config} {kind : SectionKind} {other : Section}
  {before after : Document}

theorem Draft.admitsAll_of_add (named : block.name = some kind.name)
    (added : draft.add block = .ok next) : kind.AdmitsAll block := by
  cases Draft.added_of_add added with
  | blank unnamed => exact absurd (named.symm.trans unnamed) nofun
  | general alsoNamed read =>
    exact kind_unique named alsoNamed ▸ General.admitsAll_of_ofSection read
  | apply alsoNamed read =>
    exact kind_unique named alsoNamed ▸ ApplyPolicy.admitsAll_of_ofSection read
  | merge alsoNamed read =>
    exact kind_unique named alsoNamed ▸ MergePolicy.admitsAll_of_ofSection read
  | target alsoNamed read =>
    exact kind_unique named alsoNamed ▸ ReplicationPolicy.admitsAll_of_ofSection read

theorem Draft.add_congr (named : block.name = some kind.name) (same : other.name = block.name)
    (alike : kind.Alike block other) : draft.add block = draft.add other := by
  simp only [Draft.add, same, named]
  cases known : ofName? kind.name with
  | none => rfl
  | some found =>
    cases eq_of_ofName?_name known
    cases kind with
    | general =>
      simp only [General.ofSection, alike.checkKeys, alike.required, alike.optional]
    | apply => simp only [ApplyPolicy.ofSection, alike.checkKeys, alike.optional]
    | merge => simp only [MergePolicy.ofSection, alike.checkKeys, alike.optional]
    | target name =>
      simp only [ReplicationPolicy.ofSection, alike.checkKeys, alike.required, alike.optional]

/-- Every section of a document that loads has been taken into account. -/
theorem exists_add_of_ofDocument (loaded : ofDocument (before ++ block :: after) = .ok config) :
    ∃ draft next, Draft.add draft block = .ok next := by
  obtain ⟨_, read, -⟩ := bind_eq_ok_iff.1 loaded
  rw [List.foldlM_append] at read
  obtain ⟨draft, -, read⟩ := bind_eq_ok_iff.1 read
  rw [List.foldlM_cons] at read
  obtain ⟨next, added, -⟩ := bind_eq_ok_iff.1 read
  exact ⟨draft, next, added⟩

theorem ofDocument_congr (same : ∀ draft, Draft.add draft block = Draft.add draft other) :
    ofDocument (before ++ block :: after) = ofDocument (before ++ other :: after) := by
  simp only [ofDocument, List.foldlM_append, List.foldlM_cons, same]

theorem not_admits_port : ¬ SectionKind.general.Admits "port" "bad" := by
  rintro ⟨form, listed, admitted⟩
  have port : form = .count 0 UInt16.size := by simpa [forms] using listed
  subst port
  obtain ⟨_, read⟩ := (reads_port "bad").2 admitted
  exact absurd read nofun

/-- A malformed value of a known key, wherever it stands in the document: the document does not
load if the pair is the first of its key in its section, and otherwise loads, or fails, as it does
without the pair. -/
theorem malformed_value_is_fatal_unless_repeated (kind : SectionKind) (pair : Pair)
    (before after : Document) (earlier later : List Pair) (known : pair.key ∈ kind.keys)
    (malformed : ¬ kind.Admits pair.key pair.value) :
    (pair.key ∉ earlier.map Pair.key →
      ∃ error,
        ofDocument (before ++ ⟨some kind.name, earlier ++ pair :: later⟩ :: after) =
          .error error) ∧
    (pair.key ∈ earlier.map Pair.key →
      ofDocument (before ++ ⟨some kind.name, earlier ++ pair :: later⟩ :: after) =
        ofDocument (before ++ ⟨some kind.name, earlier ++ later⟩ :: after)) := by
  constructor
  · intro first
    cases loaded : ofDocument (before ++ ⟨some kind.name, earlier ++ pair :: later⟩ :: after) with
    | error error => exact ⟨error, rfl⟩
    | ok config =>
      obtain ⟨draft, next, added⟩ := exists_add_of_ofDocument loaded
      rw [← map_fst_forms] at known
      obtain ⟨⟨_, form⟩, listed, rfl⟩ := List.mem_map.1 known
      have admitted := Draft.admitsAll_of_add rfl added _ listed _ (Section.get?_of_first first)
      exact absurd ⟨form, listed, admitted⟩ malformed
  · intro repeated
    exact ofDocument_congr fun draft =>
      Draft.add_congr rfl rfl (Section.alike_of_repeated known repeated)

theorem malformed_port_is_fatal_unless_repeated :
    (∃ error,
      ofDocument [⟨none, []⟩, ⟨some "general", [⟨"addr", "a"⟩, ⟨"port", "bad"⟩]⟩] =
        .error error) ∧
    ofDocument [⟨none, []⟩,
        ⟨some "general", [⟨"addr", "a"⟩, ⟨"port", "1"⟩, ⟨"port", "bad"⟩]⟩] =
      ofDocument [⟨none, []⟩, ⟨some "general", [⟨"addr", "a"⟩, ⟨"port", "1"⟩]⟩] :=
  ⟨(malformed_value_is_fatal_unless_repeated .general ⟨"port", "bad"⟩ [⟨none, []⟩] []
      [⟨"addr", "a"⟩] [] (by decide) not_admits_port).1 (by decide),
    (malformed_value_is_fatal_unless_repeated .general ⟨"port", "bad"⟩ [⟨none, []⟩] []
      [⟨"addr", "a"⟩, ⟨"port", "1"⟩] [] (by decide) not_admits_port).2 (by decide)⟩

/-- Not every malformed value is fatal. -/
theorem repeated_malformed_port_is_skipped :
    ¬ ∀ (document : Document) (block : Section) (kind : SectionKind) (pair : Pair),
      block ∈ document → block.name = some kind.name → pair ∈ block.pairs →
        pair.key ∈ kind.keys → ¬ kind.Admits pair.key pair.value →
          ∃ error, ofDocument document = .error error := by
  intro fatal
  let block : Section :=
    ⟨some "general", [⟨"addr", "a"⟩, ⟨"port", "1"⟩, ⟨"port", "bad"⟩]⟩
  obtain ⟨error, refused⟩ :=
    fatal [⟨none, []⟩, block] block .general ⟨"port", "bad"⟩
      (by simp) rfl (by simp [block]) (by decide) not_admits_port
  have loaded : (ofDocument [⟨none, []⟩, block]).isOk = true := by decide
  rw [refused] at loaded
  exact absurd loaded Bool.false_ne_true

end Config

end ArchiveUpkeep
