import ArchiveUpkeep.Proofs.MalformedValues

/-! Why a section is refused. A section is judged by itself: by its name first, then by its keys in
the order of its pairs, and only then by what it gives for the keys that it may have, in the order
in which they are read. Nothing that stands before it plays a part. -/
namespace ArchiveUpkeep
open Ini Written

/-- Why a reading fails, if it does. -/
def refusal? {ε α : Type} : Except ε α → Option ε
  | .ok _ => none
  | .error error => some error

section Refusal
variable {ε α β : Type} {error : ε}

theorem refusal?_eq_some_iff {result : Except ε α} :
    refusal? result = some error ↔ result = .error error := by
  cases result <;> simp [refusal?]

theorem refusal?_eq_none_iff {result : Except ε α} :
    refusal? result = none ↔ ∃ a, result = .ok a := by
  cases result <;> simp [refusal?]

theorem refusal?_pure (a : α) : refusal? (pure a : Except ε α) = none := rfl

/-- The first of two steps that fails is why both together do, if what the second one fails for does
not depend on what the first one gives. -/
theorem refusal?_bind {first : Except ε α} {next : α → Except ε β} {later : Option ε}
    (same : ∀ a, refusal? (next a) = later) :
    refusal? (first >>= next) = (refusal? first).or later := by
  cases first with
  | ok a => exact same a
  | error error => rfl

theorem refusal?_foldlM {step : β → α → Except ε β} {why : α → Option ε}
    (same : ∀ b a, refusal? (step b a) = why a) (l : List α) (b : β) :
    refusal? (l.foldlM step b) = l.findSome? why := by
  induction l generalizing b with
  | nil => rfl
  | cons a rest ih =>
    rw [List.foldlM_cons, refusal?_bind ih, same, List.findSome?_cons]
    cases why a <;> rfl

end Refusal

/-- A key that a section may have: whether the section needs it, the form of its values, and how any
other text is refused. -/
structure KeyRule where
  key : String
  needed : Bool
  form : Form
  refuse : String → Option Value.Rejection
  refuse_eq_none_iff : ∀ text, refuse text = none ↔ form.Admits text

/-- The key whose values are read by `read`. -/
def KeyRule.of {α : Type} {form : Form} {read : String → Except Value.Rejection α} (key : String)
    (needed : Bool) (reads : Reads form read) : KeyRule where
  key := key
  needed := needed
  form := form
  refuse text := refusal? (read text)
  refuse_eq_none_iff text := refusal?_eq_none_iff.trans (reads text)

namespace SectionKind

/-- The keys of a section in the order in which they are read. -/
def rules : SectionKind → List KeyRule
  | general =>
    [.of "addr" true reads_text, .of "port" true reads_port, .of "walbc_path" false reads_text,
      .of "max_concurrent_tasks" false reads_positive]
  | apply =>
    [.of "keep_period" false reads_period, .of "threshold_nr" false (reads_map some reads_natural),
      .of "threshold_size" false (reads_map some reads_size)]
  | merge =>
    [.of "max_nr" false reads_mergeCount, .of "interval" false reads_period,
      .of "max_size" false reads_size, .of "threshold_nr" false reads_natural]
  | target _ =>
    [.of "compress" false reads_compression, .of "addr" true reads_text,
      .of "port" true reads_port, .of "interval" false reads_period,
      .of "max_merge_size" false reads_size, .of "bulk_size" false reads_size]

/-- What is wrong with what a section gives for a key: a value that is refused, or none where one is
needed. -/
def ruleFault? (kind : SectionKind) (block : Section) (rule : KeyRule) : Option ConfigError :=
  match block.get? rule.key with
  | some text => (rule.refuse text).map fun rejection =>
      .invalidValue kind.name rule.key rejection.shown rejection.fault
  | none => if rule.needed then some (.missingKey kind.name rule.key) else none

/-- The first fault of a section whose keys are all known. -/
def fault? (kind : SectionKind) (block : Section) : Option ConfigError :=
  kind.rules.findSome? (kind.ruleFault? block)

/-- The section is headed as one of this kind. A target has to have a name of its own. -/
def Heads (kind : SectionKind) (block : Section) : Prop :=
  block.name = some kind.name ∧ kind ≠ target ""

end SectionKind

/-- The section is refused, with this error. -/
inductive Refused (block : Section) : ConfigError → Prop where
  /-- Nothing may stand before the first header. -/
  | headless {pair : Pair} {rest : List Pair} (unnamed : block.name = none)
      (pairs : block.pairs = pair :: rest) : Refused block (.unknownKey "" pair.key)
  | unknownSection {name : String} (named : block.name = some name)
      (unknown : ∀ kind : SectionKind, ¬ kind.Heads block) : Refused block (.unknownSection name)
  /-- The first unknown key outranks every missing and every malformed one. -/
  | unknownKey {kind : SectionKind} {before after : List Pair} {pair : Pair}
      (headed : kind.Heads block) (pairs : block.pairs = before ++ pair :: after)
      (known : ∀ other ∈ before, other.key ∈ kind.keys) (unknown : pair.key ∉ kind.keys) :
      Refused block (.unknownKey kind.name pair.key)
  | faulty {kind : SectionKind} {error : ConfigError} (headed : kind.Heads block)
      (known : ∀ pair ∈ block.pairs, pair.key ∈ kind.keys)
      (first : kind.fault? block = some error) : Refused block error

namespace SectionKind
variable {α : Type} {kind : SectionKind} {block : Section} {key : String} {absent : α} {form : Form}
  {read : String → Except Value.Rejection α}

theorem refusal?_value (text : String) :
    refusal? (kind.value key read text) = (refusal? (read text)).map fun rejection =>
      .invalidValue kind.name key rejection.shown rejection.fault := by
  unfold value
  cases read text <;> rfl

theorem refusal?_required (reads : Reads form read) :
    refusal? (kind.required block key read) = kind.ruleFault? block (.of key true reads) := by
  simp only [required, ruleFault?, KeyRule.of]
  cases block.get? key with
  | none => rfl
  | some text => exact refusal?_value text

theorem refusal?_optional (reads : Reads form read) :
    refusal? (kind.optional block key absent read) =
      kind.ruleFault? block (.of key false reads) := by
  simp only [optional, ruleFault?, KeyRule.of]
  cases block.get? key with
  | none => rfl
  | some text => exact refusal?_value text

/-- Reading one key and then others. -/
theorem refusal?_read {β : Type} {first : Except ConfigError α} {next : α → Except ConfigError β}
    {rule : KeyRule} {later : List KeyRule} (here : refusal? first = kind.ruleFault? block rule)
    (same : ∀ a, refusal? (next a) = later.findSome? (kind.ruleFault? block)) :
    refusal? (first >>= next) = (rule :: later).findSome? (kind.ruleFault? block) := by
  rw [refusal?_bind same, here, List.findSome?_cons]
  cases kind.ruleFault? block rule <;> rfl

theorem refusal?_checkKeys (kind : SectionKind) (block : Section) :
    refusal? (kind.checkKeys block) =
      (block.pairs.find? (·.key ∉ kind.keys)).map fun pair => .unknownKey kind.name pair.key := by
  unfold checkKeys
  cases block.pairs.find? (·.key ∉ kind.keys) <;> rfl

end SectionKind

open SectionKind

/-! A section of any kind is refused for an unknown key, or else for its first fault. -/

theorem General.refusal?_ofSection (block : Section) :
    refusal? (General.ofSection block) =
      (refusal? (general.checkKeys block)).or (general.fault? block) :=
  refusal?_bind fun _ =>
    refusal?_read (refusal?_required reads_text) fun _ =>
    refusal?_read (refusal?_required reads_port) fun _ =>
    refusal?_read (refusal?_optional reads_text) fun _ =>
    refusal?_read (refusal?_optional reads_positive) fun _ => rfl

theorem ApplyPolicy.refusal?_ofSection (block : Section) :
    refusal? (ApplyPolicy.ofSection block) =
      (refusal? (apply.checkKeys block)).or (apply.fault? block) :=
  refusal?_bind fun _ =>
    refusal?_read (refusal?_optional reads_period) fun _ =>
    refusal?_read (refusal?_optional (reads_map some reads_natural)) fun _ =>
    refusal?_read (refusal?_optional (reads_map some reads_size)) fun _ => rfl

theorem MergePolicy.refusal?_ofSection (block : Section) :
    refusal? (MergePolicy.ofSection block) =
      (refusal? (merge.checkKeys block)).or (merge.fault? block) :=
  refusal?_bind fun _ =>
    refusal?_read (refusal?_optional reads_mergeCount) fun _ =>
    refusal?_read (refusal?_optional reads_period) fun _ =>
    refusal?_read (refusal?_optional reads_size) fun _ =>
    refusal?_read (refusal?_optional reads_natural) fun _ => rfl

theorem ReplicationPolicy.refusal?_ofSection (name : String) (block : Section) :
    refusal? (ReplicationPolicy.ofSection name block) =
      (refusal? ((target name).checkKeys block)).or ((target name).fault? block) :=
  refusal?_bind fun _ =>
    refusal?_read (refusal?_optional reads_compression) fun _ =>
    refusal?_read (refusal?_required reads_text) fun _ =>
    refusal?_read (refusal?_required reads_port) fun _ =>
    refusal?_read (refusal?_optional reads_period) fun _ =>
    refusal?_read (refusal?_optional reads_size) fun _ =>
    refusal?_read (refusal?_optional reads_size) fun _ => rfl

namespace Config
variable {draft next : Draft} {block : Section} {kind : SectionKind} {error : ConfigError}

theorem Draft.refusal?_add_of_heads (headed : kind.Heads block) :
    refusal? (draft.add block) =
      (refusal? (kind.checkKeys block)).or (kind.fault? block) := by
  obtain ⟨named, titled⟩ := headed
  have known : ofName? kind.name = some kind := ofName?_eq_some_iff.2 ⟨rfl, titled⟩
  have kept {α : Type} {read : Except ConfigError α} {next : α → Draft} :
      refusal? (read >>= fun a => pure (next a)) = refusal? read := by
    rw [refusal?_bind fun _ => refusal?_pure _, Option.or_none]
  simp only [Draft.add, named, known]
  cases kind with
  | general => exact kept.trans (General.refusal?_ofSection block)
  | apply => exact kept.trans (ApplyPolicy.refusal?_ofSection block)
  | merge => exact kept.trans (MergePolicy.refusal?_ofSection block)
  | target name => exact kept.trans (ReplicationPolicy.refusal?_ofSection name block)

/-- A section that is headed as one of some kind is refused for its first unknown key, and one
without an unknown key for its first fault. -/
theorem refused_iff_of_heads (headed : kind.Heads block) :
    (refusal? (kind.checkKeys block)).or (kind.fault? block) = some error ↔
      Refused block error := by
  rw [refusal?_checkKeys, Option.or_eq_some_iff, Option.map_eq_some_iff, Option.map_eq_none_iff,
    List.find?_eq_none]
  constructor
  · rintro (⟨pair, found, rfl⟩ | ⟨known, fault⟩)
    · obtain ⟨unknown, before, after, pairs, known⟩ := List.find?_eq_some_iff_append.1 found
      exact .unknownKey headed pairs (by simpa using known) (by simpa using unknown)
    · exact .faulty headed (by simpa using known) fault
  · intro refused
    cases refused with
    | headless unnamed pairs => exact absurd (unnamed.symm.trans headed.1) nofun
    | unknownSection named unknown => exact absurd headed (unknown kind)
    | unknownKey alsoHeaded pairs known unknown =>
      cases kind_unique headed.1 alsoHeaded.1
      refine .inl ⟨_, List.find?_eq_some_iff_append.2 ⟨?_, _, _, pairs, ?_⟩, rfl⟩
      · simpa using unknown
      · simpa using known
    | faulty alsoHeaded known fault =>
      cases kind_unique headed.1 alsoHeaded.1
      exact .inr ⟨by simpa using known, fault⟩

theorem refused_iff_of_headless (unnamed : block.name = none) :
    Refused block error ↔ ∃ pair ∈ block.pairs.head?, error = .unknownKey "" pair.key := by
  constructor
  · intro refused
    cases refused with
    | headless _ pairs => exact ⟨_, by rw [pairs]; rfl, rfl⟩
    | unknownSection named _ => exact absurd (unnamed.symm.trans named) nofun
    | unknownKey headed _ _ _ => exact absurd (unnamed.symm.trans headed.1) nofun
    | faulty headed _ _ => exact absurd (unnamed.symm.trans headed.1) nofun
  · rintro ⟨pair, first, rfl⟩
    obtain ⟨rest, pairs⟩ := List.head?_eq_some_iff.1 first
    exact .headless unnamed pairs

theorem refused_iff_of_unknown {name : String} (named : block.name = some name)
    (unknown : ∀ kind : SectionKind, ¬ kind.Heads block) :
    Refused block error ↔ error = .unknownSection name := by
  constructor
  · intro refused
    cases refused with
    | headless unnamed _ => exact absurd (unnamed.symm.trans named) nofun
    | unknownSection same _ => rw [Option.some.inj (same.symm.trans named)]
    | unknownKey headed _ _ _ => exact absurd headed (unknown _)
    | faulty headed _ _ => exact absurd headed (unknown _)
  · rintro rfl
    exact .unknownSection named unknown

/-- Whatever was read before, taking a section into account fails exactly if the section is refused,
and with that error. -/
theorem Draft.add_eq_error_iff : draft.add block = .error error ↔ Refused block error := by
  cases named : block.name with
  | none =>
    rw [refused_iff_of_headless named]
    unfold Draft.add
    cases pairs : block.pairs <;> simp [named, eq_comm]
  | some name =>
    cases known : ofName? name with
    | none =>
      have unknown (kind : SectionKind) : ¬ kind.Heads block := by
        rintro ⟨heading, titled⟩
        have found : ofName? name = some kind :=
          ofName?_eq_some_iff.2 ⟨Option.some.inj (named.symm.trans heading), titled⟩
        exact absurd (known.symm.trans found) nofun
      rw [refused_iff_of_unknown named unknown]
      simp [Draft.add, named, known, eq_comm]
    | some kind =>
      obtain ⟨rfl, titled⟩ := ofName?_eq_some_iff.1 known
      rw [← refusal?_eq_some_iff, Draft.refusal?_add_of_heads ⟨named, titled⟩,
        refused_iff_of_heads ⟨named, titled⟩]

end Config

end ArchiveUpkeep
