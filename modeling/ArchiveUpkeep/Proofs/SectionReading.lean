import ArchiveUpkeep.Config.OfDocument
import ArchiveUpkeep.Proofs.WrittenValues
import Mathlib.Data.List.Basic

/-! How a section is read. Its name tells its kind, no key may be unknown to that kind, and then
each key that the kind knows is looked up and read by itself. What it says takes the place of what
was drafted for its name. -/
namespace ArchiveUpkeep
open Ini Written

namespace SectionKind
variable {α : Type} {kind : SectionKind} {block : Section} {key text : String} {absent a : α}
  {read : String → Except Value.Rejection α}

theorem name_injective {kind other : SectionKind} (same : kind.name = other.name) :
    kind = other := by
  have apart (name : String) : (target name).name.toList.head? = some 'r' := by
    simp [SectionKind.name, targetPrefix]
  cases kind with
  | target name =>
    cases other with
    | target other =>
      rw [SectionKind.name, SectionKind.name, ← String.toList_inj, String.toList_append,
        String.toList_append] at same
      rw [String.toList_inj.1 (List.append_cancel_left same)]
    | _ => exact absurd (same ▸ apart name) (by decide)
  | _ =>
    cases other with
    | target other => exact absurd (same ▸ apart other) (by decide)
    | _ => first | rfl | exact absurd same (by decide)

/-- A name is that of a section of some kind, save that no target has the empty name. -/
theorem ofName?_eq_some_iff {name : String} {kind : SectionKind} :
    ofName? name = some kind ↔ name = kind.name ∧ kind ≠ target "" := by
  have behind_iff {rest : List Char} :
      targetPrefix.toList.isPrefixOf? name.toList = some rest ↔
        name = (target (String.ofList rest)).name := by
    rw [List.isPrefixOf?_eq_some_iff_append_eq, eq_comm, ← String.toList_inj]
    simp [SectionKind.name]
  have named_iff {found : SectionKind} (titled : found ≠ target "") :
      some found = some kind ↔ found.name = kind.name ∧ kind ≠ target "" := by
    constructor
    · rintro ⟨⟩
      exact ⟨rfl, titled⟩
    · rintro ⟨same, -⟩
      rw [name_injective same]
  unfold ofName?
  split
  next => exact named_iff nofun
  next => exact named_iff nofun
  next => exact named_iff nofun
  next notGeneral notApply notMerge =>
    constructor
    · intro named
      split at named
      next => cases named
      next => cases named
      next rest filled behind =>
        rw [behind_iff.1 behind]
        refine (named_iff fun unnamed => filled ?_).1 named
        simpa using unnamed
    · rintro ⟨same, titled⟩
      cases kind with
      | general => exact absurd same notGeneral
      | apply => exact absurd same notApply
      | merge => exact absurd same notMerge
      | target own =>
        have behind : targetPrefix.toList.isPrefixOf? name.toList = some own.toList :=
          behind_iff.2 (same.trans (by rw [String.ofList_toList]))
        rw [behind]
        split
        next => contradiction
        next bare =>
          have unnamed : own = "" := by simpa using Option.some.inj bare
          exact absurd (congrArg target unnamed) titled
        next rest filled found =>
          cases found
          rw [String.ofList_toList]

theorem eq_of_ofName?_name {kind found : SectionKind} (named : ofName? kind.name = some found) :
    found = kind :=
  (name_injective (ofName?_eq_some_iff.1 named).1).symm

theorem checkKeys_eq_ok_iff {checked : Unit} :
    kind.checkKeys block = .ok checked ↔ ∀ pair ∈ block.pairs, pair.key ∈ kind.keys := by
  unfold checkKeys
  cases found : block.pairs.find? (·.key ∉ kind.keys) with
  | none => simpa using found
  | some pair =>
    refine iff_of_false nofun fun known => ?_
    have unknown : pair.key ∉ kind.keys := by simpa using List.find?_some found
    exact unknown (known pair (List.mem_of_find?_eq_some found))

theorem value_eq_ok_iff : kind.value key read text = .ok a ↔ read text = .ok a := by
  unfold value
  cases read text <;> simp

theorem required_eq_ok_iff :
    kind.required block key read = .ok a ↔
      ∃ text, block.get? key = some text ∧ read text = .ok a := by
  unfold required
  cases block.get? key <;> simp [value_eq_ok_iff]

theorem optional_eq_ok_iff :
    kind.optional block key absent read = .ok a ↔
      (block.get? key = none ∧ a = absent) ∨
        ∃ text, block.get? key = some text ∧ read text = .ok a := by
  unfold optional
  cases block.get? key with
  | none => simp [eq_comm]
  | some text => simp [value_eq_ok_iff]

end SectionKind

open SectionKind

/-! A section without an unknown key is read exactly if each key that its kind knows is. -/

variable {block : Section}

theorem General.ofSection_eq_ok_iff {own : General} :
    General.ofSection block = .ok own ↔
      (∀ pair ∈ block.pairs, pair.key ∈ general.keys) ∧
        let absent : General := { addr := own.addr, port := own.port }
        general.required block "addr" Value.text = .ok own.addr ∧
        general.required block "port" Value.port = .ok own.port ∧
        general.optional block "walbc_path" absent.controllerPath Value.text =
          .ok own.controllerPath ∧
        general.optional block "max_concurrent_tasks" absent.maxConcurrentTasks Value.positive =
          .ok own.maxConcurrentTasks := by
  simp only [General.ofSection, bind_eq_ok_iff, checkKeys_eq_ok_iff]
  constructor
  · rintro ⟨_, known, _, addr, _, port, _, path, _, most, ⟨⟩⟩
    exact ⟨known, addr, port, path, most⟩
  · rintro ⟨known, addr, port, path, most⟩
    exact ⟨(), known, _, addr, _, port, _, path, _, most, rfl⟩

theorem ApplyPolicy.ofSection_eq_ok_iff {own : ApplyPolicy} :
    ApplyPolicy.ofSection block = .ok own ↔
      (∀ pair ∈ block.pairs, pair.key ∈ apply.keys) ∧
        let absent : ApplyPolicy := {}
        apply.optional block "keep_period" absent.keepPeriod Value.period = .ok own.keepPeriod ∧
        apply.optional block "threshold_nr" absent.thresholdCount
          (fun s => some <$> Value.natural s) = .ok own.thresholdCount ∧
        apply.optional block "threshold_size" absent.thresholdSize
          (fun s => some <$> Value.size s) = .ok own.thresholdSize := by
  simp only [ApplyPolicy.ofSection, bind_eq_ok_iff, checkKeys_eq_ok_iff]
  constructor
  · rintro ⟨_, known, _, keep, _, count, _, size, ⟨⟩⟩
    exact ⟨known, keep, count, size⟩
  · rintro ⟨known, keep, count, size⟩
    exact ⟨(), known, _, keep, _, count, _, size, rfl⟩

theorem MergePolicy.ofSection_eq_ok_iff {own : MergePolicy} :
    MergePolicy.ofSection block = .ok own ↔
      (∀ pair ∈ block.pairs, pair.key ∈ merge.keys) ∧
        let absent : MergePolicy := {}
        merge.optional block "max_nr" absent.maxCount Value.mergeCount = .ok own.maxCount ∧
        merge.optional block "interval" absent.interval Value.period = .ok own.interval ∧
        merge.optional block "max_size" absent.maxSize Value.size = .ok own.maxSize ∧
        merge.optional block "threshold_nr" absent.thresholdCount Value.natural =
          .ok own.thresholdCount := by
  simp only [MergePolicy.ofSection, bind_eq_ok_iff, checkKeys_eq_ok_iff]
  constructor
  · rintro ⟨_, known, _, most, _, interval, _, size, _, count, ⟨⟩⟩
    exact ⟨known, most, interval, size, count⟩
  · rintro ⟨known, most, interval, size, count⟩
    exact ⟨(), known, _, most, _, interval, _, size, _, count, rfl⟩

theorem ReplicationPolicy.ofSection_eq_ok_iff {name : String} {own : ReplicationPolicy} :
    ReplicationPolicy.ofSection name block = .ok own ↔
      (∀ pair ∈ block.pairs, pair.key ∈ (target name).keys) ∧
        let kind := target name
        let absent : ReplicationPolicy := { addr := own.addr, port := own.port }
        kind.optional block "compress" absent.compression Value.compression =
          .ok own.compression ∧
        kind.required block "addr" Value.text = .ok own.addr ∧
        kind.required block "port" Value.port = .ok own.port ∧
        kind.optional block "interval" absent.interval Value.period = .ok own.interval ∧
        kind.optional block "max_merge_size" absent.maxMergeSize Value.size =
          .ok own.maxMergeSize ∧
        kind.optional block "bulk_size" absent.bulkSize Value.size = .ok own.bulkSize := by
  simp only [ReplicationPolicy.ofSection, bind_eq_ok_iff, checkKeys_eq_ok_iff]
  constructor
  · rintro ⟨_, known, _, compress, _, addr, _, port, _, interval, _, merged, _, bulk, ⟨⟩⟩
    exact ⟨known, compress, addr, port, interval, merged, bulk⟩
  · rintro ⟨known, compress, addr, port, interval, merged, bulk⟩
    exact ⟨(), known, _, compress, _, addr, _, port, _, interval, _, merged, _, bulk, rfl⟩

namespace Config
variable {draft next : Draft} {block : Section} {kind other : SectionKind}

/-- What a draft becomes when a section is taken into account. -/
inductive Draft.Added (draft : Draft) (block : Section) : Draft → Prop where
  | blank (unnamed : block.name = none) : Added draft block draft
  | general {own : General} (named : block.name = some SectionKind.general.name)
      (read : General.ofSection block = .ok own) :
      Added draft block { draft with general := some own }
  | apply {own : ApplyPolicy} (named : block.name = some SectionKind.apply.name)
      (read : ApplyPolicy.ofSection block = .ok own) :
      Added draft block { draft with apply := own }
  | merge {own : MergePolicy} (named : block.name = some SectionKind.merge.name)
      (read : MergePolicy.ofSection block = .ok own) :
      Added draft block { draft with merge := own }
  | target {name : String} {own : ReplicationPolicy}
      (named : block.name = some (SectionKind.target name).name)
      (read : ReplicationPolicy.ofSection name block = .ok own) :
      Added draft block { draft with targets := draft.targets.insert name own }

theorem Draft.added_of_add (added : draft.add block = .ok next) : draft.Added block next := by
  cases named : block.name with
  | none =>
    simp only [Draft.add, named] at added
    split at added
    next =>
      cases added
      exact .blank named
    next => cases added
  | some name =>
    cases known : ofName? name with
    | none =>
      simp only [Draft.add, named, known] at added
      cases added
    | some kind =>
      obtain ⟨rfl, -⟩ := ofName?_eq_some_iff.1 known
      simp only [Draft.add, named, known] at added
      cases kind with
      | general =>
        obtain ⟨_, read, ⟨⟩⟩ := bind_eq_ok_iff.1 added
        exact .general named read
      | apply =>
        obtain ⟨_, read, ⟨⟩⟩ := bind_eq_ok_iff.1 added
        exact .apply named read
      | merge =>
        obtain ⟨_, read, ⟨⟩⟩ := bind_eq_ok_iff.1 added
        exact .merge named read
      | target name =>
        obtain ⟨_, read, ⟨⟩⟩ := bind_eq_ok_iff.1 added
        exact .target named read

theorem kind_unique (named : block.name = some kind.name)
    (alsoNamed : block.name = some other.name) : kind = other :=
  name_injective (Option.some.inj (named.symm.trans alsoNamed))

end Config

end ArchiveUpkeep
