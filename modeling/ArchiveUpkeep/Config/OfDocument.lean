import ArchiveUpkeep.Config.Basic
import ArchiveUpkeep.Config.Value
import ArchiveUpkeep.Ini.Document

/-! The configuration that a document describes. Sections are read in the order of the document, and
the first one that is refused decides the error. A later section takes the place of an earlier one
of the same name as a whole; within a section the first value of a key counts. Sections and keys
that nothing reads are refused, so a slip of the pen cannot fall back to a default. -/
namespace ArchiveUpkeep
open Ini

/-- The sections that a policy document may have. -/
inductive SectionKind where
  | general
  | apply
  | merge
  /-- The section of one replication target. -/
  | target (name : String)
deriving DecidableEq, Repr

namespace SectionKind

/-- What the name of a target's section begins with. -/
def targetPrefix : String := "repl_servers."

def name : SectionKind → String
  | general => "general"
  | apply => "apply"
  | merge => "merge"
  | target name => targetPrefix ++ name

/-- The kind of the section with this name. A target has to have a name of its own. -/
def ofName? (name : String) : Option SectionKind :=
  match name with
  | "general" => some general
  | "apply" => some apply
  | "merge" => some merge
  | _ =>
    match targetPrefix.toList.isPrefixOf? name.toList with
    | none | some [] => none
    | some rest => some (target (String.ofList rest))

/-- The keys that a section knows. -/
def keys : SectionKind → List String
  | general => ["addr", "port", "walbc_path", "max_concurrent_tasks"]
  | apply => ["keep_period", "threshold_nr", "threshold_size"]
  | merge => ["interval", "max_nr", "max_size", "threshold_nr"]
  | target _ => ["addr", "port", "interval", "compress", "max_merge_size", "bulk_size"]

variable {α : Type} (kind : SectionKind) (block : Section) (key : String)

/-- Reads a value of this section. -/
def value (read : String → Except Value.Rejection α) (text : String) : Except ConfigError α :=
  match read text with
  | .ok a => .ok a
  | .error rejection => .error (.invalidValue kind.name key rejection.shown rejection.fault)

/-- Reads the value of a key that has to be there. -/
def required (read : String → Except Value.Rejection α) : Except ConfigError α :=
  match block.get? key with
  | some text => kind.value key read text
  | none => .error (.missingKey kind.name key)

/-- Reads the value of a key, or takes `absent` without it. -/
def optional (absent : α) (read : String → Except Value.Rejection α) : Except ConfigError α :=
  match block.get? key with
  | some text => kind.value key read text
  | none => .ok absent

/-- Refuses the first pair whose key this section does not know. -/
def checkKeys : Except ConfigError Unit :=
  match block.pairs.find? (·.key ∉ kind.keys) with
  | some pair => .error (.unknownKey kind.name pair.key)
  | none => .ok ()

end SectionKind

open SectionKind

def General.ofSection (block : Section) : Except ConfigError General := do
  general.checkKeys block
  let addr ← general.required block "addr" Value.text
  let port ← general.required block "port" Value.port
  let base : General := { addr, port }
  let controllerPath ← general.optional block "walbc_path" base.controllerPath Value.text
  let maxConcurrentTasks ←
    general.optional block "max_concurrent_tasks" base.maxConcurrentTasks Value.positive
  return { base with controllerPath, maxConcurrentTasks }

def ApplyPolicy.ofSection (block : Section) : Except ConfigError ApplyPolicy := do
  apply.checkKeys block
  let base : ApplyPolicy := {}
  let keepPeriod ← apply.optional block "keep_period" base.keepPeriod Value.period
  let thresholdCount ←
    apply.optional block "threshold_nr" base.thresholdCount fun s => some <$> Value.natural s
  let thresholdSize ←
    apply.optional block "threshold_size" base.thresholdSize fun s => some <$> Value.size s
  return { keepPeriod, thresholdCount, thresholdSize }

def MergePolicy.ofSection (block : Section) : Except ConfigError MergePolicy := do
  merge.checkKeys block
  let base : MergePolicy := {}
  let maxCount ← merge.optional block "max_nr" base.maxCount Value.mergeCount
  let interval ← merge.optional block "interval" base.interval Value.period
  let maxSize ← merge.optional block "max_size" base.maxSize Value.size
  let thresholdCount ← merge.optional block "threshold_nr" base.thresholdCount Value.natural
  return { interval, maxCount, maxSize, thresholdCount }

/-- Reads the section of the target `name`. -/
def ReplicationPolicy.ofSection (name : String) (block : Section) :
    Except ConfigError ReplicationPolicy := do
  let kind := target name
  kind.checkKeys block
  let compression ← kind.optional block "compress" {} Value.compression
  let addr ← kind.required block "addr" Value.text
  let port ← kind.required block "port" Value.port
  let base : ReplicationPolicy := { addr, port, compression }
  let interval ← kind.optional block "interval" base.interval Value.period
  let maxMergeSize ← kind.optional block "max_merge_size" base.maxMergeSize Value.size
  let bulkSize ← kind.optional block "bulk_size" base.bulkSize Value.size
  return { base with interval, maxMergeSize, bulkSize }

namespace Config

/-- What the sections read so far amount to. -/
structure Draft where
  general : Option General := none
  apply : ApplyPolicy := {}
  merge : MergePolicy := {}
  targets : Targets := {}

/-- Takes one more section into account. Nothing may stand before the first header. -/
def Draft.add (draft : Draft) (block : Section) : Except ConfigError Draft :=
  match block.name with
  | none =>
    match block.pairs with
    | [] => .ok draft
    | pair :: _ => .error (.unknownKey "" pair.key)
  | some name =>
    match SectionKind.ofName? name with
    | none => .error (.unknownSection name)
    | some .general => return { draft with general := some (← General.ofSection block) }
    | some .apply => return { draft with apply := ← ApplyPolicy.ofSection block }
    | some .merge => return { draft with merge := ← MergePolicy.ofSection block }
    | some (.target name) =>
      return { draft with
        targets := draft.targets.insert name (← ReplicationPolicy.ofSection name block) }

/-- The configuration that a document describes. Without a general section its first required key
counts as missing. -/
def ofDocument (document : Document) : Except ConfigError Config := do
  let draft ← document.foldlM Draft.add {}
  match draft.general with
  | some general =>
    return { general, apply := draft.apply, merge := draft.merge, targets := draft.targets }
  | none => throw (.missingKey SectionKind.general.name "addr")

end Config

end ArchiveUpkeep
