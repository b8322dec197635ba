import ArchiveUpkeep.Proofs.DocumentMeaning
import ArchiveUpkeep.Proofs.ExecutionAccounting
import ArchiveUpkeep.Proofs.TrimmedTexts

/-! What every loaded configuration can be relied on for. A configuration is made of what sections
say and of defaults, and both keep to the same conditions, so nothing that works from one has to ask
whether its bounds make sense. -/
namespace ArchiveUpkeep
open Ini SectionKind Written

open Text (Plain)

namespace Period

/-- A whole number of seconds that fits 64 bits. -/
def Whole (p : Period) : Prop := ∃ seconds < UInt64.size, p.toNanos = seconds * 1000000000

theorem whole_ofSeconds (seconds : UInt64) : (ofSeconds seconds).Whole :=
  ⟨seconds.toNat, seconds.toNat_lt, by simp [toNanos, ofSeconds, Nanos.zero]⟩

end Period

/-! What is valid as a value of a key is valid in the configuration. -/

section Values
variable {s t : String} {n least : Nat} {read : UInt64} {period : Period}

theorem Value.plain_of_text (accepted : text s = .ok t) : Plain t := by
  obtain ⟨filled, rfl⟩ := text_eq_ok_iff.1 accepted
  exact Text.plain_trim filled

theorem toUInt64_le_toUInt64 (enough : least ≤ n) (small : n < UInt64.size) :
    least.toUInt64 ≤ n.toUInt64 := by
  rw [UInt64.le_iff_toNat_le, Nat.toUInt64_eq, Nat.toUInt64_eq, UInt64.toNat_ofNat_of_lt' small,
    UInt64.toNat_ofNat_of_lt' (Nat.lt_of_le_of_lt enough small)]
  exact enough

theorem Value.one_le_of_positive (accepted : positive s = .ok read) : 1 ≤ read := by
  obtain ⟨n, ⟨-, enough⟩, small, rfl⟩ := positive_eq_ok_iff.1 accepted
  exact toUInt64_le_toUInt64 enough small

theorem Value.two_le_of_mergeCount (accepted : mergeCount s = .ok read) : 2 ≤ read := by
  obtain ⟨n, ⟨-, enough⟩, small, rfl⟩ := mergeCount_eq_ok_iff.1 accepted
  exact toUInt64_le_toUInt64 enough small

theorem Value.whole_of_period (accepted : Value.period s = .ok period) : period.Whole := by
  obtain ⟨n, -, -, rfl⟩ := period_parse_eq_ok_iff.1 (measured_eq_ok_iff.1 accepted)
  exact Period.whole_ofSeconds _

end Values

namespace SectionKind
variable {α : Type} {kind : SectionKind} {block : Section} {key : String} {absent a : α}
  {read : String → Except Value.Rejection α} {P : α → Prop}

theorem of_required (sound : ∀ {text a}, read text = .ok a → P a)
    (found : kind.required block key read = .ok a) : P a := by
  obtain ⟨_, -, accepted⟩ := required_eq_ok_iff.1 found
  exact sound accepted

theorem of_optional (sound : ∀ {text a}, read text = .ok a → P a) (default : P absent)
    (found : kind.optional block key absent read = .ok a) : P a := by
  rcases optional_eq_ok_iff.1 found with ⟨-, rfl⟩ | ⟨_, -, accepted⟩
  · exact default
  · exact sound accepted

end SectionKind

/-! The parts of a configuration are valid, whether a section says them or not. -/

structure General.Valid (general : General) : Prop where
  addr : Plain general.addr
  controllerPath : Plain general.controllerPath
  maxConcurrentTasks : 1 ≤ general.maxConcurrentTasks

structure ApplyPolicy.Valid (policy : ApplyPolicy) : Prop where
  keepPeriod : policy.keepPeriod.Whole

structure MergePolicy.Valid (policy : MergePolicy) : Prop where
  interval : policy.interval.Whole
  maxCount : 2 ≤ policy.maxCount

structure ReplicationPolicy.Valid (policy : ReplicationPolicy) : Prop where
  addr : Plain policy.addr
  interval : policy.interval.Whole

structure Config.Valid (config : Config) : Prop where
  general : config.general.Valid
  apply : config.apply.Valid
  merge : config.merge.Valid
  targets : ∀ entry ∈ config.targets.entries, entry.1 ≠ "" ∧ entry.2.Valid

section Parts
variable {block : Section} {name : String}

theorem General.valid_default {addr : String} {port : UInt16} (plain : Plain addr) :
    Valid { addr, port } where
  addr := plain
  controllerPath := show Plain "walbc" by decide
  maxConcurrentTasks := show (1 : UInt64) ≤ 2 by decide

theorem General.valid_of_ofSection {own : General} (read : General.ofSection block = .ok own) :
    own.Valid := by
  obtain ⟨-, addr, -, path, most⟩ := General.ofSection_eq_ok_iff.1 read
  have plain := of_required Value.plain_of_text addr
  exact
    { addr := plain
      controllerPath := of_optional Value.plain_of_text (valid_default plain).controllerPath path
      maxConcurrentTasks :=
        of_optional Value.one_le_of_positive (valid_default plain).maxConcurrentTasks most }

theorem ApplyPolicy.valid_default : Valid {} := ⟨Period.whole_ofSeconds _⟩

theorem ApplyPolicy.valid_of_ofSection {own : ApplyPolicy}
    (read : ApplyPolicy.ofSection block = .ok own) : own.Valid := by
  obtain ⟨-, keep, -, -⟩ := ApplyPolicy.ofSection_eq_ok_iff.1 read
  exact ⟨of_optional Value.whole_of_period valid_default.keepPeriod keep⟩

theorem MergePolicy.valid_default : Valid {} := ⟨Period.whole_ofSeconds _, by decide⟩

theorem MergePolicy.valid_of_ofSection {own : MergePolicy}
    (read : MergePolicy.ofSection block = .ok own) : own.Valid := by
  obtain ⟨-, most, interval, -, -⟩ := MergePolicy.ofSection_eq_ok_iff.1 read
  exact
    { interval := of_optional Value.whole_of_period valid_default.interval interval
      maxCount := of_optional Value.two_le_of_mergeCount valid_default.maxCount most }

theorem ReplicationPolicy.valid_default {addr : String} {port : UInt16} (plain : Plain addr) :
    Valid { addr, port } := ⟨plain, Period.whole_ofSeconds _⟩

theorem ReplicationPolicy.valid_of_ofSection {own : ReplicationPolicy}
    (read : ReplicationPolicy.ofSection name block = .ok own) : own.Valid := by
  obtain ⟨-, -, addr, -, interval, -, -⟩ := ReplicationPolicy.ofSection_eq_ok_iff.1 read
  have plain := of_required Value.plain_of_text addr
  exact
    { addr := plain
      interval := of_optional Value.whole_of_period (valid_default plain).interval interval }

end Parts

namespace Ini.Document
variable {α : Type} {document : Document} {block : Section} {name : String} {absent a : α}
  {read : Section → Except ConfigError α}

theorem mem_and_named_of_last? (last : document.last? name = some block) :
    block ∈ document ∧ block.name = some name := by
  have kept := List.mem_of_getLast? last
  simpa using kept

/-- What holds of whatever a section may say and of the default holds of what is given. -/
theorem GivesOr.holds {P : α → Prop} (given : document.GivesOr name read absent a)
    (default : P absent) (sound : ∀ {block a}, read block = .ok a → P a) : P a := by
  obtain ⟨given, gives, rfl⟩ := given
  cases given with
  | none => exact default
  | some a =>
    obtain ⟨_, -, own⟩ := gives_some_iff.1 gives
    exact sound own

end Ini.Document

/-- The section has a name that is known and no key that is not. Only one without a name and without
pairs needs none. -/
def Ini.Section.Known (block : Section) : Prop :=
  block.name = none ∧ block.pairs = [] ∨
    ∃ kind : SectionKind, kind.Heads block ∧ ∀ pair ∈ block.pairs, pair.key ∈ kind.keys

/-- The merge of a volume with another search for its range. -/
def Worker.mergeBy
    (search : MergePolicy → Instant → List Diff → Except ChainError (Option GidRange))
    (worker : Worker) (controller : Controller) (volume : String) (now : Instant) :
    Selecting (Option Task) := do
  let policy := worker.config.merge
  let count ← controller.require volume (.diffCount worker.primary volume .all)
  let size ← controller.require volume (.diffSize worker.primary volume .all)
  if policy.due count size then
    let diffs ← controller.require volume (.applicableDiffs worker.primary volume Gid.top)
    let scope ← consistent volume (search policy now diffs)
    return scope.map fun range =>
      worker.task volume (.merge range.start range.stop policy.maxSize)
  else return none

theorem Worker.merge_eq_mergeBy_scope : Worker.merge = Worker.mergeBy MergePolicy.scope := rfl

namespace Config
variable {document : Document} {config : Config} {block : Section}

theorem known_of_upright (upright : ∀ error, ¬ Refused block error) : block.Known := by
  cases named : block.name with
  | none =>
    cases pairs : block.pairs with
    | nil => exact .inl ⟨named, pairs⟩
    | cons pair rest => exact absurd (.headless named pairs) (upright _)
  | some name =>
    by_cases known : ∃ kind : SectionKind, kind.Heads block
    · obtain ⟨kind, headed⟩ := known
      cases checked : kind.checkKeys block with
      | ok => exact .inr ⟨kind, headed, checkKeys_eq_ok_iff.1 checked⟩
      | error error =>
        refine absurd ((refused_iff_of_heads headed).1 ?_) (upright error)
        rw [checked]
        rfl
    · exact absurd (.unknownSection named (not_exists.1 known)) (upright _)

/-- The configuration that a document describes is valid. -/
theorem valid_of_ofDocument (loaded : ofDocument document = .ok config) : config.Valid := by
  obtain ⟨upright, reflects⟩ := ofDocument_eq_ok_iff.1 loaded
  obtain ⟨_, -, general⟩ := Document.gives_some_iff.1 reflects.general
  exact
    { general := General.valid_of_ofSection general
      apply := reflects.apply.holds ApplyPolicy.valid_default ApplyPolicy.valid_of_ofSection
      merge := reflects.merge.holds MergePolicy.valid_default MergePolicy.valid_of_ofSection
      targets := by
        rintro ⟨name, policy⟩ listed
        have gives := reflects.targets name
        rw [Targets.mem_entries_iff.1 listed] at gives
        obtain ⟨block, last, own⟩ := Document.gives_some_iff.1 gives
        refine ⟨?_, ReplicationPolicy.valid_of_ofSection own⟩
        rintro rfl
        obtain ⟨within, named⟩ := Document.mem_and_named_of_last? last
        rcases known_of_upright (upright block within) with ⟨unnamed, -⟩ | ⟨kind, headed, -⟩
        · exact absurd (named.symm.trans unnamed) nofun
        · obtain ⟨heading, titled⟩ := headed
          exact titled (kind_unique heading named) }

/-- Whatever document a configuration is loaded from, every section and every key of it is known and
the configuration is valid. A worker with that configuration always has a slot, and looks for merges
only with a policy that allows two diffs in one. -/
theorem loaded_configuration_is_valid (document : Document) (config : Config)
    (loaded : ofDocument document = .ok config) :
    (∀ block ∈ document, block.Known) ∧ config.Valid ∧
      ∀ worker : Worker, worker.config = config →
        (∀ happenings, 1 ≤ (History.run worker happenings).executions.slots.capacity) ∧
        ∀ search, (∀ policy : MergePolicy, 2 ≤ policy.maxCount → search policy = policy.scope) →
          worker.mergeBy search = worker.merge := by
  have valid := valid_of_ofDocument loaded
  refine ⟨fun block within => ?_, valid, ?_⟩
  · exact known_of_upright ((ofDocument_eq_ok_iff.1 loaded).1 block within)
  · rintro worker rfl
    refine ⟨fun happenings => ?_, fun search same => ?_⟩
    · rw [(History.run_accounted worker happenings).orderly.capacity_eq]
      exact valid.general.maxConcurrentTasks
    · rw [Worker.merge_eq_mergeBy_scope]
      funext controller volume now
      simp only [Worker.mergeBy, same _ valid.merge.maxCount]

/-- A document with white space around its values, which leaves most of them to the defaults. -/
def sparseDocument : Document :=
  [⟨none, []⟩, ⟨some "general", [⟨"addr", " a0\t"⟩, ⟨"port", "1"⟩]⟩,
    ⟨some "repl_servers.r", [⟨"addr", "b"⟩, ⟨"port", "2"⟩, ⟨"interval", " 3m"⟩]⟩]

def sparseConfig : Config where
  general := { addr := "a0", port := 1 }
  targets := Targets.insert .empty "r" { addr := "b", port := 2, interval := .ofSeconds 180 }

theorem loaded_sparse_configuration_is_valid :
    ofDocument sparseDocument = .ok sparseConfig ∧
      (∀ block ∈ sparseDocument, block.Known) ∧ sparseConfig.Valid ∧
      (∀ happenings,
        1 ≤ (History.run { config := sparseConfig } happenings).executions.slots.capacity) ∧
      Worker.mergeBy
          (fun policy => if policy.maxCount < 2 then fun _ _ => .ok none else policy.scope)
          { config := sparseConfig } =
        Worker.merge { config := sparseConfig } := by
  have loaded : ofDocument sparseDocument = .ok sparseConfig := by decide
  obtain ⟨known, valid, works⟩ := loaded_configuration_is_valid sparseDocument sparseConfig loaded
  obtain ⟨slots, merges⟩ := works { config := sparseConfig } rfl
  refine ⟨loaded, known, valid, slots, merges _ fun policy enough => ?_⟩
  exact if_neg (UInt64.not_lt.2 enough)

end Config

end ArchiveUpkeep
