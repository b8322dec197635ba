import ArchiveUpkeep.Proofs.CanonicalValues

/-! Configurations as documents. A valid configuration is written with one section for each of its
parts, and every part with all its keys. Neither the order of the sections nor that of the keys in
them counts, and what is read back is the configuration, with nothing left to a default. -/
namespace ArchiveUpkeep
open Ini SectionKind

theorem SectionKind.nodup_keys (kind : SectionKind) : kind.keys.Nodup := by
  cases kind <;> simp [keys]

namespace Ini.Section
variable {block : Section} {kind : SectionKind} {pairs : List Pair}

/-- The section is of this kind and has these pairs, in any order. -/
structure Lists (block : Section) (kind : SectionKind) (pairs : List Pair) : Prop where
  named : block.name = some kind.name
  perm : block.pairs.Perm pairs

namespace Lists
variable (lists : block.Lists kind pairs) (keys : (pairs.map Pair.key).Sublist kind.keys)
include lists keys

theorem known : ∀ pair ∈ block.pairs, pair.key ∈ kind.keys := fun _ within =>
  keys.mem (List.mem_map_of_mem (lists.perm.mem_iff.1 within))

/-- A lookup does not depend on the order. -/
theorem get?_eq (key : String) : block.get? key = (pairs.find? (·.key = key)).map Pair.value :=
  congrArg (Option.map Pair.value)
    (DistinctKeys.find?_eq_of_perm (kind.nodup_keys.sublist keys) lists.perm)

end Lists

end Ini.Section

section Reading
variable {α : Type} {kind : SectionKind} {block : Section} {key text : String} {absent a : α}
  {read : String → Except Value.Rejection α}

theorem SectionKind.required_of_found (found : block.get? key = some text)
    (accepted : read text = .ok a) : kind.required block key read = .ok a :=
  required_eq_ok_iff.2 ⟨text, found, accepted⟩

theorem SectionKind.optional_of_found (found : block.get? key = some text)
    (accepted : read text = .ok a) : kind.optional block key absent read = .ok a :=
  optional_eq_ok_iff.2 (.inr ⟨text, found, accepted⟩)

/-- What may be left unset is read as it is set, and as unset where its key does not stand. -/
theorem SectionKind.optional_of_given {given : Option α} {write : α → String}
    (found : block.get? key = given.map write) (accepted : ∀ a, read (write a) = .ok a) :
    kind.optional block key none (fun s => some <$> read s) = .ok given := by
  cases given with
  | none => exact optional_eq_ok_iff.2 (.inl ⟨found, rfl⟩)
  | some a =>
    refine optional_of_found found ?_
    rw [accepted]
    rfl

end Reading

/-! The pairs of the sections, in the order of their keys. Periods come with a text of their own. -/

def General.pairs (general : General) : List Pair :=
  [⟨"addr", general.addr⟩, ⟨"port", toString general.port.toNat⟩,
    ⟨"walbc_path", general.controllerPath⟩,
    ⟨"max_concurrent_tasks", toString general.maxConcurrentTasks.toNat⟩]

/-- A threshold that is not set is left out. -/
def ApplyPolicy.pairs (policy : ApplyPolicy) (keepPeriod : String) : List Pair :=
  ⟨"keep_period", keepPeriod⟩ ::
    ((policy.thresholdCount.map fun n => ⟨"threshold_nr", toString n.toNat⟩).toList ++
      (policy.thresholdSize.map fun n => ⟨"threshold_size", toString n.toNat⟩).toList)

def MergePolicy.pairs (policy : MergePolicy) (interval : String) : List Pair :=
  [⟨"interval", interval⟩, ⟨"max_nr", toString policy.maxCount.toNat⟩,
    ⟨"max_size", toString policy.maxSize.toNat⟩,
    ⟨"threshold_nr", toString policy.thresholdCount.toNat⟩]

def ReplicationPolicy.pairs (policy : ReplicationPolicy) (interval : String) : List Pair :=
  [⟨"addr", policy.addr⟩, ⟨"port", toString policy.port.toNat⟩, ⟨"interval", interval⟩,
    ⟨"compress", policy.compression.toText⟩,
    ⟨"max_merge_size", toString policy.maxMergeSize.toNat⟩,
    ⟨"bulk_size", toString policy.bulkSize.toNat⟩]

namespace Ini.Section
variable {block : Section} {kind : SectionKind} {period : Period} {pairs : String → List Pair}

/-- The section is of this kind and has these pairs, in any order and with any text for the
period. -/
def ListsWith (block : Section) (kind : SectionKind) (period : Period)
    (pairs : String → List Pair) : Prop :=
  ∃ text, period.Writes text ∧ block.Lists kind (pairs text)

theorem ListsWith.named (lists : block.ListsWith kind period pairs) :
    block.name = some kind.name := by
  obtain ⟨_, -, lists⟩ := lists
  exact lists.named

end Ini.Section

/-! The sections that are written for the parts of a configuration. -/

def General.Writes (general : General) (block : Section) : Prop :=
  block.Lists .general general.pairs

def ApplyPolicy.Writes (policy : ApplyPolicy) (block : Section) : Prop :=
  block.ListsWith .apply policy.keepPeriod policy.pairs

def MergePolicy.Writes (policy : MergePolicy) (block : Section) : Prop :=
  block.ListsWith .merge policy.interval policy.pairs

def ReplicationPolicy.Writes (policy : ReplicationPolicy) (name : String) (block : Section) :
    Prop :=
  block.ListsWith (.target name) policy.interval policy.pairs

section Parts
variable {block : Section} {name : String}

theorem General.ofSection_of_writes {own : General} (valid : own.Valid)
    (writes : own.Writes block) : General.ofSection block = .ok own := by
  have keys : (own.pairs.map Pair.key).Sublist general.keys := .refl _
  have found := writes.get?_eq keys
  exact General.ofSection_eq_ok_iff.2
    ⟨writes.known keys,
      required_of_found (found "addr") (Value.text_of_plain valid.addr),
      required_of_found (found "port") (Value.port_toString _),
      optional_of_found (found "walbc_path") (Value.text_of_plain valid.controllerPath),
      optional_of_found (found "max_concurrent_tasks")
        (Value.positive_toString valid.maxConcurrentTasks)⟩

theorem ApplyPolicy.sublist_keys (policy : ApplyPolicy) (keepPeriod : String) :
    ((policy.pairs keepPeriod).map Pair.key).Sublist apply.keys := by
  obtain ⟨keep, count, size⟩ := policy
  cases count <;> cases size <;> simp [pairs, SectionKind.keys]

/-- Each threshold is found as it is set. -/
theorem ApplyPolicy.find?_pairs (policy : ApplyPolicy) (keepPeriod : String) :
    ((policy.pairs keepPeriod).find? (·.key = "threshold_nr")).map Pair.value =
        policy.thresholdCount.map (toString ·.toNat) ∧
      ((policy.pairs keepPeriod).find? (·.key = "threshold_size")).map Pair.value =
        policy.thresholdSize.map (toString ·.toNat) := by
  obtain ⟨keep, count, size⟩ := policy
  cases count <;> cases size <;> exact ⟨rfl, rfl⟩

theorem ApplyPolicy.ofSection_of_writes {own : ApplyPolicy} (valid : own.Valid)
    (writes : own.Writes block) : ApplyPolicy.ofSection block = .ok own := by
  obtain ⟨keepPeriod, written, lists⟩ := writes
  have keys := own.sublist_keys keepPeriod
  have found := lists.get?_eq keys
  obtain ⟨count, size⟩ := own.find?_pairs keepPeriod
  exact ApplyPolicy.ofSection_eq_ok_iff.2
    ⟨lists.known keys,
      optional_of_found (found "keep_period") (Value.period_of_writes valid.keepPeriod written),
      optional_of_given ((found "threshold_nr").trans count) Value.natural_toString,
      optional_of_given ((found "threshold_size").trans size) Value.size_toString⟩

theorem MergePolicy.ofSection_of_writes {own : MergePolicy} (valid : own.Valid)
    (writes : own.Writes block) : MergePolicy.ofSection block = .ok own := by
  obtain ⟨interval, written, lists⟩ := writes
  have keys : ((own.pairs interval).map Pair.key).Sublist merge.keys := .refl _
  have found := lists.get?_eq keys
  exact MergePolicy.ofSection_eq_ok_iff.2
    ⟨lists.known keys,
      optional_of_found (found "max_nr") (Value.mergeCount_toString valid.maxCount),
      optional_of_found (found "interval") (Value.period_of_writes valid.interval written),
      optional_of_found (found "max_size") (Value.size_toString _),
      optional_of_found (found "threshold_nr") (Value.natural_toString _)⟩

theorem ReplicationPolicy.ofSection_of_writes {own : ReplicationPolicy} (valid : own.Valid)
    (writes : own.Writes name block) : ReplicationPolicy.ofSection name block = .ok own := by
  obtain ⟨interval, written, lists⟩ := writes
  have keys : ((own.pairs interval).map Pair.key).Sublist (target name).keys := .refl _
  have found := lists.get?_eq keys
  exact ReplicationPolicy.ofSection_eq_ok_iff.2
    ⟨lists.known keys,
      optional_of_found (found "compress") (Value.compression_toText _),
      required_of_found (found "addr") (Value.text_of_plain valid.addr),
      required_of_found (found "port") (Value.port_toString _),
      optional_of_found (found "interval") (Value.period_of_writes valid.interval written),
      optional_of_found (found "max_merge_size") (Value.size_toString _),
      optional_of_found (found "bulk_size") (Value.size_toString _)⟩

end Parts

namespace Config
variable {config : Config} {document : Document} {block : Section} {kind : SectionKind}

/-- What a section of this kind gives, read by itself, is what the configuration has for it. -/
def Agrees (config : Config) (block : Section) : SectionKind → Prop
  | .general => General.ofSection block = .ok config.general
  | .apply => ApplyPolicy.ofSection block = .ok config.apply
  | .merge => MergePolicy.ofSection block = .ok config.merge
  | .target name => ∃ policy, config.targets.get? name = some policy ∧
      ReplicationPolicy.ofSection name block = .ok policy

/-- The configuration has a part for this kind of section. -/
def Has (config : Config) : SectionKind → Prop
  | .target name => (config.targets.get? name).isSome
  | _ => True

/-- The sections of a document agree with the configuration, and there is one for every part. -/
structure Covers (config : Config) (document : Document) : Prop where
  agrees : ∀ block ∈ document, block = ⟨none, []⟩ ∨
    ∃ kind : SectionKind, kind.Heads block ∧ config.Agrees block kind
  complete : ∀ kind, config.Has kind → ∃ block ∈ document, block.name = some kind.name

theorem Agrees.upright (agrees : config.Agrees block kind) (headed : kind.Heads block) :
    ∀ error, ¬ Refused block error := by
  intro error
  rw [← refused_iff_of_heads headed]
  cases kind with
  | general =>
    rw [← General.refusal?_ofSection, agrees]
    nofun
  | apply =>
    rw [← ApplyPolicy.refusal?_ofSection, agrees]
    nofun
  | merge =>
    rw [← MergePolicy.refusal?_ofSection, agrees]
    nofun
  | target name =>
    obtain ⟨_, -, read⟩ := agrees
    rw [← ReplicationPolicy.refusal?_ofSection, read]
    nofun

namespace Covers
variable (covers : config.Covers document)
include covers

theorem upright : ∀ block ∈ document, ∀ error, ¬ Refused block error := by
  intro block within
  rcases covers.agrees block within with rfl | ⟨kind, headed, agrees⟩
  · intro error
    rw [refused_iff_of_headless rfl]
    nofun
  · exact agrees.upright headed

theorem agrees_of_named (within : block ∈ document) (named : block.name = some kind.name) :
    config.Agrees block kind := by
  rcases covers.agrees block within with rfl | ⟨other, headed, agrees⟩
  · cases named
  · rwa [kind_unique named headed.1]

theorem gives {α : Type} {read : Section → Except ConfigError α} {a : α} (has : config.Has kind)
    (reads : ∀ {block}, config.Agrees block kind → read block = .ok a) :
    document.Gives kind.name read (some a) := by
  cases last : document.last? kind.name with
  | none =>
    obtain ⟨block, within, named⟩ := covers.complete kind has
    exact absurd named (Document.last?_eq_none_iff.1 last block within)
  | some block =>
    obtain ⟨within, named⟩ := Document.mem_and_named_of_last? last
    exact Document.gives_some_iff.2 ⟨block, last, reads (covers.agrees_of_named within named)⟩

theorem gives_target (name : String) :
    document.Gives (target name).name (ReplicationPolicy.ofSection name)
      (config.targets.get? name) := by
  cases held : config.targets.get? name with
  | none =>
    refine Document.gives_none_iff.2 (Document.last?_eq_none_iff.2 fun block within named => ?_)
    obtain ⟨policy, found, -⟩ := covers.agrees_of_named within named
    exact absurd (held.symm.trans found) nofun
  | some policy =>
    refine covers.gives (by rw [Has, held]; rfl) fun agrees => ?_
    obtain ⟨_, found, read⟩ := agrees
    rwa [Option.some.inj (held.symm.trans found)]

theorem reflects :
    Draft.Reflects document ⟨some config.general, config.apply, config.merge, config.targets⟩ where
  general := covers.gives trivial fun agrees => agrees
  apply := ⟨some config.apply, covers.gives trivial fun agrees => agrees, rfl⟩
  merge := ⟨some config.merge, covers.gives trivial fun agrees => agrees, rfl⟩
  targets := covers.gives_target

theorem ofDocument_eq_ok : ofDocument document = .ok config :=
  ofDocument_eq_ok_iff.2 ⟨covers.upright, covers.reflects⟩

end Covers

/-- The document has one section for each part of the configuration and no other, in any order.
Sections without a name and without pairs do not count. -/
def Writes (config : Config) (document : Document) : Prop :=
  ∃ (general apply merge : Section) (targets : String × ReplicationPolicy → Section),
    config.general.Writes general ∧ config.apply.Writes apply ∧ config.merge.Writes merge ∧
      (∀ entry ∈ config.targets.entries, entry.2.Writes entry.1 (targets entry)) ∧
      (document.filter (· ≠ ⟨none, []⟩)).Perm
        (general :: apply :: merge :: config.targets.entries.map targets)

/-- A document for the configuration, with everything in order and no suffixes. -/
def toDocument (config : Config) : Document :=
  let inSeconds (period : Period) : String := toString period.seconds.toNat
  ⟨some SectionKind.general.name, config.general.pairs⟩ ::
    ⟨some SectionKind.apply.name, config.apply.pairs (inSeconds config.apply.keepPeriod)⟩ ::
    ⟨some SectionKind.merge.name, config.merge.pairs (inSeconds config.merge.interval)⟩ ::
    config.targets.entries.map fun entry =>
      ⟨some (target entry.1).name, entry.2.pairs (inSeconds entry.2.interval)⟩

theorem writes_toDocument (config : Config) : config.Writes config.toDocument := by
  have named : ∀ block ∈ config.toDocument, block ≠ ⟨none, []⟩ := by
    simp only [toDocument, List.forall_mem_cons, List.forall_mem_map]
    exact ⟨nofun, nofun, nofun, fun _ _ => nofun⟩
  rw [Writes, List.filter_eq_self.2 fun block within => decide_eq_true (named block within)]
  exact ⟨_, _, _, _, ⟨rfl, .refl _⟩, ⟨_, .bare, rfl, .refl _⟩, ⟨_, .bare, rfl, .refl _⟩,
    fun entry _ => ⟨_, .bare, rfl, .refl _⟩, .refl _⟩

theorem Writes.covers (writes : config.Writes document) (valid : config.Valid) :
    config.Covers document := by
  obtain ⟨general, apply, merge, targets, generalWritten, applyWritten, mergeWritten,
    targetsWritten, perm⟩ := writes
  have mem_iff (block : Section) : block ∈ document ∧ block ≠ ⟨none, []⟩ ↔
      block = general ∨ block = apply ∨ block = merge ∨
        ∃ entry ∈ config.targets.entries, targets entry = block := by
    simpa only [List.mem_filter, decide_eq_true_eq, List.mem_cons, List.mem_map] using
      perm.mem_iff (a := block)
  -- all that is used of the order is which sections there are
  constructor
  case agrees =>
    intro block within
    by_cases blank : block = ⟨none, []⟩
    · exact .inl blank
    · rcases (mem_iff block).1 ⟨within, blank⟩ with rfl | rfl | rfl | ⟨⟨name, policy⟩, listed, rfl⟩
      · exact .inr ⟨.general, ⟨generalWritten.named, nofun⟩,
          General.ofSection_of_writes valid.general generalWritten⟩
      · exact .inr ⟨.apply, ⟨applyWritten.named, nofun⟩,
          ApplyPolicy.ofSection_of_writes valid.apply applyWritten⟩
      · exact .inr ⟨.merge, ⟨mergeWritten.named, nofun⟩,
          MergePolicy.ofSection_of_writes valid.merge mergeWritten⟩
      · have written := targetsWritten _ listed
        obtain ⟨titled, own⟩ := valid.targets _ listed
        exact .inr ⟨.target name, ⟨written.named, fun same => titled (target.inj same)⟩,
          policy, Targets.mem_entries_iff.1 listed,
          ReplicationPolicy.ofSection_of_writes own written⟩
  case complete =>
    intro kind has
    cases kind with
    | general => exact ⟨general, ((mem_iff _).2 (.inl rfl)).1, generalWritten.named⟩
    | apply => exact ⟨apply, ((mem_iff _).2 (.inr (.inl rfl))).1, applyWritten.named⟩
    | merge => exact ⟨merge, ((mem_iff _).2 (.inr (.inr (.inl rfl)))).1, mergeWritten.named⟩
    | target name =>
      obtain ⟨policy, held⟩ := Option.isSome_iff_exists.1 has
      have listed := Targets.mem_entries_iff.2 held
      exact ⟨targets (name, policy), ((mem_iff _).2 (.inr (.inr (.inr ⟨_, listed, rfl⟩)))).1,
        (targetsWritten _ listed).named⟩

/-- A valid configuration can be written as a document, and every document that is written for it
is read back as that configuration. -/
theorem written_configuration_is_read_back (config : Config) (valid : config.Valid) :
    (∃ document, config.Writes document) ∧
      ∀ document, config.Writes document → ofDocument document = .ok config :=
  ⟨⟨config.toDocument, config.writes_toDocument⟩,
    fun _ writes => (writes.covers valid).ofDocument_eq_ok⟩

def nearPolicy : ReplicationPolicy where
  addr := "c"
  port := 0
  interval := .ofSeconds 5
  bulkSize := 1

def farPolicy : ReplicationPolicy where
  addr := "b"
  port := 1
  interval := .ofSeconds 60
  compression := { codec := .gzip, level := 9, threads := 4294967295 }

/-- A configuration with greatest numbers, one threshold unset and two targets. -/
def shuffledConfig : Config where
  general :=
    { addr := "a0", port := 65535, controllerPath := "/opt/walb tools/walbc"
      maxConcurrentTasks := 18446744073709551615 }
  apply := { keepPeriod := .ofSeconds 18446744073709551615, thresholdSize := some 0 }
  merge := { interval := .ofSeconds 0, maxCount := 2, maxSize := 4096, thresholdCount := 7 }
  targets := Targets.insert (Targets.insert .empty "r1" farPolicy) "r0" nearPolicy

def shuffledDocument : Document :=
  [⟨none, []⟩,
    ⟨some "repl_servers.r1",
      [⟨"bulk_size", "65536"⟩, ⟨"port", "1"⟩, ⟨"compress", "gzip:9:4294967295"⟩,
        ⟨"addr", "b"⟩, ⟨"max_merge_size", "1073741824"⟩, ⟨"interval", "60"⟩]⟩,
    ⟨some "merge",
      [⟨"max_size", "4096"⟩, ⟨"threshold_nr", "7"⟩, ⟨"interval", "0s"⟩, ⟨"max_nr", "2"⟩]⟩,
    ⟨some "general",
      [⟨"max_concurrent_tasks", "18446744073709551615"⟩, ⟨"port", "65535"⟩, ⟨"addr", "a0"⟩,
        ⟨"walbc_path", "/opt/walb tools/walbc"⟩]⟩,
    ⟨some "repl_servers.r0",
      [⟨"addr", "c"⟩, ⟨"interval", "5s"⟩, ⟨"port", "0"⟩, ⟨"bulk_size", "1"⟩,
        ⟨"max_merge_size", "1073741824"⟩, ⟨"compress", "none:0:0"⟩]⟩,
    ⟨some "apply", [⟨"threshold_size", "0"⟩, ⟨"keep_period", "18446744073709551615s"⟩]⟩]

theorem written_shuffled_configuration_is_read_back :
    shuffledConfig.Valid ∧ shuffledConfig.Writes shuffledDocument ∧
      ofDocument shuffledDocument = .ok shuffledConfig := by
  have entries : shuffledConfig.targets.entries = [("r0", nearPolicy), ("r1", farPolicy)] := by
    decide
  have valid : shuffledConfig.Valid :=
    { general :=
        { addr := by decide
          controllerPath := by decide
          maxConcurrentTasks := by decide }
      apply := ⟨Period.whole_ofSeconds _⟩
      merge := ⟨Period.whole_ofSeconds _, by decide⟩
      targets := by
        simp only [entries, List.forall_mem_cons]
        exact
          ⟨⟨by decide, by decide, Period.whole_ofSeconds _⟩,
            ⟨by decide, by decide, Period.whole_ofSeconds _⟩, nofun⟩ }
  have writes : shuffledConfig.Writes shuffledDocument := by
    refine ⟨shuffledDocument[3], shuffledDocument[5], shuffledDocument[2],
      fun entry => if entry.1 = "r0" then shuffledDocument[4] else shuffledDocument[1],
      ⟨by decide, by decide⟩, ⟨_, .suffixed, by decide, by decide⟩,
      ⟨_, .suffixed, by decide, by decide⟩, ?_, by decide⟩
    simp only [entries, List.forall_mem_cons]
    exact ⟨⟨_, .suffixed, by decide, by decide⟩, ⟨_, .bare, by decide, by decide⟩, nofun⟩
  exact ⟨valid, writes, (written_configuration_is_read_back shuffledConfig valid).2 _ writes⟩

end Config

end ArchiveUpkeep
