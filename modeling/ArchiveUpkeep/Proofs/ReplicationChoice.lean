import ArchiveUpkeep.Proofs.AgeTests
import ArchiveUpkeep.Proofs.CleanupSafety
import ArchiveUpkeep.Proofs.TextOrder
import Mathlib.Data.List.Induction
import Mathlib.Data.List.Nodup

/-! Which target a volume is replicated to. A target waits for a volume if it answers and holds
nothing of it, or holds an older generation than the primary archive since at least its interval. Of
those that wait, the one that has waited longest is served, and of several such the one whose name
comes first in the order of bytes. A target that does not answer might as well not be configured. -/
namespace ArchiveUpkeep

/-- Of the listed points the one with the greatest id, and the last of several with that id. -/
def IsNewest (points : List RestorePoint) (newest : RestorePoint) : Prop :=
  ∃ before after, points = before ++ newest :: after ∧
    (∀ point ∈ before, point.gid ≤ newest.gid) ∧ ∀ point ∈ after, point.gid < newest.gid

section NewestPoint
variable {points : List RestorePoint} {newest other last : RestorePoint}

theorem newestPoint?_concat :
    newestPoint? (points ++ [last]) = newestPoint?.newer (newestPoint? points) last :=
  List.foldl_concat ..

theorem newestPoint?_eq_none_iff : newestPoint? points = none ↔ points = [] := by
  induction points using List.reverseRecOn with
  | nil => exact iff_of_true rfl rfl
  | append_singleton points last _ =>
    rw [newestPoint?_concat, newestPoint?.newer.eq_def]
    split
    · simp
    · split <;> simp

theorem isNewest_of_newestPoint? (found : newestPoint? points = some newest) :
    IsNewest points newest := by
  induction points using List.reverseRecOn generalizing newest with
  | nil => cases found
  | append_singleton points last ih =>
    rw [newestPoint?_concat] at found
    cases earlier : newestPoint? points with
    | none =>
      rw [earlier] at found
      cases found
      rw [newestPoint?_eq_none_iff.1 earlier]
      exact ⟨[], [], rfl, nofun, nofun⟩
    | some best =>
      obtain ⟨before, after, rfl, notAbove, below⟩ := ih earlier
      rw [earlier, newestPoint?.newer] at found
      split at found
      next notLess =>
        cases found
        refine ⟨_, [], rfl, fun point listed => ?_, nofun⟩
        rcases List.mem_append.1 listed with listed | listed
        · exact UInt64.le_trans (notAbove point listed) notLess
        · rcases List.mem_cons.1 listed with rfl | listed
          · exact notLess
          · exact UInt64.le_trans (UInt64.le_of_lt (below point listed)) notLess
      next less =>
        cases found
        refine ⟨before, after ++ [last], by simp, notAbove, fun point listed => ?_⟩
        rcases List.mem_append.1 listed with listed | listed
        · exact below point listed
        · exact List.mem_singleton.1 listed ▸ UInt64.not_le.1 less

/-- All points after one have lesser ids, and none before another one has a greater id: then the
other one does not come later. -/
theorem eq_of_split {before gap after rest : List RestorePoint}
    (tail : newest :: after = gap ++ other :: rest)
    (below : ∀ point ∈ after, point.gid < newest.gid)
    (notAbove : ∀ point ∈ before ++ gap, point.gid ≤ other.gid) : newest = other := by
  cases gap with
  | nil => exact (List.cons.inj tail).1
  | cons point gap =>
    obtain ⟨rfl, rfl⟩ := List.cons.inj tail
    exact absurd (below other (by simp)) (UInt64.not_lt.2 (notAbove newest (by simp)))

theorem IsNewest.unique (first : IsNewest points newest) (second : IsNewest points other) :
    newest = other := by
  obtain ⟨before, after, rfl, notAbove, below⟩ := first
  obtain ⟨before', after', same, notAbove', below'⟩ := second
  rcases List.append_eq_append_iff.1 same with ⟨gap, rfl, tail⟩ | ⟨gap, rfl, tail⟩
  · exact eq_of_split tail below notAbove'
  · exact (eq_of_split tail below' notAbove).symm

theorem newestPoint?_eq_some_iff : newestPoint? points = some newest ↔ IsNewest points newest := by
  refine ⟨isNewest_of_newestPoint?, fun isNewest => ?_⟩
  cases found : newestPoint? points with
  | none =>
    obtain ⟨before, after, listed, -⟩ := isNewest
    simp [newestPoint?_eq_none_iff.1 found] at listed
  | some other => rw [(isNewest_of_newestPoint? found).unique isNewest]

end NewestPoint

/-- The last replication was longer ago. One that never was is longer ago than any time. -/
def LongerAgo : Option Instant → Option Instant → Prop
  | none, some _ => True
  | some last, some other => last.toNanos < other.toNanos
  | _, none => False

/-- One target, with the time of its newest restore point, is to be served before another one. -/
def MoreOverdue (entry other : Target × Option Instant) : Prop :=
  LongerAgo entry.2 other.2 ∨
    entry.2 = other.2 ∧ Text.utf8 entry.1.name < Text.utf8 other.1.name

section Overdue
variable {last other third : Option Instant} {a b c : Target × Option Instant}

theorem waitedLonger_iff : waitedLonger last other ↔ LongerAgo last other := by
  cases last <;> cases other <;> simp [waitedLonger, LongerAgo, Instant.lt_iff_toNanos_lt]

theorem LongerAgo.trans (first : LongerAgo last other) (second : LongerAgo other third) :
    LongerAgo last third := by
  cases last <;> cases other <;> cases third <;> simp only [LongerAgo] at first second ⊢
  omega

theorem LongerAgo.irrefl : ¬ LongerAgo last last := by
  cases last <;> simp [LongerAgo]

theorem eq_or_longerAgo (notBefore : ¬ LongerAgo last other) :
    last = other ∨ LongerAgo other last := by
  cases last with
  | none =>
    cases other with
    | none => exact .inl rfl
    | some other => exact absurd trivial notBefore
  | some last =>
    cases other with
    | none => exact .inr trivial
    | some other =>
      rcases Int.lt_or_eq_of_le (Int.not_lt.1 notBefore) with after | same
      · exact .inr after
      · exact .inl (congrArg some (Instant.toNanos_injective same.symm))

theorem MoreOverdue.trans (first : MoreOverdue a b) (second : MoreOverdue b c) :
    MoreOverdue a c := by
  rcases first with first | ⟨same, first⟩
  · rcases second with second | ⟨same, -⟩
    · exact .inl (first.trans second)
    · exact .inl (same ▸ first)
  · rcases second with second | ⟨alsoSame, second⟩
    · exact .inl (same ▸ second)
    · exact .inr ⟨same.trans alsoSame, List.lt_trans first second⟩

theorem MoreOverdue.irrefl : ¬ MoreOverdue a a := by
  rintro (longer | ⟨-, below⟩)
  · exact longer.irrefl
  · exact List.lt_irrefl _ below

/-- Among targets in the order of their names, the strict comparison of the choice passes over a
later one that has waited as long. -/
theorem moreOverdue_of_not_waitedLonger (names : a.1.name < b.1.name)
    (notLonger : ¬ waitedLonger b.2 a.2) : MoreOverdue a b := by
  rcases eq_or_longerAgo (mt waitedLonger_iff.2 notLonger) with same | longer
  · exact .inr ⟨same.symm, Text.lt_iff_utf8_lt.1 names⟩
  · exact .inl longer

/-- The choice among targets in the order of their names, of which one is the best so far. -/
theorem foldl_longer (best : Target × Option Instant) (rest : List (Target × Option Instant))
    (sorted : (best :: rest).Pairwise fun entry later => entry.1.name < later.1.name) :
    ∃ chosen ∈ best :: rest, rest.foldl mostOverdue?.longer (some best) = some chosen ∧
      ∀ other ∈ best :: rest, other = chosen ∨ MoreOverdue chosen other := by
  induction rest generalizing best with
  | nil => exact ⟨best, by simp, rfl, by simp⟩
  | cons next rest ih =>
    obtain ⟨bestBelow, nextSorted⟩ := List.pairwise_cons.1 sorted
    obtain ⟨-, restSorted⟩ := List.pairwise_cons.1 nextSorted
    by_cases longer : waitedLonger next.2 best.2
    · obtain ⟨chosen, among, found, first⟩ := ih next nextSorted
      have overBest : MoreOverdue next best := .inl (waitedLonger_iff.1 longer)
      refine ⟨chosen, List.mem_cons_of_mem _ among, ?_, ?_⟩
      · rw [List.foldl_cons, mostOverdue?.longer, if_pos longer, found]
      · refine List.forall_mem_cons.2 ⟨.inr ?_, first⟩
        rcases first next (by simp) with rfl | ahead
        · exact overBest
        · exact ahead.trans overBest
    · have bestSorted : (best :: rest).Pairwise fun entry later => entry.1.name < later.1.name :=
        List.pairwise_cons.2 ⟨fun later within => bestBelow later (by simp [within]), restSorted⟩
      obtain ⟨chosen, among, found, first⟩ := ih best bestSorted
      have overNext : MoreOverdue best next :=
        moreOverdue_of_not_waitedLonger (bestBelow next (by simp)) longer
      obtain ⟨bestFirst, restFirst⟩ := List.forall_mem_cons.1 first
      refine ⟨chosen, ?_, ?_, List.forall_mem_cons.2 ⟨bestFirst,
        List.forall_mem_cons.2 ⟨.inr ?_, restFirst⟩⟩⟩
      · exact List.mem_cons.2 ((List.mem_cons.1 among).imp_right (List.mem_cons_of_mem _))
      · rw [List.foldl_cons, mostOverdue?.longer, if_neg longer, found]
      · rcases bestFirst with rfl | ahead
        · exact overNext
        · exact ahead.trans overNext

/-- The choice is the first of all by how long they have waited and then by their names. -/
theorem mostOverdue?_eq_some_iff {waiting : List (Target × Option Instant)} {target : Target}
    (sorted : waiting.Pairwise fun entry later => entry.1.name < later.1.name) :
    mostOverdue? waiting = some target ↔ ∃ last, (target, last) ∈ waiting ∧
      ∀ other ∈ waiting, other = (target, last) ∨ MoreOverdue (target, last) other := by
  cases waiting with
  | nil => simp [mostOverdue?]
  | cons best rest =>
    obtain ⟨chosen, among, found, first⟩ := foldl_longer best rest sorted
    have value : mostOverdue? (best :: rest) = some chosen.1 := congrArg (Option.map Prod.fst) found
    rw [value, Option.some.injEq]
    constructor
    · rintro rfl
      exact ⟨chosen.2, among, first⟩
    · rintro ⟨last, listed, alsoFirst⟩
      rcases alsoFirst chosen among with rfl | before
      · rfl
      · rcases first _ listed with same | after
        · exact (congrArg Prod.fst same).symm
        · exact absurd (before.trans after) MoreOverdue.irrefl

end Overdue

/-- A target answers that it is due for a volume whose newest restore point at the primary archive
is `newest`. The time is that of the newest point which the target holds, if it holds any. -/
inductive Waits (controller : Controller) (volume : String) (newest : RestorePoint) (now : Instant)
    (target : Target) : Option Instant → Prop where
  | empty (answered : controller.answer (.restorable target.server volume .narrow) = .ok []) :
      Waits controller volume newest now target none
  | behind {points : List RestorePoint} {held : RestorePoint}
      (answered : controller.answer (.restorable target.server volume .narrow) = .ok points)
      (newestHeld : IsNewest points held) (older : held.gid < newest.gid)
      (passed : held.time.toNanos + target.policy.interval.toNanos ≤ now.toNanos) :
      Waits controller volume newest now target (some held.time)

/-- Of the configured targets that wait for the volume this one is the most overdue. -/
structure Foremost (worker : Worker) (controller : Controller) (volume : String)
    (newest : RestorePoint) (now : Instant) (target : Target) (last : Option Instant) : Prop where
  configured : target ∈ worker.targets
  waits : Waits controller volume newest now target last
  first : ∀ other ∈ worker.targets, ∀ otherLast,
    Waits controller volume newest now other otherLast →
      other = target ∨ MoreOverdue (target, last) (other, otherLast)

/-- The targets but for the one with this name. -/
def Targets.without (targets : Targets) (name : String) : Targets :=
  ⟨targets.entries.filter (·.1 ≠ name), targets.sorted.filter _⟩

namespace Worker
variable {worker : Worker} {controller : Controller} {volume : String} {now : Instant}
  {newest : RestorePoint} {target other : Target} {last : Option Instant} {targets : List Target}
  {task : Task}

/-- The worker for which the target with this name is not configured. -/
def without (worker : Worker) (name : String) : Worker :=
  { worker with config := { worker.config with targets := worker.config.targets.without name } }

/-- The time of what a target holds, if the target answers and is due. -/
def waitingFor? (controller : Controller) (volume : String) (newest : RestorePoint) (now : Instant)
    (target : Target) : Option (Option Instant) :=
  match controller.answer (.restorable target.server volume .narrow) with
  | .error _ => none
  | .ok points =>
    if replicationDue newest (newestPoint? points) target.policy.interval now then
      some ((newestPoint? points).map RestorePoint.time)
    else none

theorem waitingFor?_eq_some_iff :
    waitingFor? controller volume newest now target = some last ↔
      Waits controller volume newest now target last := by
  constructor
  · intro found
    unfold waitingFor? at found
    split at found
    next => cases found
    next points answered =>
      split at found
      next due =>
        cases found
        obtain ⟨_, ⟨⟩, nothing | ⟨held, newestHeld, older, passed⟩⟩ := replicationDue_iff.1 due
        · rw [nothing]
          exact .empty (newestPoint?_eq_none_iff.1 nothing ▸ answered)
        · rw [newestHeld]
          exact .behind answered (newestPoint?_eq_some_iff.1 newestHeld) older passed
      next => cases found
  · rintro (answered | ⟨answered, newestHeld, older, passed⟩)
    · rw [waitingFor?, answered]
      rfl
    · have due := replicationDue_iff.2 ⟨newest, rfl, .inr ⟨_, rfl, older, passed⟩⟩
      rw [← newestPoint?_eq_some_iff] at newestHeld
      simp only [waitingFor?, answered, newestHeld, if_pos due, Option.map_some]

theorem value_waiting :
    (waiting controller volume newest now targets).value = targets.filterMap fun target =>
      (waitingFor? controller volume newest now target).map (target, ·) := by
  induction targets with
  | nil => rfl
  | cons target rest ih =>
    rw [waiting, Traced.bind_value, Controller.ask_value, List.filterMap_cons, waitingFor?]
    cases controller.answer (.restorable target.server volume .narrow) with
    | error error => exact ih
    | ok points =>
      by_cases due : replicationDue newest (newestPoint? points) target.policy.interval now
      · simp [due, ih]
      · simp [due, ih]

theorem mem_waiting_iff :
    (target, last) ∈ (waiting controller volume newest now targets).value ↔
      target ∈ targets ∧ Waits controller volume newest now target last := by
  simp [value_waiting, List.mem_filterMap, Option.map_eq_some_iff, waitingFor?_eq_some_iff]

theorem waiting_sorted (sorted : targets.Pairwise fun target later => target.name < later.name) :
    (waiting controller volume newest now targets).value.Pairwise fun entry later =>
      entry.1.name < later.1.name := by
  rw [value_waiting, List.pairwise_filterMap]
  refine sorted.imp fun below entry found other alsoFound => ?_
  obtain ⟨_, -, rfl⟩ := Option.map_eq_some_iff.1 found
  obtain ⟨_, -, rfl⟩ := Option.map_eq_some_iff.1 alsoFound
  exact below

theorem waits_unique {other : Option Instant}
    (waits : Waits controller volume newest now target last)
    (also : Waits controller volume newest now target other) : last = other := by
  rw [← waitingFor?_eq_some_iff] at waits also
  exact Option.some.inj (waits.symm.trans also)

theorem mostOverdue?_waiting_eq_some_iff :
    mostOverdue? (waiting controller volume newest now worker.targets).value = some target ↔
      ∃ last, Foremost worker controller volume newest now target last := by
  rw [mostOverdue?_eq_some_iff (waiting_sorted worker.targets_sorted)]
  refine exists_congr fun last => ⟨?_, ?_⟩
  · rintro ⟨listed, first⟩
    obtain ⟨configured, waits⟩ := mem_waiting_iff.1 listed
    refine ⟨configured, waits, fun other alsoConfigured otherLast alsoWaits => ?_⟩
    exact (first _ (mem_waiting_iff.2 ⟨alsoConfigured, alsoWaits⟩)).imp_left (congrArg Prod.fst)
  · rintro ⟨configured, waits, first⟩
    refine ⟨mem_waiting_iff.2 ⟨configured, waits⟩, fun ⟨other, otherLast⟩ listed => ?_⟩
    obtain ⟨alsoConfigured, alsoWaits⟩ := mem_waiting_iff.1 listed
    refine (first other alsoConfigured otherLast alsoWaits).imp_left ?_
    rintro rfl
    rw [waits_unique waits alsoWaits]

theorem mostOverdue?_waiting_eq_none_iff :
    mostOverdue? (waiting controller volume newest now worker.targets).value = none ↔
      ∀ target ∈ worker.targets, ∀ last, ¬ Waits controller volume newest now target last := by
  have empty_iff : mostOverdue? (waiting controller volume newest now worker.targets).value = none ↔
      (waiting controller volume newest now worker.targets).value = [] := by
    cases listed : (waiting controller volume newest now worker.targets).value with
    | nil => exact iff_of_true rfl rfl
    | cons best rest =>
      obtain ⟨chosen, -, found, -⟩ :=
        foldl_longer best rest (listed ▸ waiting_sorted worker.targets_sorted)
      rw [mostOverdue?, List.foldl_cons, mostOverdue?.longer, found]
      exact iff_of_false nofun nofun
  rw [empty_iff, List.eq_nil_iff_forall_not_mem]
  simp only [Prod.forall, mem_waiting_iff, not_and, imp_forall_iff]

/-- The replication that carries out the choice of a target. -/
def replicateTo (worker : Worker) (volume : String) (target : Target) : Task :=
  worker.task volume (.replicate target.name target.server target.policy.compression
    target.policy.bulkSize target.policy.maxMergeSize)

/-- Without targets nothing is asked, which comes to the same. -/
theorem value_replication :
    (worker.replication controller volume now).value =
      match controller.answer (.restorable worker.primary volume .narrow) with
      | .error _ => none
      | .ok points => (newestPoint? points).bind fun newest =>
          (mostOverdue? (waiting controller volume newest now worker.targets).value).map
            (worker.replicateTo volume) := by
  unfold replication
  cases configured : worker.targets with
  | nil =>
    cases controller.answer (.restorable worker.primary volume .narrow) with
    | error error => rfl
    | ok points =>
      dsimp only
      cases newestPoint? points <;> rfl
  | cons target rest =>
    rw [if_neg (by simp), Traced.bind_value, Controller.ask_value]
    cases controller.answer (.restorable worker.primary volume .narrow) with
    | error error => rfl
    | ok points =>
      dsimp only
      cases newestPoint? points <;> rfl

theorem replication_eq_some_iff :
    (worker.replication controller volume now).value = some task ↔
      ∃ points newest target last,
        controller.answer (.restorable worker.primary volume .narrow) = .ok points ∧
        IsNewest points newest ∧ Foremost worker controller volume newest now target last ∧
        task = worker.replicateTo volume target := by
  rw [value_replication]
  cases controller.answer (.restorable worker.primary volume .narrow) with
  | error error => simp
  | ok points =>
    simp only [Option.bind_eq_some_iff, Option.map_eq_some_iff, mostOverdue?_waiting_eq_some_iff,
      newestPoint?_eq_some_iff]
    constructor
    · rintro ⟨newest, isNewest, target, ⟨last, foremost⟩, rfl⟩
      exact ⟨points, newest, target, last, rfl, isNewest, foremost, rfl⟩
    · rintro ⟨_, newest, target, last, ⟨⟩, isNewest, foremost, rfl⟩
      exact ⟨newest, isNewest, target, ⟨last, foremost⟩, rfl⟩

theorem replication_eq_none_iff :
    (worker.replication controller volume now).value = none ↔
      (∃ error, controller.answer (.restorable worker.primary volume .narrow) = .error error) ∨
      controller.answer (.restorable worker.primary volume .narrow) = .ok [] ∨
      ∃ points newest,
        controller.answer (.restorable worker.primary volume .narrow) = .ok points ∧
        IsNewest points newest ∧
        ∀ target ∈ worker.targets, ∀ last, ¬ Waits controller volume newest now target last := by
  rw [value_replication]
  cases controller.answer (.restorable worker.primary volume .narrow) with
  | error error => simp
  | ok points =>
    simp only [← newestPoint?_eq_some_iff, ← newestPoint?_eq_none_iff, Option.bind_eq_none_iff,
      Option.map_eq_none_iff, mostOverdue?_waiting_eq_none_iff, reduceCtorEq, exists_false,
      false_or, Except.ok.injEq]
    cases newestHeld : newestPoint? points with
    | none => simp [newestHeld]
    | some newest => simp [newestHeld]

theorem mem_targets_without {name : String} :
    other ∈ (worker.without name).targets ↔ other ∈ worker.targets ∧ other.name ≠ name := by
  simp only [targets, without, Targets.without, List.mem_map, List.mem_filter, decide_eq_true_eq]
  constructor
  · rintro ⟨entry, ⟨listed, named⟩, rfl⟩
    exact ⟨⟨entry, listed, rfl⟩, named⟩
  · rintro ⟨⟨entry, listed, rfl⟩, named⟩
    exact ⟨entry, ⟨listed, named⟩, rfl⟩

theorem eq_of_same_name (configured : target ∈ worker.targets) (also : other ∈ worker.targets)
    (same : other.name = target.name) : other = target := by
  have distinct : (worker.targets.map Target.name).Nodup :=
    List.pairwise_map.2 (worker.targets_sorted.imp fun before => Std.ne_of_lt before)
  exact List.inj_on_of_nodup_map distinct also configured same

section Failing
variable {failing : Target} {error : ControllerError} (configured : failing ∈ worker.targets)
  (failed : controller.answer (.restorable failing.server volume .narrow) = .error error)
include configured failed

/-- A target that does not answer does not wait, so none that waits is missed without it. -/
theorem name_ne_of_waits (also : other ∈ worker.targets)
    (waits : Waits controller volume newest now other last) : other.name ≠ failing.name := by
  intro same
  cases eq_of_same_name configured also same
  cases waits with
  | empty answered => cases failed.symm.trans answered
  | behind answered => cases failed.symm.trans answered

theorem foremost_without_iff :
    Foremost (worker.without failing.name) controller volume newest now target last ↔
      Foremost worker controller volume newest now target last := by
  constructor
  · rintro ⟨listed, waits, first⟩
    refine ⟨(mem_targets_without.1 listed).1, waits, fun other also otherLast otherWaits => ?_⟩
    have named := name_ne_of_waits configured failed also otherWaits
    exact first other (mem_targets_without.2 ⟨also, named⟩) otherLast otherWaits
  · rintro ⟨listed, waits, first⟩
    have named := name_ne_of_waits configured failed listed waits
    refine ⟨mem_targets_without.2 ⟨listed, named⟩, waits, fun other also => ?_⟩
    exact first other (mem_targets_without.1 also).1

theorem replication_without :
    (worker.replication controller volume now).value =
      ((worker.without failing.name).replication controller volume now).value := by
  refine Option.ext fun task => ?_
  rw [replication_eq_some_iff, replication_eq_some_iff]
  simp only [foremost_without_iff configured failed]
  rfl

end Failing

/-- A volume is replicated to the most overdue of the targets that wait for it, with what is
configured for that target, and to none exactly if the primary archive does not tell what it holds,
holds nothing or no target waits. A target that does not answer is as good as not configured. -/
theorem replication_goes_to_the_most_overdue (worker : Worker) (controller : Controller)
    (volume : String) (now : Instant) :
    ((worker.replication controller volume now).value = none ↔
      (∃ error, controller.answer (.restorable worker.primary volume .narrow) = .error error) ∨
      controller.answer (.restorable worker.primary volume .narrow) = .ok [] ∨
      ∃ points newest,
        controller.answer (.restorable worker.primary volume .narrow) = .ok points ∧
        IsNewest points newest ∧
        ∀ target ∈ worker.targets, ∀ last, ¬ Waits controller volume newest now target last) ∧
    (∀ task, (worker.replication controller volume now).value = some task ↔
      ∃ points newest target last,
        controller.answer (.restorable worker.primary volume .narrow) = .ok points ∧
        IsNewest points newest ∧ Foremost worker controller volume newest now target last ∧
        task = worker.task volume (.replicate target.name target.server target.policy.compression
          target.policy.bulkSize target.policy.maxMergeSize)) ∧
    ∀ failing ∈ worker.targets, ∀ error,
      controller.answer (.restorable failing.server volume .narrow) = .error error →
      (worker.replication controller volume now).value =
        ((worker.without failing.name).replication controller volume now).value :=
  ⟨replication_eq_none_iff, fun _ => replication_eq_some_iff,
    fun _ configured _ failed => replication_without configured failed⟩

/-- A worker that mirrors its archive in five places, with the default policy in each. -/
def mirroringWorker : Worker where
  config :=
    { general := { addr := "127.0.0.1", port := 5000 }
      targets :=
        ⟨[("broken", { addr := "127.0.0.1", port := 5001 }),
          ("central", { addr := "127.0.0.1", port := 5002 }),
          ("current", { addr := "127.0.0.1", port := 5003 }),
          ("east", { addr := "127.0.0.1", port := 5004 }),
          ("west", { addr := "127.0.0.1", port := 5005 })], by decide⟩ }

/-- One mirror does not answer, one is up to date and the other three lag behind. -/
def unevenMirrors : Controller where
  answer
    | .restorable server _ _ =>
      if server.name = "broken" then .error (.unavailable server.name)
      else if server.name = "central" then .ok [⟨4, .ofSeconds 60⟩]
      else if server.name = "east" ∨ server.name = "west" then .ok [⟨2, .ofSeconds 0⟩]
      else .ok [⟨4, .ofSeconds 60⟩, ⟨7, .ofSeconds 120⟩]
    | query => restingArchive.answer query

/-- East and west have waited longer than the centre and as long as each other. -/
theorem replication_goes_to_the_most_overdue_of_five :
    let now : Instant := .ofSeconds 100000
    let proposed := (mirroringWorker.replication unevenMirrors "volume" now).value
    (∃ newest target last, target.name = "east" ∧
      Foremost mirroringWorker unevenMirrors "volume" newest now target last ∧
      proposed = some (mirroringWorker.replicateTo "volume" target)) ∧
    proposed =
      ((mirroringWorker.without "broken").replication unevenMirrors "volume" now).value := by
  intro now proposed
  let east : Target := ⟨"east", { addr := "127.0.0.1", port := 5004 }⟩
  have found : proposed = some (mirroringWorker.replicateTo "volume" east) := by decide
  obtain ⟨-, chosen, skipped⟩ :=
    replication_goes_to_the_most_overdue mirroringWorker unevenMirrors "volume" now
  constructor
  · obtain ⟨points, newest, target, last, -, -, foremost, same⟩ := (chosen _).1 found
    have action := congrArg Task.action same
    injection action with name
    exact ⟨newest, target, last, name.symm, foremost, found.trans (congrArg some same)⟩
  · exact skipped ⟨"broken", { addr := "127.0.0.1", port := 5001 }⟩ (by decide)
      (.unavailable "broken") rfl

end Worker

end ArchiveUpkeep
