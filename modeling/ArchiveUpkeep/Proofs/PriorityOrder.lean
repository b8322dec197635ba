import ArchiveUpkeep.Proofs.GreedyIntake
import ArchiveUpkeep.Proofs.ServiceOrder

/-! A tick inverts no priority. Where no volume is listed twice, the candidates are in a strict
order: by kind, and tasks of one kind by the places of their volumes. The intake goes along that
order, gives a volume to its first candidate and drops only a tail. So a task that is admitted comes
before all others of its volume and before all that are dropped, and none is dropped while a slot is
left. -/
namespace ArchiveUpkeep

/-- The order of service among the candidates of a listing: by kind, and tasks of one kind by the
places of their volumes in the listing. -/
def ServedBefore (listed : List String) (task other : Task) : Prop :=
  task.kind.rank < other.kind.rank ∨
    task.kind = other.kind ∧ listed.idxOf task.volume < listed.idxOf other.volume

theorem ServedBefore.kind_le {listed : List String} {task other : Task}
    (before : ServedBefore listed task other) : task.kind ≤ other.kind := by
  rcases before with lower | ⟨same, -⟩
  · exact Nat.le_of_lt lower
  · exact Nat.le_of_eq (congrArg TaskKind.rank same)

/-- In a list without repetitions places rise along the list. -/
theorem pairwise_idxOf_lt {listed : List String} (distinct : listed.Nodup) :
    listed.Pairwise fun volume other => listed.idxOf volume < listed.idxOf other := by
  refine List.pairwise_iff_getElem.2 fun place later inside laterInside before => ?_
  rwa [distinct.idxOf_getElem place inside, distinct.idxOf_getElem later laterInside]

/-- Tasks in the order of service are related as their kinds are, and within a kind as they were. -/
theorem pairwise_serviceOrder {R : Task → Task → Prop} {tasks : List Task}
    (across : ∀ task other, task.kind.rank < other.kind.rank → R task other)
    (within : ∀ kind, (tasks.filter (·.kind = kind)).Pairwise R) :
    (serviceOrder tasks).Pairwise R := by
  have ascending : [TaskKind.apply, .merge, .replicate, .cleanup, .backup].Pairwise
      fun kind other => kind.rank < other.rank := by decide
  refine List.pairwise_flatMap.2 ⟨fun kind _ => within kind, ascending.imp ?_⟩
  intro kind later lower task own other otherOwn
  rw [List.mem_filter, decide_eq_true_eq] at own otherOwn
  exact across task other (own.2.symm ▸ otherOwn.2.symm ▸ lower)

namespace Worker
variable {worker : Worker} {controller : Controller} {now : Instant} {executions : Executions}
  {listed volumes : List String}

/-- The volumes that are looked after are those of the listing whose state is answered and right. -/
theorem value_archived (listed : List String) :
    (worker.archived controller listed).value = listed.filter fun volume =>
      controller.answer (.state worker.primary volume) = .ok archivedState := by
  induction listed with
  | nil => rfl
  | cons volume rest ih =>
    rw [archived, Traced.bind_value, Controller.ask_value, List.filter_cons]
    cases answered : controller.answer (.state worker.primary volume) with
    | error error => simp [ih]
    | ok state =>
      by_cases right : state = archivedState
      · simp [right, ih]
      · simp [right, ih]

theorem archived_sublist (listed : List String) :
    (worker.archived controller listed).value.Sublist listed := by
  rw [value_archived]
  exact List.filter_sublist

/-- Once the volumes are listed a tick succeeds, and it is the intake of the candidates. -/
theorem value_tick (listing : controller.answer (.volumes worker.primary) = .ok listed) :
    let volumes := (worker.archived controller listed).value
    let candidates := (worker.candidates controller now volumes).value
    let taken := (executions.intake candidates).value
    (worker.tick controller now executions).value =
      (.ok { volumes := volumes.length, candidates := candidates.length, intake := taken.1 },
        taken.2) := by
  simp [tick, attend, listing]

/-- Where no volume is listed twice, no two candidates are level in the order of service. -/
theorem candidates_in_order (distinct : listed.Nodup) (kept : volumes.Sublist listed) :
    (worker.candidates controller now volumes).value.Pairwise (ServedBefore listed) := by
  have volume_eq {volume : String} {kind : TaskKind} {task : Task}
      (found : (worker.proposed controller now volume).find? (·.kind = kind) = some task) :
      task.volume = volume := volume_of_proposed (List.mem_of_find?_eq_some found)
  have kind_eq {volume : String} {kind : TaskKind} {task : Task}
      (found : (worker.proposed controller now volume).find? (·.kind = kind) = some task) :
      task.kind = kind := by simpa using List.find?_some found
  rw [value_candidates]
  refine pairwise_serviceOrder (fun _ _ => .inl) fun kind => ?_
  rw [filter_kind_proposed, List.pairwise_filterMap]
  refine ((pairwise_idxOf_lt distinct).sublist kept).imp ?_
  intro volume later before task found other otherFound
  rw [← volume_eq found, ← volume_eq otherFound] at before
  exact .inr ⟨(kind_eq found).trans (kind_eq otherFound).symm, before⟩

/-- Whatever a worker has in flight, a tick whose listing names no volume twice admits of each volume
at most one task, and then one of the kind that is served first among its candidates. Every admitted
task comes before every dropped one, and if there is a dropped one, all slots are taken in the
end. -/
theorem tick_inverts_no_priority (worker : Worker) (happenings : List Happening)
    (controller : Controller) (now : Instant) (listed : List String)
    (listing : controller.answer (.volumes worker.primary) = .ok listed)
    (distinct : listed.Nodup) :
    let executions := (History.run worker happenings).executions
    let volumes := (worker.archived controller listed).value
    let candidates := (worker.candidates controller now volumes).value
    let ticked := (worker.tick controller now executions).value
    ∃ report, ticked.1 = .ok report ∧
      (report.intake.admitted ++ report.intake.busy ++ report.intake.dropped).Perm candidates ∧
      (∀ task ∈ report.intake.admitted, ∀ other ∈ candidates, other.volume = task.volume →
        task.kind ≤ other.kind) ∧
      (report.intake.admitted.map Task.volume).Nodup ∧
      (∀ task ∈ report.intake.admitted, ∀ other ∈ report.intake.dropped,
        ServedBefore listed task other) ∧
      (report.intake.dropped ≠ [] → ticked.2.slots.count = worker.capacity) := by
  intro executions volumes candidates ticked
  have ordered : candidates.Pairwise (ServedBefore listed) :=
    candidates_in_order distinct (archived_sublist listed)
  have orderly := (History.run_accounted worker happenings).orderly
  have shared := GreedyIntake.intake_shared executions candidates
  have ran : ticked = _ := value_tick listing
  rw [ran]
  refine ⟨_, rfl, shared.perm_tasks, ?_, GreedyIntake.nodup_volumes_admitted executions candidates,
    ?_, ?_⟩
  · intro task admitted other candidate same
    rcases shared.eq_or_rel_of_volume ordered admitted candidate same with rfl | before
    · exact Nat.le_refl _
    · exact before.kind_le
  · intro task admitted other dropped
    exact shared.rel_of_dropped ordered admitted dropped
  · intro dropped
    rw [← orderly.capacity_eq]
    exact GreedyIntake.count_intake_of_dropped executions candidates orderly.within dropped

/-- The resting archive with two more volumes, all alike. -/
def crowdedArchive : Controller where
  answer
    | .volumes _ => .ok ["volume", "next", "last"]
    | query => restingArchive.answer query

/-- One of two slots is taken by the first volume, and the second goes to the apply of the next. The
apply of the last one is dropped with all cleanups, of which none was served before it. -/
theorem tick_inverts_no_priority_in_a_crowd :
    let now : Instant := .ofSeconds 100000
    let listed := ["volume", "next", "last"]
    let apply (volume : String) := eagerWorker.task volume (.apply 12)
    let cleanup (volume : String) := eagerWorker.task volume (.cleanup 7)
    let executions := (History.run eagerWorker [.tick restingArchive now]).executions
    let ticked := (eagerWorker.tick crowdedArchive now executions).value
    executions.slots.volumes = ["volume"] ∧
      crowdedArchive.answer (.volumes eagerWorker.primary) = .ok listed ∧ listed.Nodup ∧
      ticked.1 = .ok
        { volumes := 3
          candidates := 6
          intake :=
            { admitted := [apply "next"]
              busy := [apply "volume"]
              dropped := [apply "last", cleanup "volume", cleanup "next", cleanup "last"] } } ∧
      ServedBefore listed (apply "next") (apply "last") ∧ ticked.2.slots.count = 2 := by
  intro now listed apply cleanup executions ticked
  have distinct : listed.Nodup := by decide
  have ran : ticked.1 = .ok
      { volumes := 3
        candidates := 6
        intake :=
          { admitted := [apply "next"]
            busy := [apply "volume"]
            dropped := [apply "last", cleanup "volume", cleanup "next", cleanup "last"] } } := by
    decide
  obtain ⟨report, succeeded, -, -, -, served, full⟩ :=
    tick_inverts_no_priority eagerWorker [.tick restingArchive now] crowdedArchive now listed rfl
      distinct
  simp only [ticked, executions] at ran ⊢
  rw [ran] at succeeded
  obtain rfl := Except.ok.inj succeeded
  exact ⟨by decide, rfl, distinct, ran, served _ List.mem_cons_self _ List.mem_cons_self,
    full (List.cons_ne_nil _ _)⟩

end Worker

end ArchiveUpkeep
