import ArchiveUpkeep.Proofs.PriorityOrder

/-! What a tick amounts to. It stands or falls with the listing of the volumes: without a listing it
starts and changes nothing, and with one it succeeds, whatever is answered about the volumes. Only
archived volumes have candidates, each candidate is admitted, passed over or dropped, and what is in
flight grows by the admitted ones and by nothing else. -/
namespace ArchiveUpkeep.Worker

variable {worker : Worker} {controller : Controller} {now : Instant} {executions : Executions}
  {listed volumes : List String} {task : Task}

theorem volume_mem_of_candidate
    (candidate : task ∈ (worker.candidates controller now volumes).value) :
    task.volume ∈ volumes := by
  rw [value_candidates, mem_serviceOrder_iff, List.mem_flatMap] at candidate
  obtain ⟨volume, listed, proposed⟩ := candidate
  exact (volume_of_proposed proposed).symm ▸ listed

/-- A tick whose listing fails has done nothing but ask for it. -/
theorem tick_of_listing_error {error : ControllerError}
    (failed : controller.answer (.volumes worker.primary) = .error error) :
    worker.tick controller now executions =
      { value := (.error error, executions), queries := [.volumes worker.primary] } := by
  simp [tick, Controller.ask, failed, bind, pure]

/-- What a tick reports as begun is what it reports as admitted. -/
theorem started_tick :
    (worker.tick controller now executions).events.filterMap Event.started? =
      admittedIn (worker.tick controller now executions).value.1 := by
  obtain ⟨tasks, -, admitted, started, -⟩ := tick_is_intake worker controller now executions
  rw [started, admitted, (Executions.intake_intaken executions tasks).started_eq]

/-- A tick whose listing fails ends with that error and has neither started nor changed anything.
Any other succeeds: it counts the volumes whose state is answered as that of an archived volume,
takes candidates of these alone, and leaves each of them admitted, busy or dropped. The slots taken
then are those taken before and one for each admitted task, whose execution has begun. -/
theorem tick_accounts_for_every_candidate (worker : Worker) (controller : Controller)
    (now : Instant) (executions : Executions) :
    let ticked := worker.tick controller now executions
    (∀ error, controller.answer (.volumes worker.primary) = .error error →
      ticked.value = (.error error, executions) ∧ ticked.events = []) ∧
    ∀ listed, controller.answer (.volumes worker.primary) = .ok listed →
      let archived := listed.filter fun volume =>
        controller.answer (.state worker.primary volume) = .ok "Archived"
      let candidates := (worker.candidates controller now archived).value
      ∃ report, ticked.value.1 = .ok report ∧
        report.volumes = archived.length ∧
        report.candidates = candidates.length ∧
        (∀ task ∈ candidates, task.volume ∈ archived) ∧
        (report.intake.admitted ++ report.intake.busy ++ report.intake.dropped).Perm candidates ∧
        report.candidates = report.intake.admitted.length + report.intake.busy.length +
          report.intake.dropped.length ∧
        ticked.value.2.slots.capacity = executions.slots.capacity ∧
        ticked.value.2.slots.taken =
          executions.slots.taken ++ report.intake.admitted.map (fun task => (task.volume, task)) ∧
        ticked.value.2.running =
          executions.running ++ report.intake.admitted.map (fun task => ⟨task, ⟨task.volume⟩⟩) ∧
        ticked.events.filterMap Event.started? = report.intake.admitted := by
  intro ticked
  constructor
  · intro error failed
    simp only [ticked, tick_of_listing_error failed, and_self]
  · intro listed listing archived candidates
    have volumes : (worker.archived controller listed).value = archived := value_archived listed
    have ran : ticked.value = _ := value_tick listing
    simp only [volumes] at ran
    have shared := GreedyIntake.intake_shared executions candidates
    have intaken := Executions.intake_intaken executions candidates
    have started : ticked.events.filterMap Event.started? = admittedIn ticked.value.1 :=
      started_tick
    rw [ran] at started
    refine ⟨_, congrArg Prod.fst ran, rfl, rfl, fun task => volume_mem_of_candidate,
      shared.perm_tasks, ?_, ?_, ?_, ?_, started⟩
    · rw [← List.length_append, ← List.length_append, shared.perm_tasks.length_eq]
    · rw [ran]
      exact intaken.capacity_eq
    · rw [ran]
      exact intaken.taken_eq
    · rw [ran]
      exact intaken.running_eq

/-- The resting archive when it cannot list its volumes. -/
def unlistedArchive : Controller where
  answer
    | .volumes server => .error (.unavailable server.name)
    | query => restingArchive.answer query

/-- The resting archive with volumes of which one is stopped and one is lost. -/
def mixedArchive : Controller where
  answer
    | .volumes _ => .ok ["volume", "stopped", "next", "lost", "last"]
    | .state server volume =>
      if volume = "stopped" then .ok "Stopped"
      else if volume = "lost" then .error (.unavailable server.name)
      else restingArchive.answer (.state server volume)
    | query => restingArchive.answer query

/-- With one of two slots taken, a tick that sees three archived volumes among five starts one task,
and a tick that sees none leaves the one that is running. -/
theorem tick_accounts_for_every_candidate_of_three :
    let now : Instant := .ofSeconds 100000
    let listed := ["volume", "stopped", "next", "lost", "last"]
    let archived := ["volume", "next", "last"]
    let apply (volume : String) := eagerWorker.task volume (.apply 12)
    let executions := (History.run eagerWorker [.tick restingArchive now]).executions
    let ticked := (eagerWorker.tick mixedArchive now executions).value
    unlistedArchive.answer (.volumes eagerWorker.primary) = .error (.unavailable "a0") ∧
      (eagerWorker.tick unlistedArchive now executions).value =
        (.error (.unavailable "a0"), executions) ∧
      mixedArchive.answer (.volumes eagerWorker.primary) = .ok listed ∧
      (listed.filter fun volume =>
        mixedArchive.answer (.state eagerWorker.primary volume) = .ok "Archived") = archived ∧
      ∃ report, ticked.1 = .ok report ∧ report.volumes = 3 ∧ report.candidates = 6 ∧
        report.intake.admitted = [apply "next"] ∧
        report.intake.busy.length + report.intake.dropped.length = 5 ∧
        ticked.2.slots.volumes = ["volume", "next"] := by
  intro now listed archived apply executions ticked
  have before : executions.slots.taken = [("volume", apply "volume")] := by decide
  obtain ⟨unlisted, -⟩ :=
    tick_accounts_for_every_candidate eagerWorker unlistedArchive now executions
  obtain ⟨-, accounts⟩ :=
    tick_accounts_for_every_candidate eagerWorker mixedArchive now executions
  obtain ⟨report, succeeded, counted, proposed, -, -, total, -, taken, -⟩ := accounts listed rfl
  have candidates : report.candidates = 6 := proposed.trans (by decide)
  have admitted : report.intake.admitted = [apply "next"] := by
    have begun : admittedIn ticked.1 = [apply "next"] := by decide
    simpa only [ticked, succeeded, admittedIn] using begun
  rw [admitted] at total taken
  rw [before] at taken
  have volumes : ticked.2.slots.volumes = ["volume", "next"] := by
    simp only [Slots.volumes, ticked, taken]
    rfl
  refine ⟨rfl, (unlisted (.unavailable "a0") rfl).1, rfl, by decide, report, succeeded,
    counted.trans (by decide), candidates, admitted, ?_, volumes⟩
  rw [candidates, List.length_singleton] at total
  omega

end ArchiveUpkeep.Worker
