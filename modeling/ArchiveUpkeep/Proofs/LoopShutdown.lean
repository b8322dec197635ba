import ArchiveUpkeep.Proofs.LoopMoves

/-! The shutdown of a loop, whatever moves lead up to it and whatever moves follow. The loop looks for
it between two ticks only, so a tick that is under way is carried through and is the last one. Ticks
that fail do not end the loop, and what is in flight when it ends finishes without it. -/
namespace ArchiveUpkeep.RunLoop

variable {worker : Worker} {loop : RunLoop} {move : Move} {moves : List Move}

section Effects
variable {next : RunLoop} (effect : Effect worker loop move next)
include effect

theorem Effect.told (told : loop.told) : next.told := by
  cases effect with
  | tells => rfl
  | _ => exact told

theorem Effect.begun_le : loop.begun ≤ next.begun := by
  cases effect with
  | begins => exact Nat.le_succ _
  | _ => exact Nat.le_refl _

/-- The ticks that have begun, and the one for which the loop may be looking already. -/
def reach (loop : RunLoop) : Nat := loop.begun + if loop.stage = .passing then 1 else 0

theorem Effect.reach_le (told : loop.told) : next.reach ≤ loop.reach := by
  cases effect with
  | passes _ untold => exact absurd told untold
  | begins passing => simp [reach, passing]
  | tells | comesDue | ends | idles | unasked => exact Nat.le_refl _
  | _ => exact Nat.le_add_right _ _

/-- Whatever happens around it, the loop stays where it is. -/
theorem Effect.stage_eq (around : move.IsGo = false) (apart : loop.stage ≠ .asking) :
    next.stage = loop.stage ∧ next.results = loop.results := by
  cases effect with
  | tells | comesDue | ends | unasked => exact ⟨rfl, rfl⟩
  | fails asking | lists asking => exact absurd asking apart
  | _ => cases around

/-- Without its answers a tick does not go on. -/
theorem Effect.asking (unanswered : ∀ controller now, move ≠ .answer controller now)
    (asking : loop.stage = .asking) : next.stage = .asking ∧ next.results = loop.results := by
  cases effect with
  | tells | comesDue | ends | idles => exact ⟨asking, rfl⟩
  | fails | lists | unasked => exact absurd rfl (unanswered _ _)
  | stops stage | passes stage | begins stage | waits stage | admits stage | skips stage
  | drops stage | finishes stage => cases asking.symm.trans stage

theorem Effect.stopped (stopped : loop.stage = .stopped) :
    next.stage = .stopped ∧ next.begun = loop.begun ∧ next.admitted = loop.admitted := by
  cases effect with
  | tells | comesDue | ends | idles | unasked => exact ⟨stopped, rfl, rfl⟩
  | stops stage | passes stage | begins stage | waits stage | fails stage | lists stage
  | admits stage | skips stage | drops stage | finishes stage => cases stopped.symm.trans stage

theorem Effect.ended_prefix : loop.ended <+: next.ended := by
  cases effect with
  | ends => exact List.prefix_append _ _
  | _ => exact List.prefix_refl _

/-- After the loop has ended, what is in flight is touched by ends alone. -/
theorem Effect.mem_running_iff (orderly : loop.executions.Orderly worker.capacity)
    (stopped : loop.stage = .stopped) {execution : Execution} :
    execution ∈ next.executions.running ↔
      execution ∈ loop.executions.running ∧
        ∀ outcome, move ≠ .ending execution.task.volume outcome := by
  cases effect with
  | ends volume outcome =>
    rw [orderly.running_ended, List.mem_filter, decide_eq_true_eq]
    refine and_congr_right fun _ => ⟨fun other outcome same => other ?_, fun other same => ?_⟩
    · exact (Move.ending.inj same).1.symm
    · exact other outcome (same ▸ rfl)
  | admits stage => cases stopped.symm.trans stage
  | _ => simp

/-- A dispatch goes on to its end: when the loop goes on, it either has no candidates left and its
report is the result of the tick, or it has fewer left and tells of the others. -/
theorem Effect.dispatching {report : TickReport} {left : List Task}
    (dispatching : loop.stage = .dispatching report left) (goes : move.IsGo) :
    (left = [] ∧ next.stage = .waiting ∧ next.results = loop.results ++ [.ok report]) ∨
      ∃ intake fewer, next.stage = .dispatching { report with intake } fewer ∧
        fewer.length < left.length ∧ next.results = loop.results ∧
        (intake.tasks ++ fewer).Perm (report.intake.tasks ++ left) := by
  -- what is told of grows by what is no longer left
  have grown {intake : IntakeReport} {fewer : List Task} (whole : intake.tasks ++ fewer = left) :
      ((report.intake.append intake).tasks ++ fewer).Perm (report.intake.tasks ++ left) := by
    rw [← whole, ← List.append_assoc]
    exact (IntakeReport.tasks_append_perm _ _).append_right _
  cases effect with
  | finishes stage =>
    obtain ⟨rfl, rfl⟩ := Stage.dispatching.inj (dispatching.symm.trans stage)
    exact .inl ⟨rfl, rfl, rfl⟩
  | admits stage | skips stage =>
    obtain ⟨rfl, rfl⟩ := Stage.dispatching.inj (dispatching.symm.trans stage)
    exact .inr ⟨_, _, rfl, Nat.lt_succ_self _, rfl, grown rfl⟩
  | drops stage =>
    obtain ⟨rfl, rfl⟩ := Stage.dispatching.inj (dispatching.symm.trans stage)
    exact .inr ⟨_, _, rfl, Nat.succ_pos _, rfl, grown (List.append_nil _)⟩
  | stops stage | passes stage | begins stage | waits stage => cases dispatching.symm.trans stage
  | idles away => rcases away with stage | stage <;> cases dispatching.symm.trans stage
  | _ => cases goes

end Effects

theorem begun_le_after (moves : List Move) : loop.begun ≤ (loop.after worker moves).begun :=
  after_keeps (P := fun later => loop.begun ≤ later.begun)
    (fun effect within => Nat.le_trans within effect.begun_le) (Nat.le_refl _) moves

theorem begun_after_le_reach (worker : Worker) (told : loop.told) (moves : List Move) :
    (loop.after worker moves).begun ≤ loop.reach := by
  have kept : (loop.after worker moves).told ∧ (loop.after worker moves).reach ≤ loop.reach :=
    after_keeps (P := fun later => later.told ∧ later.reach ≤ loop.reach)
      (fun effect ⟨told, within⟩ => ⟨effect.told told, Nat.le_trans (effect.reach_le told) within⟩)
      ⟨told, Nat.le_refl _⟩ moves
  exact Nat.le_trans (Nat.le_add_right _ _) kept.2

theorem begun_after_of_told (told : loop.told) (looked : loop.stage ≠ .passing)
    (moves : List Move) : (loop.after worker moves).begun = loop.begun := by
  have most := begun_after_le_reach worker told moves
  rw [reach, if_neg looked] at most
  exact Nat.le_antisymm most (begun_le_after moves)

theorem stopped_after (stopped : loop.stage = .stopped) (moves : List Move) :
    (loop.after worker moves).stage = .stopped :=
  after_keeps (P := fun later => later.stage = .stopped)
    (fun effect stopped => (effect.stopped stopped).1) stopped moves

/-- A loop that waits stops when it comes round after the worker was told. -/
theorem stopped_after_of_told (told : loop.told) (waiting : loop.stage = .waiting)
    (goes : ∃ move ∈ moves, move.IsGo) : (loop.after worker moves).stage = .stopped := by
  induction moves generalizing loop with
  | nil => simp at goes
  | cons move rest ih =>
    have effect := effect_step worker loop move
    cases go : move.IsGo with
    | false =>
      have unmoved := effect.stage_eq go (by simp [waiting])
      refine ih (effect.told told) (unmoved.1.trans waiting) ?_
      simpa [go] using goes
    | true =>
      have stopped : (loop.step worker move).stage = .stopped := by
        cases move with
        | go => simp [step, waiting, told]
        | _ => cases go
      exact stopped_after stopped rest

/-- How a loop heeds the shutdown. When it comes round after the worker was told, it stops, even if
a tick is due, and no tick begins any more: one that is under way is the last. If the worker is told
between the two looks of a loop that came round before, the tick it was looking for may begin. -/
structure HeedsShutdown (worker : Worker) (loop : RunLoop) : Prop where
  stops : loop.told → loop.stage = .waiting → ∀ moves, (∃ move ∈ moves, move.IsGo) →
    (loop.after worker moves).stage = .stopped
  none_begins : loop.told → loop.stage ≠ .passing → ∀ moves,
    (loop.after worker moves).begun = loop.begun
  one_at_most : loop.told → ∀ moves, (loop.after worker moves).begun ≤ loop.begun + 1

theorem heedsShutdown (worker : Worker) (loop : RunLoop) : HeedsShutdown worker loop where
  stops told waiting _ := stopped_after_of_told told waiting
  none_begins := begun_after_of_told
  one_at_most told moves := by
    have most := begun_after_le_reach worker told moves
    unfold reach at most
    split at most <;> omega

theorem after_of_asking (asking : loop.stage = .asking)
    (unanswered : ∀ controller now, Move.answer controller now ∉ moves) :
    (loop.after worker moves).stage = .asking ∧
      (loop.after worker moves).results = loop.results := by
  induction moves generalizing loop with
  | nil => exact ⟨asking, rfl⟩
  | cons move rest ih =>
    obtain ⟨stillAsking, sameResults⟩ := (effect_step worker loop move).asking
      (fun controller now same => unanswered controller now (same ▸ List.mem_cons_self)) asking
    have later := ih stillAsking fun controller now listed =>
      unanswered controller now (List.mem_cons_of_mem _ listed)
    rw [sameResults] at later
    exact later

theorem exists_dispatched {report : TickReport} {left : List Task}
    (dispatching : loop.stage = .dispatching report left)
    (enough : left.length < moves.countP Move.IsGo) :
    ∃ before later intake, moves = before ++ later ∧
      before.countP Move.IsGo ≤ left.length + 1 ∧
      (loop.after worker before).stage = .waiting ∧
      (loop.after worker before).results = loop.results ++ [.ok { report with intake }] ∧
      intake.tasks.Perm (report.intake.tasks ++ left) := by
  induction moves generalizing loop report left with
  | nil => simp at enough
  | cons move rest ih =>
    have effect := effect_step worker loop move
    cases go : move.IsGo with
    | false =>
      obtain ⟨sameStage, sameResults⟩ := effect.stage_eq go (by simp [dispatching])
      rw [List.countP_cons_of_neg (by simp [go])] at enough
      obtain ⟨before, later, intake, rfl, few, waiting, results, whole⟩ :=
        ih (sameStage.trans dispatching) enough
      rw [sameResults] at results
      exact ⟨move :: before, later, intake, rfl, by rwa [List.countP_cons_of_neg (by simp [go])],
        waiting, results, whole⟩
    | true =>
      rw [List.countP_cons_of_pos go] at enough
      rcases effect.dispatching dispatching go with
        ⟨rfl, waiting, results⟩ | ⟨intake, fewer, stillDispatching, less, sameResults, grown⟩
      · exact ⟨[move], rest, report.intake, rfl, List.countP_le_length, waiting, results, by simp⟩
      · obtain ⟨before, later, intake, rfl, few, waiting, results, whole⟩ :=
          ih stillDispatching (by omega)
        rw [sameResults] at results
        refine ⟨move :: before, later, intake, rfl, ?_, waiting, results, whole.trans grown⟩
        rw [List.countP_cons_of_pos go]
        omega

/-- A dispatch that nothing comes between is an intake. -/
theorem exists_intake (worker : Worker) {report : TickReport} {left : List Task}
    (dispatching : loop.stage = .dispatching report left) :
    let taken := (loop.executions.intake left).value
    ∃ gos, loop.after worker (List.replicate gos .go) = { loop with
      stage := .waiting
      results := loop.results ++ [.ok (report.add taken.1)]
      executions := taken.2
      admitted := loop.admitted ++ taken.1.admitted } := by
  induction left generalizing loop report with
  | nil =>
    refine ⟨1, ?_⟩
    simp [step, dispatching, Executions.intake, TickReport.add, IntakeReport.append]
  | cons task rest ih =>
    cases start : loop.executions.start task with
    | ok started =>
      let next : RunLoop := { loop with
        stage := .dispatching (report.add { admitted := [task] }) rest
        executions := started
        admitted := loop.admitted ++ [task] }
      have offered : loop.step worker .go = next := by simp [step, dispatching, offer, start, next]
      obtain ⟨gos, carried⟩ := ih (show next.stage = _ from rfl)
      refine ⟨gos + 1, ?_⟩
      rw [List.replicate_succ, after_cons, offered, carried, Executions.intake_cons_of_ok start]
      simp [next, TickReport.add, IntakeReport.append]
    | error refusal =>
      cases refusal with
      | volumeBusy =>
        let next : RunLoop := { loop with
          stage := .dispatching (report.add { busy := [task] }) rest }
        have offered : loop.step worker .go = next := by
          simp [step, dispatching, offer, start, next]
        obtain ⟨gos, carried⟩ := ih (show next.stage = _ from rfl)
        refine ⟨gos + 1, ?_⟩
        rw [List.replicate_succ, after_cons, offered, carried, Executions.intake_cons_of_busy start]
        simp [next, TickReport.add, IntakeReport.append]
      | full =>
        refine ⟨2, ?_⟩
        rw [Executions.intake_cons_of_full start]
        simp [step, dispatching, offer, start]

/-- A tick that nothing comes between, from its answers on, is a tick of the worker. -/
theorem exists_tick (worker : Worker) (asking : loop.stage = .asking) (controller : Controller)
    (now : Instant) :
    let ticked := (worker.tick controller now loop.executions).value
    ∃ gos, loop.after worker (.answer controller now :: List.replicate gos .go) = { loop with
      stage := .waiting
      results := loop.results ++ [ticked.1]
      executions := ticked.2
      admitted := loop.admitted ++ admittedIn ticked.1 } := by
  intro ticked
  cases answer : controller.answer (.volumes worker.primary) with
  | error error =>
    refine ⟨0, ?_⟩
    simp [step, asking, answer, ticked, Worker.tick_of_listing_error answer, admittedIn]
  | ok listed =>
    let next : RunLoop := { loop with stage := dispatch worker controller now listed }
    have answered : loop.step worker (.answer controller now) = next := by
      simp [step, asking, answer, next]
    obtain ⟨gos, carried⟩ := exists_intake worker (show next.stage = _ from rfl)
    refine ⟨gos, ?_⟩
    simp only [ticked, Worker.value_tick answer, admittedIn]
    rw [after_cons, answered, carried]
    simp [next, TickReport.add, IntakeReport.append]

/-- How a loop carries through its ticks. Each tick that has begun has a result, but for the one
under way, and what was admitted is what they tell of. The one under way waits for its answers,
whatever happens meanwhile. With a listing it dispatches, and when the loop has gone on once for
each candidate and once more, every candidate is admitted, busy or dropped and the loop waits again.
A tick that nothing comes between is a tick of the worker. -/
structure CarriesThrough (worker : Worker) (loop : RunLoop) : Prop where
  begun_eq : loop.begun = loop.results.length + loop.stage.UnderWay.toNat
  admitted_eq : loop.admitted = loop.results.flatMap admittedIn ++ loop.stage.admitted
  asks : loop.stage = .asking → ∀ meanwhile,
    (∀ controller now, Move.answer controller now ∉ meanwhile) →
    ∀ controller now listed, controller.answer (.volumes worker.primary) = .ok listed →
      let answered := loop.after worker (meanwhile ++ [.answer controller now])
      answered.stage = dispatch worker controller now listed ∧ answered.results = loop.results
  dispatches : ∀ report left, loop.stage = .dispatching report left → ∀ moves,
    left.length < moves.countP Move.IsGo → ∃ before later intake, moves = before ++ later ∧
      before.countP Move.IsGo ≤ left.length + 1 ∧
      let carried := loop.after worker before
      carried.stage = .waiting ∧
        carried.results = loop.results ++ [.ok { report with intake }] ∧
        intake.tasks.Perm (report.intake.tasks ++ left)
  undisturbed : loop.stage = .asking → ∀ controller now,
    let ticked := (worker.tick controller now loop.executions).value
    ∃ gos, loop.after worker (.answer controller now :: List.replicate gos .go) = { loop with
      stage := .waiting
      results := loop.results ++ [ticked.1]
      executions := ticked.2
      admitted := loop.admitted ++ admittedIn ticked.1 }

theorem Sound.carriesThrough (sound : loop.Sound worker) : CarriesThrough worker loop where
  begun_eq := sound.begun_eq
  admitted_eq := sound.admitted_eq
  asks asking meanwhile unanswered controller now listed listing := by
    intro answered
    obtain ⟨stillAsking, sameResults⟩ :
        (loop.after worker meanwhile).stage = .asking ∧
          (loop.after worker meanwhile).results = loop.results :=
      after_of_asking asking unanswered
    have answered_eq : answered = { loop.after worker meanwhile with
        stage := dispatch worker controller now listed } := by
      simp only [answered, after_append, after_cons, after_nil, step, stillAsking, listing]
    rw [answered_eq]
    exact ⟨rfl, sameResults⟩
  dispatches _ _ dispatching _ := exists_dispatched dispatching
  undisturbed := exists_tick worker

/-- A tick that fails leaves everything as it was. The loop goes on, and begins another tick when
the next one comes due. -/
def OutlivesFailures (worker : Worker) (loop : RunLoop) : Prop :=
  loop.stage = .asking → ∀ controller now error,
    controller.answer (.volumes worker.primary) = .error error →
    let failed := loop.step worker (.answer controller now)
    failed = { loop with stage := .waiting, results := loop.results ++ [.error error] } ∧
      (¬ loop.told → failed.after worker [.due, .go, .go] =
        { failed with stage := .asking, due := false, begun := loop.begun + 1 })

theorem outlivesFailures (worker : Worker) (loop : RunLoop) : OutlivesFailures worker loop := by
  intro asking controller now error refused failed
  have failed_eq :
      failed = { loop with stage := .waiting, results := loop.results ++ [.error error] } := by
    simp only [failed, step, asking, refused]
  refine ⟨failed_eq, fun untold => ?_⟩
  rw [failed_eq]
  simp [step, untold]

/-! Executions end after the loop as they did before. -/

theorem mem_running_after_iff (sound : loop.Sound worker) (stopped : loop.stage = .stopped)
    {execution : Execution} :
    execution ∈ (loop.after worker moves).executions.running ↔
      execution ∈ loop.executions.running ∧
        ∀ outcome, .ending execution.task.volume outcome ∉ moves := by
  induction moves generalizing loop with
  | nil => simp
  | cons move rest ih =>
    have effect := effect_step worker loop move
    rw [after_cons, ih (effect.sound sound) (effect.stopped stopped).1,
      effect.mem_running_iff sound.orderly stopped, and_assoc, ← forall_and]
    simp only [List.mem_cons, not_or, ne_eq, eq_comm]

/-- What becomes of a loop that has ended, and of what it left in flight. It stays ended and begins
nothing more. Whatever was in flight ends once, each end for itself and in any order, and what is
still in flight is what still holds a slot. -/
structure LetsFinish (loop : RunLoop) (moves : List Move) (later : RunLoop) : Prop where
  stopped : later.stage = .stopped
  begun_eq : later.begun = loop.begun
  ended_once : ∃ ended, later.ended = loop.ended ++ ended ∧
    (loop.executions.running.map Execution.task).Perm
      (ended.map Prod.fst ++ later.executions.running.map Execution.task)
  running_iff : ∀ execution, execution ∈ later.executions.running ↔
    execution ∈ loop.executions.running ∧
      ∀ outcome, .ending execution.task.volume outcome ∉ moves
  taken_eq : later.executions.slots.taken =
    later.executions.running.map fun execution => (execution.task.volume, execution.task)

theorem Sound.letsFinish (sound : loop.Sound worker) (stopped : loop.stage = .stopped)
    (moves : List Move) : LetsFinish loop moves (loop.after worker moves) := by
  have later : (loop.after worker moves).Sound worker :=
    after_keeps (fun effect sound => effect.sound sound) sound moves
  obtain ⟨stillStopped, sameBegun, sameAdmitted⟩ :
      (loop.after worker moves).stage = .stopped ∧
        (loop.after worker moves).begun = loop.begun ∧
        (loop.after worker moves).admitted = loop.admitted :=
    after_keeps (P := fun later => later.stage = .stopped ∧ later.begun = loop.begun ∧
        later.admitted = loop.admitted)
      (fun effect ⟨stopped, sameBegun, sameAdmitted⟩ =>
        have unmoved := effect.stopped stopped
        ⟨unmoved.1, unmoved.2.1.trans sameBegun, unmoved.2.2.trans sameAdmitted⟩)
      ⟨stopped, rfl, rfl⟩ moves
  obtain ⟨ended, grown⟩ : loop.ended <+: (loop.after worker moves).ended :=
    after_keeps (P := fun later => loop.ended <+: later.ended)
      (fun effect before => before.trans effect.ended_prefix) (List.prefix_refl _) moves
  refine ⟨stillStopped, sameBegun, ⟨ended, grown.symm, ?_⟩,
    fun _ => mem_running_after_iff sound stopped, later.orderly.taken_eq⟩
  -- both sides of the accounts have ended alike up to here
  have before := sound.admitted_perm
  have afterwards := later.admitted_perm
  rw [sameAdmitted, ← grown, List.map_append, List.append_assoc] at afterwards
  exact (List.perm_append_left_iff _).1 (before.symm.trans afterwards)

end ArchiveUpkeep.RunLoop
