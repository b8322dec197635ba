import ArchiveUpkeep.Proofs.FirstFailure

/-! What the selection for a volume faces, selector by selector: the hurdles that the answers and
the policies put in its way. Getting past them decides alone whether the volume has tasks, and then
it has all that were found; otherwise it has none, those included that were found on the way. -/
namespace ArchiveUpkeep

namespace Selecting
open Hurdle

/-- What a selection asks beside some queries that are left aside. -/
def asked {α : Type} (selection : Selecting α) (aside : List Query) : List Query :=
  selection.run.queries.filter fun query => query ∉ aside

/-- A selection gets past some hurdles, or it fails at one of them, and asks what is asked on the
way. -/
inductive Faces (worker : Worker) (controller : Controller) (now : Instant) (volume : String)
    (aside : List Query) {α : Type} (hurdles : List Hurdle) (selection : Selecting α) : Prop where
  | passes {a : α} (given : selection.run.value = .ok a)
      (course : Course worker controller now volume hurdles (selection.asked aside) none)
  | stops {error : SelectionError} (failed : selection.run.value = .error error)
      (course : Course worker controller now volume hurdles (selection.asked aside) (some error))

variable {worker : Worker} {controller : Controller} {now : Instant} {volume : String}
  {aside : List Query} {α β : Type} {hurdles more : List Hurdle} {query : Query}
  {diffs : List Diff} {error : SelectionError}

theorem asked_bind_of_ok {first : Selecting α} {next : α → Selecting β} {a : α}
    (given : first.run.value = .ok a) :
    (first >>= next).asked aside = first.asked aside ++ (next a).asked aside := by
  simp only [asked, queries_bind, given, List.filter_append]

theorem asked_bind_of_error {first : Selecting α} {next : α → Selecting β}
    (failed : first.run.value = .error error) :
    (first >>= next).asked aside = first.asked aside := by
  simp only [asked, queries_bind, failed, List.append_nil]

namespace Faces

theorem pure (a : α) : Faces worker controller now volume aside [] (Pure.pure a) :=
  .passes rfl .done

/-- What asks nothing but what is left aside faces nothing. -/
theorem lift {x : Traced α} (within : ∀ query ∈ x.queries, query ∈ aside) :
    Faces worker controller now volume aside [] (monadLift x) := by
  have none_asked : (monadLift x : Selecting α).asked aside = [] := by
    simpa [asked, List.filter_eq_nil_iff] using within
  exact .passes rfl (none_asked ▸ .done)

theorem require (beside : query ∉ aside) :
    Faces worker controller now volume aside [.ask query]
      (controller.require volume query) := by
  have asked_eq : (controller.require volume query).asked aside = (Hurdle.ask query).asks := by
    simp [asked, beside, asks]
  cases answer : controller.answer query with
  | ok found =>
    have passed : (Hurdle.ask query).Passed worker controller now volume :=
      passed_ask_iff.2 ⟨found, answer⟩
    refine .passes (require_eq_ok_iff.2 answer) ?_
    rw [asked_eq, ← List.append_nil (Hurdle.ask query).asks]
    exact .passed passed .done
  | error cause =>
    refine .stops (mapError_eq_error_iff.2 ⟨cause, answer, rfl⟩) ?_
    rw [asked_eq]
    exact .stopped (.unanswered answer)

theorem merge : Faces worker controller now volume aside [.merge diffs]
    (consistent volume (worker.config.merge.scope now diffs)) := by
  cases searched : worker.config.merge.scope now diffs with
  | ok found =>
    have passed : (Hurdle.merge diffs).Passed worker controller now volume := by
      intro error fails
      obtain ⟨cause, refused, -⟩ := fails_merge_iff.1 fails
      exact nomatch searched.symm.trans refused
    exact .passes rfl (.passed passed .done)
  | error cause => exact .stops rfl (.stopped (fails_merge_iff.2 ⟨cause, searched, rfl⟩))

theorem bind {first : Selecting α} {next : α → Selecting β}
    (head : Faces worker controller now volume aside hurdles first)
    (rest : ∀ a, first.run.value = .ok a → Faces worker controller now volume aside more (next a)) :
    Faces worker controller now volume aside (hurdles ++ more) (first >>= next) := by
  cases head with
  | passes given course =>
    cases rest _ given with
    | passes alsoGiven onward =>
      refine .passes (bind_eq_ok_iff.2 ⟨_, given, alsoGiven⟩) ?_
      rw [asked_bind_of_ok given]
      exact course.append onward
    | stops failed onward =>
      refine .stops (bind_eq_error_iff.2 (.inr ⟨_, given, failed⟩)) ?_
      rw [asked_bind_of_ok given]
      exact course.append onward
  | stops failed course =>
    refine .stops (bind_eq_error_iff.2 (.inl failed)) ?_
    rw [asked_bind_of_error failed]
    exact course.stopped_append

/-- A selection that goes on after an answer faces the query and then what it faces with it. -/
theorem ask {next : query.Answer → Selecting β} (beside : query ∉ aside)
    (rest : ∀ answer, controller.answer query = .ok answer →
      Faces worker controller now volume aside hurdles (next answer)) :
    Faces worker controller now volume aside (.ask query :: hurdles)
      (controller.require volume query >>= next) :=
  (require beside).bind fun answer given => rest answer (require_eq_ok_iff.1 given)

/-- A selection that faces nothing before it goes on faces what it does then. -/
theorem bind_nil {first : Selecting α} {next : α → Selecting β}
    (head : Faces worker controller now volume aside [] first)
    (rest : ∀ a, first.run.value = .ok a →
      Faces worker controller now volume aside hurdles (next a)) :
    Faces worker controller now volume aside hurdles (first >>= next) :=
  head.bind rest

theorem bind_pure {first : Selecting α} {next : α → β}
    (head : Faces worker controller now volume aside hurdles first) :
    Faces worker controller now volume aside hurdles (first >>= fun a => Pure.pure (next a)) :=
  List.append_nil hurdles ▸ head.bind fun a _ => pure (next a)

/-- What a selection asks and how it ends is told by the way past what it faces. -/
theorem exists_course {selection : Selecting α}
    (faces : Faces worker controller now volume aside hurdles selection) :
    ∃ failure, Course worker controller now volume hurdles (selection.asked aside) failure ∧
      ∀ error, selection.run.value = .error error ↔ failure = some error := by
  cases faces with
  | passes given course => exact ⟨none, course, by simp [given]⟩
  | stops failed course => exact ⟨some _, course, by simp [failed]⟩

theorem eq_error_iff {selection : Selecting α}
    (faces : Faces worker controller now volume aside hurdles selection) :
    selection.run.value = .error error ↔
      FirstFailure worker controller now volume hurdles error := by
  obtain ⟨failure, course, ends⟩ := faces.exists_course
  rw [ends, course.failure_eq_some_iff]

theorem unanswered_iff {selection : Selecting α}
    (faces : Faces worker controller now volume aside hurdles selection) :
    (∃ cause, selection.run.value = .error (.query volume cause)) ↔
      ∃ query ∈ selection.asked aside, ∃ cause, controller.answer query = .error cause := by
  obtain ⟨failure, course, ends⟩ := faces.exists_course
  simp only [ends, course.unanswered_iff]

end Faces

end Selecting

namespace Worker
open Selecting
variable (worker : Worker) (controller : Controller) (now : Instant) (volume : String)

/-- What a fresh apply has to get past, which is nothing unless it is enabled. The ids that it would
fold in are counted only once it has a target, and no target lies before the base. -/
def applyHurdles (state : MetaState) : List Hurdle :=
  if worker.config.apply.freshEnabled then
    .ask (.restorable worker.primary volume .all) ::
      match controller.answer (.restorable worker.primary volume .all) with
      | .error _ => []
      | .ok points =>
        match aimed : state.freshApplyTarget? points worker.config.apply.keepPeriod now with
        | none => []
        | some target =>
          let folded : GidRange :=
            ⟨state.base.lower, target, MetaState.lower_le_freshApplyTarget aimed⟩
          [.ask (.diffCount worker.primary volume folded),
            .ask (.diffSize worker.primary volume folded)]
  else []

/-- What a merge has to get past. The diffs are listed only if one is due. -/
def mergeHurdles : List Hurdle :=
  .ask (.diffCount worker.primary volume .all) :: .ask (.diffSize worker.primary volume .all) ::
    match controller.answer (.diffCount worker.primary volume .all),
      controller.answer (.diffSize worker.primary volume .all) with
    | .ok count, .ok size =>
      if worker.config.merge.due count size then
        .ask (.applicableDiffs worker.primary volume Gid.top) ::
          match controller.answer (.applicableDiffs worker.primary volume Gid.top) with
          | .error _ => []
          | .ok diffs => [.merge diffs]
      else []
    | _, _ => []

/-- What a cleanup has to get past. The diffs below its target are counted only once it has one. -/
def cleanupHurdles (state : MetaState) : List Hurdle :=
  .ask (.restorable worker.primary volume .all) ::
    match controller.answer (.restorable worker.primary volume .all) with
    | .error _ => []
    | .ok points =>
      match state.cleanupTarget? points worker.config.apply.keepPeriod now with
      | none => []
      | some target => [.ask (.diffCount worker.primary volume (.below target))]

/-- What the selection for a volume has to get past, in order. Beside an interrupted apply that is
only the reading of the base. -/
def hurdles : List Hurdle :=
  .ask (.base worker.primary volume) ::
    match controller.answer (.base worker.primary volume) with
    | .error _ => []
    | .ok state =>
      if state.isApplying then []
      else worker.applyHurdles controller now volume state ++
        (worker.mergeHurdles controller volume ++ worker.cleanupHurdles controller now volume state)

variable {worker controller now volume} {state : MetaState} {query : Query} {aside : List Query}

section Faces
variable (narrow : ∀ query ∈ aside, query.IsNarrow)
include narrow

theorem freshApply_faces :
    Faces worker controller now volume aside (worker.applyHurdles controller now volume state)
      (worker.freshApply controller volume state now) := by
  unfold freshApply applyHurdles
  dsimp only
  split
  · refine .ask (narrow _) fun points listing => ?_
    rw [listing]
    dsimp only
    split
    next missing =>
      simp only [missing]
      exact .pure none
    next target aimed =>
      simp only [aimed]
      have ordered : GidRange.between state.base.lower target = .ok ⟨_, _, _⟩ :=
        dif_pos (MetaState.lower_le_freshApplyTarget aimed)
      refine .bind_nil (.passes (consistent_eq_ok_iff.2 ordered) .done) fun folded given => ?_
      cases ordered.symm.trans (consistent_eq_ok_iff.1 given)
      refine .ask (narrow _) fun count _ => ?_
      exact (Faces.require (narrow _)).bind_pure
  · exact .pure none

theorem merge_faces :
    Faces worker controller now volume aside (worker.mergeHurdles controller volume)
      (worker.merge controller volume now) := by
  unfold merge mergeHurdles
  refine .ask (narrow _) fun count counted => ?_
  refine .ask (narrow _) fun size sized => ?_
  rw [counted, sized]
  dsimp only
  split
  · refine .ask (narrow _) fun diffs listing => ?_
    rw [listing]
    exact Faces.merge.bind_pure
  · exact .pure none

theorem cleanup_faces :
    Faces worker controller now volume aside (worker.cleanupHurdles controller now volume state)
      (worker.cleanup controller volume state now) := by
  unfold cleanup cleanupHurdles
  refine .ask (narrow _) fun points listing => ?_
  rw [listing]
  dsimp only
  cases aimed : state.cleanupTarget? points worker.config.apply.keepPeriod now with
  | none => exact .pure none
  | some target => exact (Faces.require (narrow _)).bind_pure

end Faces

/-- A replication goes by marked restore points alone, at the managed archive and at the targets. -/
theorem isNarrow_of_waiting {newest : RestorePoint} {targets : List Target}
    (asked : query ∈ (waiting controller volume newest now targets).queries) : query.IsNarrow := by
  induction targets with
  | nil => simp [waiting] at asked
  | cons target rest ih =>
    rw [waiting, Traced.bind_queries, Controller.ask_queries, List.mem_append,
      List.mem_singleton] at asked
    rcases asked with rfl | later
    · trivial
    · split at later
      · exact ih (by simpa using later)
      · rw [Traced.bind_queries, List.mem_append] at later
        rcases later with later | last
        · exact ih later
        · split at last <;> simp at last

theorem isNarrow_of_replication
    (asked : query ∈ (worker.replication controller volume now).queries) : query.IsNarrow := by
  unfold replication at asked
  split at asked
  · simp at asked
  · rw [Traced.bind_queries, Controller.ask_queries, List.mem_append, List.mem_singleton] at asked
    rcases asked with rfl | later
    · trivial
    · split at later
      · simp at later
      · split at later
        · simp at later
        · exact isNarrow_of_waiting (by simpa using later)

/-- Beside what its replication asks, a selection for a volume faces what its selectors face, one
after the other. -/
theorem proposals_faces :
    Faces worker controller now volume (worker.replication controller volume now).queries
      (worker.hurdles controller now volume) (worker.proposals controller now volume) := by
  have narrow : ∀ query ∈ (worker.replication controller volume now).queries, query.IsNarrow :=
    fun query => isNarrow_of_replication
  unfold proposals hurdles
  refine .ask (narrow _) fun state read => ?_
  rw [read, MetaState.resumeGid?]
  dsimp only
  split
  · refine .bind_nil (.lift (by simp)) fun _ _ => ?_
    exact (Faces.lift fun query => id).bind_pure
  · refine (freshApply_faces narrow).bind fun apply _ => ?_
    refine (merge_faces narrow).bind fun merge _ => ?_
    refine .bind_nil (.lift fun query => id) fun replication _ => ?_
    exact (cleanup_faces narrow).bind_pure

/-- The tasks are all that the selectors of a volume find, of which none fails. -/
def Selected (worker : Worker) (controller : Controller) (now : Instant) (volume : String)
    (tasks : List Task) : Prop :=
  ∃ state, controller.answer (.base worker.primary volume) = .ok state ∧
    ((state.isApplying ∧ tasks = worker.task volume (.apply state.base.lower) ::
        (worker.replication controller volume now).value.toList) ∨
      (¬ state.isApplying ∧ ∃ apply merge cleanup,
        (worker.freshApply controller volume state now).run.value = .ok apply ∧
        (worker.merge controller volume now).run.value = .ok merge ∧
        (worker.cleanup controller volume state now).run.value = .ok cleanup ∧
        tasks = apply.toList ++ merge.toList ++
          (worker.replication controller volume now).value.toList ++ cleanup.toList))

section Contribution
variable {tasks : List Task} {error : SelectionError} {before after : List String}

/-- A volume whose selection fails leaves no task behind. -/
theorem candidates_of_failed
    (failed : (worker.proposals controller now volume).run.value = .error error) :
    (worker.candidates controller now (before ++ volume :: after)).value =
      (worker.candidates controller now (before ++ after)).value := by
  have none_proposed : worker.proposed controller now volume = [] := by rw [proposed, failed]
  rw [value_candidates, value_candidates, List.flatMap_append, List.flatMap_cons, none_proposed,
    List.nil_append, List.flatMap_append]

/-- A volume whose selection succeeds adds all that is selected for it. -/
theorem candidates_of_made
    (made : (worker.proposals controller now volume).run.value = .ok tasks) :
    (worker.candidates controller now (before ++ volume :: after)).value.Perm
      (tasks ++ (worker.candidates controller now (before ++ after)).value) := by
  have all_proposed : worker.proposed controller now volume = tasks := by rw [proposed, made]
  rw [value_candidates, value_candidates, List.flatMap_append, List.flatMap_cons, all_proposed,
    List.flatMap_append]
  calc serviceOrder _
    _ |>.Perm _ := serviceOrder_perm _
    _ |>.Perm _ := List.perm_append_comm_assoc _ _ _
    _ |>.Perm _ := (serviceOrder_perm _).symm.append_left tasks

end Contribution

/-- The selection for a volume fails exactly at the first hurdle that it does not get past, and says
so: an unanswered query of its own is reported as such, and an inverted run of a merge that is due
as an inconsistency, which the range of a fresh apply never is. What fails leaves no task of the
volume behind, and otherwise all are there that its selectors have found. -/
theorem selection_is_all_or_nothing (worker : Worker) (controller : Controller) (now : Instant)
    (volume : String) :
    let selection := worker.proposals controller now volume
    let hurdles := worker.hurdles controller now volume
    let asked := selection.asked (worker.replication controller volume now).queries
    (∃ failure, Hurdle.Course worker controller now volume hurdles asked failure ∧
      ∀ error, selection.run.value = .error error ↔ failure = some error) ∧
    (∀ error, selection.run.value = .error error ↔
      Hurdle.FirstFailure worker controller now volume hurdles error) ∧
    ((∃ cause, selection.run.value = .error (.query volume cause)) ↔
      ∃ query ∈ asked, ∃ cause, controller.answer query = .error cause) ∧
    (∀ cause, selection.run.value = .error (.inconsistent volume cause) ↔
      ∃ before diffs after, hurdles = before ++ .merge diffs :: after ∧
        (∀ earlier ∈ before, earlier.Passed worker controller now volume) ∧
        ∃ lower upper, cause = .invertedRange lower upper ∧ upper < lower ∧
          MergePolicy.Leads (worker.config.merge.chosenRun now diffs) lower upper) ∧
    (∀ state error, (worker.freshApply controller volume state now).run.value = .error error →
      ∃ cause, error = .query volume cause) ∧
    (∀ error, selection.run.value = .error error → error.volume = volume ∧
      ∀ before after, (worker.candidates controller now (before ++ volume :: after)).value =
        (worker.candidates controller now (before ++ after)).value) ∧
    ∀ tasks, selection.run.value = .ok tasks →
      Selected worker controller now volume tasks ∧
      ∀ before after, (worker.candidates controller now (before ++ volume :: after)).value.Perm
        (tasks ++ (worker.candidates controller now (before ++ after)).value) := by
  intro selection hurdles asked
  have faces : Faces worker controller now volume (worker.replication controller volume now).queries
      hurdles selection := proposals_faces
  refine ⟨faces.exists_course, fun error => faces.eq_error_iff, faces.unanswered_iff,
    fun cause => ?_, fun state error failed => ?_, fun error failed => ⟨?_, fun before after => ?_⟩,
    fun tasks made => ⟨proposals_eq_ok_iff.1 made, fun before after => ?_⟩⟩
  · rw [faces.eq_error_iff]
    constructor
    · rintro ⟨before, _, after, shape, _ | ⟨leads, back⟩, passed⟩
      exact ⟨before, _, after, shape, passed, _, _, rfl, back, leads⟩
    · rintro ⟨before, diffs, after, shape, passed, lower, upper, rfl, back, leads⟩
      exact ⟨before, _, after, shape, .inverted leads back, passed⟩
  · obtain impossible | ⟨query, -, cause, -, rfl⟩ := freshApply_fails_only error failed
    · exact impossible.elim
    · exact ⟨cause, rfl⟩
  · obtain ⟨before, hurdle, after, -, fails, -⟩ := faces.eq_error_iff.1 failed
    exact fails.volume_eq
  · exact candidates_of_failed failed
  · exact candidates_of_made made

/-- The resting archive, except that below one restore point of one volume no diffs are counted, and
that another volume has many diffs, which lead back. -/
def brokenArchive : Controller where
  answer
    | .diffCount server volume range =>
      if volume = "uncounted" ∧ range.stop = 7 then .error (.unavailable server.name)
      else if volume = "backward" then .ok 21
      else restingArchive.answer (.diffCount server volume range)
    | .applicableDiffs server volume gid =>
      if volume = "backward" then
        .ok [MergePolicy.oneGeneration 5 60,
          { MergePolicy.oneGeneration 6 40 with result := .clean 2 }]
      else restingArchive.answer (.applicableDiffs server volume gid)
    | query => restingArchive.answer query

/-- An apply is found for both volumes before their selections fail, one at its last query and one
at its merge, and neither leaves a task. -/
theorem selection_is_all_or_nothing_when_broken :
    let now : Instant := .ofSeconds 100000
    let state : MetaState := { base := .clean 10 }
    let applying (volume : String) := eagerWorker.freshApply brokenArchive volume state now
    let selection := eagerWorker.proposals brokenArchive now
    let candidates (volumes : List String) :=
      (eagerWorker.candidates brokenArchive now volumes).value
    (∀ volume ∈ ["uncounted", "backward"],
      (applying volume).run.value = .ok (some (eagerWorker.task volume (.apply 12)))) ∧
      (selection "uncounted").run.value = .error (.query "uncounted" (.unavailable "a0")) ∧
      (selection "backward").run.value = .error (.inconsistent "backward" (.invertedRange 5 2)) ∧
      (∃ query ∈ (selection "uncounted").asked
          (eagerWorker.replication brokenArchive "uncounted" now).queries,
        ∃ cause, brokenArchive.answer query = .error cause) ∧
      (∃ before diffs after,
        eagerWorker.hurdles brokenArchive now "backward" = before ++ .merge diffs :: after) ∧
      candidates ["resting", "uncounted", "backward"] = candidates ["resting"] := by
  intro now state applying selection candidates
  have applied : ∀ volume ∈ ["uncounted", "backward"],
      (applying volume).run.value = .ok (some (eagerWorker.task volume (.apply 12))) := by decide
  have uncounted : (selection "uncounted").run.value =
      .error (.query "uncounted" (.unavailable "a0")) := by decide
  have backward : (selection "backward").run.value =
      .error (.inconsistent "backward" (.invertedRange 5 2)) := by decide
  obtain ⟨-, -, unanswered, -, -, leaves, -⟩ :=
    selection_is_all_or_nothing eagerWorker brokenArchive now "uncounted"
  obtain ⟨-, -, -, inverted, -, alsoLeaves, -⟩ :=
    selection_is_all_or_nothing eagerWorker brokenArchive now "backward"
  obtain ⟨before, diffs, after, faced, -⟩ := (inverted _).1 backward
  refine ⟨applied, uncounted, backward, unanswered.1 ⟨_, uncounted⟩,
    ⟨before, diffs, after, faced⟩, ?_⟩
  calc candidates ["resting", "uncounted", "backward"]
    _ = candidates ["resting", "backward"] := (leaves _ uncounted).2 ["resting"] ["backward"]
    _ = candidates ["resting"] := (alsoLeaves _ backward).2 ["resting"] []

end Worker

end ArchiveUpkeep
