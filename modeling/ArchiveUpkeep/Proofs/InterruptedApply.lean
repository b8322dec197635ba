import ArchiveUpkeep.Proofs.ServiceOrder

/-! An interrupted apply has left the base half way, and its diffs may not be touched until it is
through. So whatever else is known or not known of the volume, the apply is issued again at the same
base, and only a replication may run beside it. -/
namespace ArchiveUpkeep

/-- Of values that are empty but for one member, a list without repetitions yields just that one. -/
private theorem flatMap_eq_of_nodup {α β : Type} {f : α → List β} {a : α} {l : List α}
    (distinct : l.Nodup) (listed : a ∈ l) (elsewhere : ∀ b, b ≠ a → f b = []) :
    l.flatMap f = f a := by
  induction l with
  | nil => cases listed
  | cons head rest ih =>
    obtain ⟨fresh, restDistinct⟩ := List.nodup_cons.1 distinct
    rw [List.flatMap_cons]
    rcases List.mem_cons.1 listed with rfl | inRest
    · have others : rest.flatMap f = [] := by
        refine List.flatMap_eq_nil_iff.2 fun b found => elsewhere b ?_
        rintro rfl
        exact fresh found
      rw [others, List.append_nil]
    · have other : head ≠ a := by
        rintro rfl
        exact fresh inRest
      rw [elsewhere head other, List.nil_append, ih restDistinct inRest]

namespace Worker
variable {worker : Worker} {controller : Controller} {volume : String} {now : Instant}
  {volumes : List String} {state : MetaState}

/-- In a listing without repetitions the candidates of a volume are its proposals, as they are. -/
theorem filter_volume_candidates (distinct : volumes.Nodup) (listed : volume ∈ volumes) :
    (worker.candidates controller now volumes).value.filter (·.volume = volume) =
      worker.proposed controller now volume := by
  have own : (worker.proposed controller now volume).filter (·.volume = volume) =
      worker.proposed controller now volume := by
    refine List.filter_eq_self.2 fun task proposed => ?_
    exact decide_eq_true (volume_of_proposed proposed)
  have elsewhere (other : String) (different : other ≠ volume) :
      (worker.proposed controller now other).filter (·.volume = volume) = [] := by
    refine List.filter_eq_nil_iff.2 fun task proposed same => different ?_
    exact (volume_of_proposed proposed).symm.trans (of_decide_eq_true same)
  rw [value_candidates, filter_serviceOrder, List.filter_flatMap,
    flatMap_eq_of_nodup distinct listed elsewhere, own]
  exact serviceOrder_eq_self proposed_ascending

/-- Once the base is read as interrupted, no further query can fail the volume. -/
theorem proposed_of_interrupted
    (read : controller.answer (.base worker.primary volume) = .ok state)
    (interrupted : state.isApplying) :
    worker.proposed controller now volume =
      worker.task volume (.apply state.base.lower) ::
        (worker.replication controller volume now).value.toList := by
  have made : (worker.proposals controller now volume).run.value =
      .ok (worker.task volume (.apply state.base.lower) ::
        (worker.replication controller volume now).value.toList) :=
    proposals_eq_ok_iff.2 ⟨state, read, .inl ⟨interrupted, rfl⟩⟩
  rw [proposed, made]

/-- A volume whose apply was interrupted has that apply as its task, at the lower end of its base,
and besides it at most a replication, whatever the controller answers to every other query. -/
theorem interrupted_apply_is_resumed (worker : Worker) (controller : Controller) (now : Instant)
    (volumes : List String) (volume : String) (state : MetaState)
    (distinct : volumes.Nodup) (listed : volume ∈ volumes)
    (read : controller.answer (.base worker.primary volume) = .ok state)
    (interrupted : state.isApplying) :
    let own := (worker.candidates controller now volumes).value.filter (·.volume = volume)
    (∃ replication : Option Task,
      own = worker.task volume (.apply state.base.lower) :: replication.toList ∧
        ∀ task, replication = some task → task.kind = .replicate) ∧
      ∀ task ∈ own, task.kind ≠ .merge ∧ task.kind ≠ .cleanup ∧
        ∀ gid, task.action = .apply gid → gid = state.base.lower := by
  intro own
  have proposals : own = worker.task volume (.apply state.base.lower) ::
      (worker.replication controller volume now).value.toList := by
    rw [← proposed_of_interrupted read interrupted]
    exact filter_volume_candidates distinct listed
  refine ⟨⟨_, proposals, fun task found => kind_of_replication found⟩, ?_⟩
  intro task found
  rw [proposals, List.mem_cons, Option.mem_toList] at found
  rcases found with rfl | replicated
  · refine ⟨nofun, nofun, fun gid same => ?_⟩
    exact (Action.apply.inj same).symm
  · obtain ⟨target, rfl⟩ := eq_of_replication_eq_some replicated
    exact ⟨nofun, nofun, fun gid same => nomatch same⟩

/-- No query about the diffs of the stalled volume is answered, and still its apply is resumed and
its replication goes on. -/
theorem interrupted_apply_is_resumed_in_trouble :
    let volumes := ["resting", "lost", "stalled"]
    let now : Instant := .ofSeconds 100000
    let own := (eagerWorker.candidates troubledArchive now volumes).value.filter
      (·.volume = "stalled")
    volumes.Nodup ∧ own = [eagerWorker.task "stalled" (.apply 10), mirroring "stalled"] ∧
      (∃ replication : Option Task,
        own = eagerWorker.task "stalled" (.apply 10) :: replication.toList ∧
          ∀ task, replication = some task → task.kind = .replicate) ∧
      ∀ task ∈ own, task.kind ≠ .merge ∧ task.kind ≠ .cleanup ∧
        ∀ gid, task.action = .apply gid → gid = 10 := by
  intro volumes now own
  have distinct : volumes.Nodup := by decide
  have listed : own = [eagerWorker.task "stalled" (.apply 10), mirroring "stalled"] := by decide
  refine ⟨distinct, listed, ?_⟩
  exact interrupted_apply_is_resumed eagerWorker troubledArchive now volumes "stalled"
    { base := .clean 10, applying := some (.clean 12), applying_beyond := by decide }
    distinct (by decide) rfl rfl

end Worker

end ArchiveUpkeep
