import ArchiveUpkeep.Task

/-! The slots of running tasks: at most one task per volume, and at most as many in all as there are
slots. A task that is admitted gets its slot as a value, and whoever holds that gives it back by
releasing it. -/
namespace ArchiveUpkeep

/-- Why a task was not admitted. -/
inductive Refusal where
  /-- Every slot is taken. -/
  | full
  /-- A task of the same volume is running. -/
  | volumeBusy
deriving DecidableEq, Repr

/-- A slot that is held for a task of a volume. -/
structure Slot where
  volume : String
deriving DecidableEq, Repr

/-- The slots and what runs in them, by volume. -/
structure Slots where
  capacity : Nat
  taken : List (String × Task) := []
  distinct : (taken.map Prod.fst).Nodup := by simp

namespace Slots

/-- The volumes that have a running task. -/
def volumes (slots : Slots) : List String := slots.taken.map Prod.fst

theorem nodup_volumes (slots : Slots) : slots.volumes.Nodup := slots.distinct

/-- The running tasks, in the order in which they were admitted. -/
def tasks (slots : Slots) : List Task := slots.taken.map Prod.snd

/-- The number of running tasks. -/
def count (slots : Slots) : Nat := slots.taken.length

/-- The number of free slots. -/
def available (slots : Slots) : Nat := slots.capacity - slots.count

/-- Whether a task of the volume is running. -/
abbrev IsRunning (slots : Slots) (volume : String) : Prop := volume ∈ slots.volumes

/-- The running tasks as texts, sorted. -/
def listing (slots : Slots) : List String :=
  (slots.tasks.map toString).mergeSort

instance : ToString Slots where
  toString slots := s!"TaskRegistry \x7b capacity: {slots.capacity}, running: {slots.count} \x7d"

/-- Takes a slot for a task. A busy volume is refused as such even if all slots are taken. -/
def occupy (slots : Slots) (task : Task) : Except Refusal (Slot × Slots) :=
  if busy : slots.IsRunning task.volume then .error .volumeBusy
  else if slots.capacity ≤ slots.count then .error .full
  else .ok (⟨task.volume⟩,
    { capacity := slots.capacity
      taken := slots.taken ++ [(task.volume, task)]
      distinct := by
        rw [List.map_append, List.nodup_append]
        refine ⟨slots.distinct, by simp, fun volume found other single same => busy ?_⟩
        have : other = task.volume := by simpa using single
        exact this ▸ same ▸ found })

/-- Gives a slot back. -/
def release (slots : Slots) (slot : Slot) : Slots :=
  { capacity := slots.capacity
    taken := slots.taken.filter (·.1 ≠ slot.volume)
    distinct := slots.distinct.sublist (List.filter_sublist.map Prod.fst) }

@[simp] theorem capacity_release (slots : Slots) (slot : Slot) :
    (slots.release slot).capacity = slots.capacity := rfl

@[simp] theorem volumes_release (slots : Slots) (slot : Slot) :
    (slots.release slot).volumes = slots.volumes.filter (· ≠ slot.volume) := by
  simp [volumes, release, List.filter_map, Function.comp_def]

variable {slots after : Slots} {task : Task} {slot : Slot}

theorem occupy_eq_volumeBusy_iff :
    slots.occupy task = .error .volumeBusy ↔ slots.IsRunning task.volume := by
  unfold occupy
  split
  next busy => exact ⟨fun _ => busy, fun _ => rfl⟩
  next idle =>
    refine ⟨fun refused => ?_, fun busy => absurd busy idle⟩
    split at refused <;> cases refused

theorem occupy_eq_full_iff :
    slots.occupy task = .error .full ↔
      ¬ slots.IsRunning task.volume ∧ slots.capacity ≤ slots.count := by
  unfold occupy
  split
  next busy => exact ⟨fun refused => (by cases refused), fun ⟨idle, _⟩ => absurd busy idle⟩
  next idle =>
    split
    next full => exact ⟨fun _ => ⟨idle, full⟩, fun _ => rfl⟩
    next room => exact ⟨fun refused => (by cases refused), fun ⟨_, full⟩ => absurd full room⟩

theorem occupy_eq_ok_iff :
    slots.occupy task = .ok (slot, after) ↔
      (¬ slots.IsRunning task.volume ∧ slots.count < slots.capacity) ∧ slot = ⟨task.volume⟩ ∧
        after.capacity = slots.capacity ∧ after.taken = slots.taken ++ [(task.volume, task)] := by
  unfold occupy
  split
  next busy => exact ⟨fun taken => (by cases taken), fun ⟨⟨idle, _⟩, _⟩ => absurd busy idle⟩
  next idle =>
    split
    next full =>
      exact ⟨fun taken => (by cases taken), fun ⟨⟨_, room⟩, _⟩ => absurd full (Nat.not_le.2 room)⟩
    next room =>
      constructor
      · intro taken
        cases taken
        exact ⟨⟨idle, Nat.not_le.1 room⟩, rfl, rfl, rfl⟩
      · rintro ⟨_, rfl, sameCapacity, sameTaken⟩
        cases after
        subst sameCapacity sameTaken
        rfl

end Slots

end ArchiveUpkeep
