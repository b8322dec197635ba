import ArchiveUpkeep.Worker.Holders
import Mathlib.Data.List.Nodup

/-! Slots are given back by volume, and nothing in a slot says which admission granted it. That
giving one back still ends its own admission and no other is a property of all runs: the entries
and the slots that are held stand for the same admissions, in the same order. -/
namespace ArchiveUpkeep.SlotTenure

/-- What a holder does. -/
inductive Turn where
  | occupy (holder : String) (task : Task)
  | release (holder : String)

/-- An entry of the slots, with the number of the admission that made it. -/
structure Entry where
  admission : Nat
  volume : String
  task : Task

/-- A slot that is held, with the number of the admission that granted it. -/
structure Tenure where
  admission : Nat
  holder : String
  slot : Slot

/-- Holders whose admissions are numbered. No turn looks at a number, so the holders fare as they
do without them. -/
structure Register where
  holders : Holders
  granted : Nat := 0
  entries : List Entry := []
  tenures : List Tenure := []

namespace Register

/-- A refusal and a release by someone who holds nothing change nothing. An entry keeps its number
for as long as its volume has a running task. -/
def turn (register : Register) : Turn → Register
  | .occupy holder task =>
    match register.holders.occupy holder task with
    | .ok (slot, holders) =>
      { holders
        granted := register.granted + 1
        entries := register.entries ++ [⟨register.granted, task.volume, task⟩]
        tenures := register.tenures ++ [⟨register.granted, holder, slot⟩] }
    | .error _ => register
  | .release holder =>
    match register.holders.release? holder with
    | some holders =>
      { register with
        holders
        entries := register.entries.filter fun entry => holders.slots.IsRunning entry.volume
        tenures := register.tenures.eraseP fun tenure => tenure.holder = holder }
    | none => register

/-- The register of slots that are all free. -/
def free (capacity : Nat) : Register :=
  { holders := { slots := { capacity, taken := [], distinct := List.nodup_nil } } }

/-- The register after some turns, of slots that were all free. -/
def run (capacity : Nat) (turns : List Turn) : Register := turns.foldl turn (free capacity)

/-- The slot that a holder gives back next. -/
def tenure? (register : Register) (holder : String) : Option Tenure :=
  register.tenures.find? fun tenure => tenure.holder = holder

/-- The entries and the tenures stand for what is taken and held, and for the same admissions. -/
structure Balanced (capacity : Nat) (register : Register) : Prop where
  capacity_eq : register.holders.slots.capacity = capacity
  count_le : register.holders.slots.count ≤ capacity
  taken_eq : register.holders.slots.taken =
    register.entries.map fun entry => (entry.volume, entry.task)
  held_eq : register.holders.held =
    register.tenures.map fun tenure => (tenure.holder, tenure.slot)
  keyed : ∀ entry ∈ register.entries, entry.volume = entry.task.volume
  paired : register.entries.map (fun entry => (entry.admission, entry.volume)) =
    register.tenures.map fun tenure => (tenure.admission, tenure.slot.volume)
  granted_above : ∀ entry ∈ register.entries, entry.admission < register.granted
  numbered : (register.entries.map Entry.admission).Nodup

end Register

variable {capacity : Nat} {register : Register} {holder : String} {task : Task}

theorem occupy_eq_ok_iff {holders after : Holders} {slot : Slot} :
    holders.occupy holder task = .ok (slot, after) ↔
      ∃ slots, holders.slots.occupy task = .ok (slot, slots) ∧
        after = { slots, held := holders.held ++ [(holder, slot)] } := by
  unfold Holders.occupy
  cases holders.slots.occupy task with
  | error refusal => simp [Except.map]
  | ok granted =>
    obtain ⟨slot, slots⟩ := granted
    simp only [Except.map, Except.ok.injEq, Prod.mk.injEq]
    constructor
    · rintro ⟨rfl, rfl⟩
      exact ⟨slots, ⟨rfl, rfl⟩, rfl⟩
    · rintro ⟨_, ⟨rfl, rfl⟩, rfl⟩
      exact ⟨rfl, rfl⟩

theorem occupy_eq_error_iff {holders : Holders} {refusal : Refusal} :
    holders.occupy holder task = .error refusal ↔ holders.slots.occupy task = .error refusal := by
  unfold Holders.occupy
  cases holders.slots.occupy task <;> simp [Except.map]

/-- In a list whose values under `f` are distinct, dropping the first match drops its value. -/
private theorem eraseP_eq_filter_of_nodup {α β : Type} [DecidableEq β] {p : α → Bool} {f : α → β}
    {a : α} {l : List α} (distinct : (l.map f).Nodup) (found : l.find? p = some a) :
    l.eraseP p = l.filter fun other => f other ≠ f a := by
  induction l with
  | nil => cases found
  | cons head rest ih =>
    obtain ⟨fresh, restDistinct⟩ := List.nodup_cons.1 distinct
    by_cases hit : p head = true
    · have same : head = a := by simpa [hit] using found
      subst same
      have others : rest.filter (fun other => f other ≠ f head) = rest := by
        refine List.filter_eq_self.2 fun other inRest => ?_
        have : f other ≠ f head := fun same => fresh (List.mem_map.2 ⟨other, inRest, same⟩)
        simpa using this
      rw [List.eraseP_cons_of_pos hit, List.filter_cons_of_neg (by simp), others]
    · have later : rest.find? p = some a := by simpa [hit] using found
      have other : f head ≠ f a := fun same =>
        fresh (List.mem_map.2 ⟨a, List.mem_of_find?_eq_some later, same.symm⟩)
      rw [List.eraseP_cons_of_neg hit, List.filter_cons_of_pos (by simpa using other),
        ih restDistinct later]

namespace Register.Balanced

theorem initial : (free capacity).Balanced capacity where
  capacity_eq := rfl
  count_le := Nat.zero_le _
  taken_eq := rfl
  held_eq := rfl
  keyed := by simp [free]
  paired := rfl
  granted_above := by simp [free]
  numbered := by simp [free]

variable (balanced : register.Balanced capacity)
include balanced

theorem volumes_eq : register.holders.slots.volumes = register.entries.map Entry.volume := by
  simp [Slots.volumes, balanced.taken_eq, Function.comp_def]

theorem held_volumes_eq :
    register.tenures.map (fun tenure => tenure.slot.volume) = register.holders.slots.volumes := by
  have paired := congrArg (List.map Prod.snd) balanced.paired
  rw [balanced.volumes_eq]
  simpa [Function.comp_def] using paired.symm

/-- The entry that a tenure's own admission made. -/
theorem exists_entry {tenure : Tenure} (held : tenure ∈ register.tenures) :
    ∃ entry ∈ register.entries,
      entry.admission = tenure.admission ∧ entry.volume = tenure.slot.volume := by
  have inPairs : (tenure.admission, tenure.slot.volume) ∈
      register.entries.map fun entry => (entry.admission, entry.volume) := by
    rw [balanced.paired]
    exact List.mem_map_of_mem held
  obtain ⟨entry, taken, same⟩ := List.mem_map.1 inPairs
  obtain ⟨sameAdmission, sameVolume⟩ := Prod.mk.inj same
  exact ⟨entry, taken, sameAdmission, sameVolume⟩

/-- An entry is of the volume of a tenure exactly if it is of the admission of that tenure. -/
theorem volume_eq_iff {entry : Entry} {tenure : Tenure} (taken : entry ∈ register.entries)
    (held : tenure ∈ register.tenures) :
    entry.volume = tenure.slot.volume ↔ entry.admission = tenure.admission := by
  obtain ⟨own, ownTaken, sameAdmission, sameVolume⟩ := balanced.exists_entry held
  have distinct : (register.entries.map Entry.volume).Nodup :=
    balanced.volumes_eq ▸ register.holders.slots.nodup_volumes
  rw [← sameAdmission, ← sameVolume]
  constructor
  · intro same
    rw [List.inj_on_of_nodup_map distinct taken ownTaken same]
  · intro same
    rw [List.inj_on_of_nodup_map balanced.numbered taken ownTaken same]

theorem slot?_eq : register.holders.slot? holder = (register.tenure? holder).map Tenure.slot := by
  rw [Holders.slot?, Register.tenure?, balanced.held_eq]
  induction register.tenures with
  | nil => rfl
  | cons tenure rest ih =>
    by_cases same : tenure.holder = holder
    · simp [same]
    · have other : (holder == tenure.holder) = false := by simpa using Ne.symm same
      simp [List.lookup_cons, other, same, ih]

theorem release?_eq :
    register.holders.release? holder = (register.tenure? holder).map fun tenure =>
      { slots := register.holders.slots.release tenure.slot
        held := register.holders.held.eraseP fun entry => entry.1 = holder } := by
  rw [Holders.release?, balanced.slot?_eq, Option.map_map]
  rfl

theorem nodup_tenure_admissions : (register.tenures.map Tenure.admission).Nodup := by
  have paired := congrArg (List.map Prod.fst) balanced.paired
  have same : register.entries.map Entry.admission = register.tenures.map Tenure.admission := by
    simpa [Function.comp_def] using paired
  exact same ▸ balanced.numbered

/-- What a release leaves: everything but what belongs to the admission of the tenure. -/
theorem turn_release_eq {tenure : Tenure} (found : register.tenure? holder = some tenure) :
    register.turn (.release holder) =
      { register with
        holders :=
          { slots := register.holders.slots.release tenure.slot
            held := register.holders.held.eraseP fun entry => entry.1 = holder }
        entries := register.entries.filter fun entry => entry.admission ≠ tenure.admission
        tenures := register.tenures.filter fun other => other.admission ≠ tenure.admission } := by
  have held : tenure ∈ register.tenures := List.mem_of_find?_eq_some found
  have entriesLeft : register.entries.filter (fun entry =>
        (register.holders.slots.release tenure.slot).IsRunning entry.volume) =
      register.entries.filter fun entry => entry.admission ≠ tenure.admission := by
    refine List.filter_congr fun entry taken => ?_
    have running : entry.volume ∈ register.holders.slots.volumes := by
      rw [balanced.volumes_eq]
      exact List.mem_map_of_mem taken
    simp [Slots.IsRunning, running, ← balanced.volume_eq_iff taken held]
  have tenuresLeft : register.tenures.eraseP (fun other => other.holder = holder) =
      register.tenures.filter fun other => other.admission ≠ tenure.admission :=
    eraseP_eq_filter_of_nodup balanced.nodup_tenure_admissions found
  simp only [Register.turn, balanced.release?_eq, found, Option.map_some, entriesLeft, tenuresLeft]

theorem taken_release_eq {tenure : Tenure} (held : tenure ∈ register.tenures) :
    (register.holders.slots.release tenure.slot).taken =
      (register.entries.filter fun entry => entry.admission ≠ tenure.admission).map
        fun entry => (entry.volume, entry.task) := by
  have same : register.entries.filter (fun entry => entry.volume ≠ tenure.slot.volume) =
      register.entries.filter fun entry => entry.admission ≠ tenure.admission :=
    List.filter_congr fun entry taken => by simp [balanced.volume_eq_iff taken held]
  rw [← same]
  simp [Slots.release, balanced.taken_eq, List.filter_map, Function.comp_def]

theorem held_release_eq {tenure : Tenure} (found : register.tenure? holder = some tenure) :
    register.holders.held.eraseP (fun entry => entry.1 = holder) =
      (register.tenures.filter fun other => other.admission ≠ tenure.admission).map
        fun other => (other.holder, other.slot) := by
  rw [← eraseP_eq_filter_of_nodup balanced.nodup_tenure_admissions found, balanced.held_eq,
    List.eraseP_map]
  rfl

theorem paired_release_eq (admission : Nat) :
    (register.entries.filter fun entry => entry.admission ≠ admission).map
        (fun entry => (entry.admission, entry.volume)) =
      (register.tenures.filter fun other => other.admission ≠ admission).map
        fun other => (other.admission, other.slot.volume) := by
  have paired := congrArg (List.filter fun pair => pair.1 ≠ admission) balanced.paired
  simpa [List.filter_map, Function.comp_def] using paired

theorem turn_release : (register.turn (.release holder)).Balanced capacity := by
  cases found : register.tenure? holder with
  | none =>
    have unchanged : register.turn (.release holder) = register := by
      simp [Register.turn, balanced.release?_eq, found]
    rw [unchanged]
    exact balanced
  | some tenure =>
    have held : tenure ∈ register.tenures := List.mem_of_find?_eq_some found
    rw [balanced.turn_release_eq found]
    have left {entry : Entry} (inside : entry ∈ register.entries.filter fun entry =>
        entry.admission ≠ tenure.admission) : entry ∈ register.entries :=
      List.mem_of_mem_filter inside
    exact
      { capacity_eq := balanced.capacity_eq
        count_le := Nat.le_trans (List.length_filter_le _ _) balanced.count_le
        taken_eq := balanced.taken_release_eq held
        held_eq := balanced.held_release_eq found
        keyed := fun entry inside => balanced.keyed entry (left inside)
        paired := balanced.paired_release_eq tenure.admission
        granted_above := fun entry inside => balanced.granted_above entry (left inside)
        numbered := balanced.numbered.sublist (List.filter_sublist.map _) }

theorem turn_occupy : (register.turn (.occupy holder task)).Balanced capacity := by
  cases result : register.holders.occupy holder task with
  | error refusal =>
    have unchanged : register.turn (.occupy holder task) = register := by
      simp [Register.turn, result]
    rw [unchanged]
    exact balanced
  | ok granted =>
    obtain ⟨slot, after⟩ := granted
    obtain ⟨slots, occupied, rfl⟩ := occupy_eq_ok_iff.1 result
    obtain ⟨⟨_, room⟩, rfl, sameCapacity, taken⟩ := Slots.occupy_eq_ok_iff.1 occupied
    have fresh : register.granted ∉ register.entries.map Entry.admission := by
      intro old
      obtain ⟨entry, inside, same⟩ := List.mem_map.1 old
      exact absurd (balanced.granted_above entry inside) (by omega)
    simp only [Register.turn, result]
    exact
      { capacity_eq := sameCapacity.trans balanced.capacity_eq
        count_le := by
          have room := balanced.capacity_eq ▸ room
          simp only [Slots.count, taken, List.length_append, List.length_singleton] at room ⊢
          omega
        taken_eq := by simp [taken, balanced.taken_eq]
        held_eq := by simp [balanced.held_eq]
        keyed := by
          simp only [List.mem_append, List.mem_singleton]
          rintro entry (inside | rfl)
          · exact balanced.keyed entry inside
          · rfl
        paired := by simp [balanced.paired]
        granted_above := by
          simp only [List.mem_append, List.mem_singleton]
          rintro entry (inside | rfl)
          · exact Nat.lt_succ_of_lt (balanced.granted_above entry inside)
          · exact Nat.lt_succ_self _
        numbered := by
          rw [List.map_append]
          exact balanced.numbered.append (List.nodup_singleton _) (by simpa using fresh) }

end Register.Balanced

/-- Every register that some turns lead to is balanced. -/
theorem run_balanced (capacity : Nat) (turns : List Turn) :
    (Register.run capacity turns).Balanced capacity := by
  have carried (register : Register) (balanced : register.Balanced capacity) :
      (turns.foldl Register.turn register).Balanced capacity := by
    induction turns generalizing register with
    | nil => exact balanced
    | cons turn rest ih =>
      cases turn with
      | occupy holder task => exact ih _ balanced.turn_occupy
      | release holder => exact ih _ balanced.turn_release
  exact carried _ .initial

/-- The slots are taken exactly as they are held, within their capacity. -/
structure Faithful (capacity : Nat) (holders : Holders) : Prop where
  count_le : holders.slots.count ≤ capacity
  available_add_count : holders.slots.available + holders.slots.count = capacity
  keyed : ∀ entry ∈ holders.slots.taken, entry.1 = entry.2.volume
  distinct : (holders.held.map fun entry => entry.2.volume).Nodup
  held_iff_running : ∀ volume,
    volume ∈ holders.held.map (fun entry => entry.2.volume) ↔ holders.slots.IsRunning volume

/-- A release takes the entry that its own admission made, and leaves every other entry and every
other tenure as it is. -/
structure ReleasesOwnEntry (register : Register) : Prop where
  taken_eq : register.holders.slots.taken =
    register.entries.map fun entry => (entry.volume, entry.task)
  held_eq : register.holders.held =
    register.tenures.map fun tenure => (tenure.holder, tenure.slot)
  numbered : (register.entries.map Entry.admission).Nodup
  released : ∀ holder tenure, register.tenure? holder = some tenure →
    (∃ entry ∈ register.entries, entry.admission = tenure.admission) ∧
      ∃ after, register.holders.release? holder = some after ∧
        after.slots.taken =
          (register.entries.filter fun entry => entry.admission ≠ tenure.admission).map
            (fun entry => (entry.volume, entry.task)) ∧
        after.held =
          (register.tenures.filter fun other => other.admission ≠ tenure.admission).map
            fun other => (other.holder, other.slot)

/-- A refusal says why there is no slot, and leaves everything as it is. -/
structure RefusesWithReason (capacity : Nat) (register : Register) : Prop where
  unchanged : ∀ holder task refusal, register.holders.occupy holder task = .error refusal →
    register.turn (.occupy holder task) = register
  volumeBusy_iff : ∀ holder task, register.holders.occupy holder task = .error .volumeBusy ↔
    register.holders.slots.IsRunning task.volume
  full_iff : ∀ holder task, register.holders.occupy holder task = .error .full ↔
    ¬ register.holders.slots.IsRunning task.volume ∧ register.holders.slots.count = capacity

namespace Register.Balanced
variable (balanced : register.Balanced capacity)
include balanced

theorem faithful : Faithful capacity register.holders := by
  have held_eq : register.holders.held.map (fun entry => entry.2.volume) =
      register.holders.slots.volumes := by
    rw [← balanced.held_volumes_eq, balanced.held_eq]
    simp [Function.comp_def]
  exact
    { count_le := balanced.count_le
      available_add_count := by
        have := balanced.count_le
        rw [Slots.available, balanced.capacity_eq]
        omega
      keyed := by
        rw [balanced.taken_eq]
        simpa using balanced.keyed
      distinct := held_eq ▸ register.holders.slots.nodup_volumes
      held_iff_running := fun volume => held_eq ▸ Iff.rfl }

theorem releasesOwnEntry : ReleasesOwnEntry register where
  taken_eq := balanced.taken_eq
  held_eq := balanced.held_eq
  numbered := balanced.numbered
  released holder tenure found := by
    have held : tenure ∈ register.tenures := List.mem_of_find?_eq_some found
    obtain ⟨entry, taken, same, _⟩ := balanced.exists_entry held
    refine ⟨⟨entry, taken, same⟩, _, balanced.release?_eq.trans (by rw [found]; rfl), ?_, ?_⟩
    · exact balanced.taken_release_eq held
    · exact balanced.held_release_eq found

theorem refusesWithReason : RefusesWithReason capacity register where
  unchanged holder task refusal refused := by simp [Register.turn, refused]
  volumeBusy_iff holder task := occupy_eq_error_iff.trans Slots.occupy_eq_volumeBusy_iff
  full_iff holder task := by
    have within := balanced.count_le
    rw [occupy_eq_error_iff, Slots.occupy_eq_full_iff, balanced.capacity_eq]
    refine and_congr_right fun _ => ?_
    omega

end Register.Balanced

/-- After any admissions, refusals and releases in any order, the slots are taken exactly as they
are held, a release ends its own admission only, and a refusal is for the reason it gives. -/
theorem slots_are_taken_as_they_are_held (capacity : Nat) (turns : List Turn) :
    Faithful capacity (Register.run capacity turns).holders ∧
      ReleasesOwnEntry (Register.run capacity turns) ∧
        RefusesWithReason capacity (Register.run capacity turns) :=
  have balanced := run_balanced capacity turns
  ⟨balanced.faithful, balanced.releasesOwnEntry, balanced.refusesWithReason⟩

end ArchiveUpkeep.SlotTenure
