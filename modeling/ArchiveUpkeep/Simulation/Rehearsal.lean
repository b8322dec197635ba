import ArchiveUpkeep.Simulation.Archive
import ArchiveUpkeep.Worker.Run

/-! What a run on servers in memory meets with. The volumes stay as they are, only the listing fails
or takes its time, and an execution lasts as long as is said for its volume. -/
namespace ArchiveUpkeep.Simulation

structure Rehearsal where
  archive : Archive
  /-- The times that the listings take, tick by tick. Later ones take none. -/
  listingTimes : List Nat := []
  /-- Whether the listings fail, tick by tick. Later ones do not. -/
  listingFailures : List Bool := []
  /-- How long the executions of a volume last. Those of other volumes never end. -/
  lasting : List (String × Nat) := []
  shutdown : Nat

/-- The surroundings of a rehearsed run. Its wall clock starts at the epoch. -/
def Rehearsal.surroundings (rehearsal : Rehearsal) : Surroundings where
  timer := .delaying
  controller index :=
    let fails := rehearsal.listingFailures.getD index false
    { rehearsal.archive with listingFailure := if fails then some none else none }.controller
  listingTime index := rehearsal.listingTimes.getD index 0
  execution _ task := (rehearsal.lasting.lookup task.volume).map fun time => (time, .completed)
  wallClock time := .ofSeconds (Int64.ofNat (time / 1000))
  shutdown := rehearsal.shutdown

end ArchiveUpkeep.Simulation
