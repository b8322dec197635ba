import ArchiveUpkeep.Proofs.ServiceOrder

/-! What the proposals of a volume depend on. A selection learns of the outside only what it asks,
so two controllers that agree on the queries which it may ask make it run alike: it gives the same
result, asks the same queries and reports the same events. A replication may ask any query about
its volume, and every other selection only those which are not for marked restore points. -/
namespace ArchiveUpkeep

/-- A query for the marked restore points of a volume, at whatever server. Replication alone goes by
them. -/
def Query.IsNarrow : Query → Prop
  | .restorable _ _ .narrow => True
  | _ => False

/-- A query for what an archive holds of the volume, apart from its marked restore points. -/
def Query.Inspects (volume : String) (query : Query) : Prop :=
  query.volume? = some volume ∧ ¬ query.IsNarrow

namespace Controller

/-- Two controllers give the same answers, be they errors, to all queries of a kind. -/
def AgreeOn (asked : Query → Prop) (first second : Controller) : Prop :=
  ∀ query, asked query → first.answer query = second.answer query

namespace AgreeOn
variable {asked other : Query → Prop} {first second : Controller}

theorem mono (agree : AgreeOn asked first second) (covers : ∀ query, other query → asked query) :
    AgreeOn other first second :=
  fun query permitted => agree query (covers query permitted)

theorem ask (agree : AgreeOn asked first second) (query : Query) (permitted : asked query) :
    first.ask query = second.ask query := by
  rw [Controller.ask, Controller.ask, agree query permitted]

theorem require (agree : AgreeOn asked first second) (query : Query) (permitted : asked query)
    (volume : String) : first.require volume query = second.require volume query := by
  rw [Controller.require, Controller.require, agree.ask query permitted]

end AgreeOn

end Controller

namespace Worker
open Controller
variable {worker : Worker} {first second : Controller} {volume : String} {now : Instant}

section Inspection
variable (agree : AgreeOn (Query.Inspects volume) first second)
include agree

theorem freshApply_congr (state : MetaState) :
    worker.freshApply first volume state now = worker.freshApply second volume state now := by
  have points := agree.require (.restorable worker.primary volume .all) ⟨rfl, id⟩ volume
  have count (range : GidRange) :=
    agree.require (.diffCount worker.primary volume range) ⟨rfl, id⟩ volume
  have size (range : GidRange) :=
    agree.require (.diffSize worker.primary volume range) ⟨rfl, id⟩ volume
  simp only [freshApply, points, count, size]

theorem merge_congr : worker.merge first volume now = worker.merge second volume now := by
  have count := agree.require (.diffCount worker.primary volume .all) ⟨rfl, id⟩ volume
  have size := agree.require (.diffSize worker.primary volume .all) ⟨rfl, id⟩ volume
  have diffs :=
    agree.require (.applicableDiffs worker.primary volume Gid.top) ⟨rfl, id⟩ volume
  simp only [merge, count, size, diffs]

theorem cleanup_congr (state : MetaState) :
    worker.cleanup first volume state now = worker.cleanup second volume state now := by
  have points := agree.require (.restorable worker.primary volume .all) ⟨rfl, id⟩ volume
  have count (target : Gid) :=
    agree.require (.diffCount worker.primary volume (.below target)) ⟨rfl, id⟩ volume
  simp only [cleanup, points, count]

/-- Beside what is inspected, proposals depend on the replication alone. -/
theorem proposals_congr
    (replicated : worker.replication first volume now = worker.replication second volume now) :
    worker.proposals first now volume = worker.proposals second now volume := by
  have base := agree.require (.base worker.primary volume) ⟨rfl, id⟩ volume
  simp only [proposals, base, replicated, freshApply_congr agree, merge_congr agree,
    cleanup_congr agree]

end Inspection

section Replication
variable (agree : AgreeOn (fun query => query.volume? = some volume) first second)
include agree

theorem waiting_congr (newest : RestorePoint) (targets : List Target) :
    waiting first volume newest now targets = waiting second volume newest now targets := by
  induction targets with
  | nil => rfl
  | cons target rest ih =>
    have points := agree.ask (.restorable target.server volume .narrow) rfl
    simp only [waiting, points, ih]

theorem replication_congr :
    worker.replication first volume now = worker.replication second volume now := by
  have points := agree.ask (.restorable worker.primary volume .narrow) rfl
  simp only [replication, points, waiting_congr agree]

/-- The proposals of a volume depend on nothing but the answers about that volume. -/
theorem proposals_congr_of_volume :
    worker.proposals first now volume = worker.proposals second now volume :=
  proposals_congr (agree.mono fun _ => And.left) (replication_congr agree)

end Replication

end Worker

end ArchiveUpkeep
