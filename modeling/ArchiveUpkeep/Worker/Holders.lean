import ArchiveUpkeep.Worker.Slots

/-! Slots together with who holds them. A holder keeps the slot of each of its admissions until it
releases it, so what is running is what is held, whatever the order of admissions and releases. -/
namespace ArchiveUpkeep

structure Holders where
  slots : Slots
  /-- The slots that are held, each under the name of its holder. -/
  held : List (String × Slot) := []

namespace Holders

/-- The slot that a holder has. -/
def slot? (holders : Holders) (holder : String) : Option Slot := holders.held.lookup holder

/-- Admits a task for a holder. -/
def occupy (holders : Holders) (holder : String) (task : Task) : Except Refusal (Slot × Holders) :=
  (holders.slots.occupy task).map fun (slot, slots) =>
    (slot, { slots, held := holders.held ++ [(holder, slot)] })

/-- Takes the slot of a holder back, if it has one. -/
def release? (holders : Holders) (holder : String) : Option Holders :=
  (holders.slot? holder).map fun slot =>
    { slots := holders.slots.release slot
      held := holders.held.eraseP fun entry => entry.1 = holder }

end Holders

end ArchiveUpkeep
