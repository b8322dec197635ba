/-! A volume's history is numbered by generation ids. A snapshot is a boundary in that history:
clean if it is a single id, dirty if it spans several, which can only be restored once they are
applied. -/
namespace ArchiveUpkeep

/-- A generation id. -/
abbrev Gid := UInt64

/-- The id beyond every generation, which stands for the latest one. -/
def Gid.top : Gid := 18446744073709551615

theorem Gid.le_top (g : Gid) : g ≤ Gid.top := by
  have := g.toNat_lt
  simp only [UInt64.le_iff_toNat_le, Gid.top, UInt64.reduceToNat]
  omega

/-- The greater of two ids is one of them and bounds both, which `List.max?` relies on. -/
instance : Std.LawfulOrderMax Gid where
  max_eq_or g h := by simp only [Max.max]; split <;> simp
  max_le_iff g h bound := by
    simp only [Max.max, UInt64.le_iff_toNat_le]
    split <;> simp_all <;> omega

structure Snapshot where
  lower : Gid
  upper : Gid
  lower_le_upper : lower ≤ upper
deriving DecidableEq, Repr

/-- Why ids reported for a volume cannot be right. -/
inductive ChainError where
  | invertedRange (lower upper : Gid)
  | applyingBeforeBase (base applying : Snapshot)
  | applyingIsBase (base : Snapshot)
deriving DecidableEq, Repr

namespace Snapshot

/-- The snapshot from `lower` to `upper`, which may not be inverted. -/
def ofBounds (lower upper : Gid) : Except ChainError Snapshot :=
  if ordered : lower ≤ upper then .ok ⟨lower, upper, ordered⟩
  else .error (.invertedRange lower upper)

/-- The clean snapshot of one generation. -/
def clean (gid : Gid) : Snapshot := ⟨gid, gid, UInt64.le_refl gid⟩

/-- No generation at all has been taken over yet. -/
instance : Inhabited Snapshot := ⟨clean 0⟩

abbrev IsClean (s : Snapshot) : Prop := s.lower = s.upper

instance : ToString Snapshot where
  toString s := if s.IsClean then s!"|{s.lower}|" else s!"|{s.lower},{s.upper}|"

end Snapshot

namespace ChainError

def message : ChainError → String
  | invertedRange lower upper => s!"inverted gid range: {lower} > {upper}"
  | applyingBeforeBase base applying =>
    s!"applying snapshot {applying} starts before base {base}"
  | applyingIsBase base => s!"applying snapshot equals base {base}"

instance : ToString ChainError := ⟨message⟩

end ChainError

end ArchiveUpkeep
