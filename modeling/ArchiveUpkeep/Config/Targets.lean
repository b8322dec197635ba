import ArchiveUpkeep.Policy.Replication

/-! The replication targets of a configuration, by name. They are kept in the order of their names,
which is the order of their bytes, so equal targets are equal values whatever order they came in. -/
namespace ArchiveUpkeep

structure Targets where
  entries : List (String × ReplicationPolicy) := []
  sorted : entries.Pairwise fun a b => a.1 < b.1 := by simp
deriving DecidableEq

namespace Targets

/-- Puts an entry at its place, over an entry of the same name. -/
def insertEntry (name : String) (policy : ReplicationPolicy) :
    List (String × ReplicationPolicy) → List (String × ReplicationPolicy)
  | [] => [(name, policy)]
  | entry :: rest =>
    if name < entry.1 then (name, policy) :: entry :: rest
    else if name = entry.1 then (name, policy) :: rest
    else entry :: insertEntry name policy rest

variable {name : String} {policy : ReplicationPolicy} {entry : String × ReplicationPolicy}
  {entries : List (String × ReplicationPolicy)}

theorem eq_or_mem_of_mem_insertEntry (found : entry ∈ insertEntry name policy entries) :
    entry = (name, policy) ∨ entry ∈ entries := by
  induction entries with
  | nil => simpa [insertEntry] using found
  | cons head rest ih =>
    simp only [insertEntry] at found
    split at found
    · simpa using found
    · split at found
      · rcases List.mem_cons.1 found with same | inRest
        · exact .inl same
        · exact .inr (List.mem_cons_of_mem _ inRest)
      · rcases List.mem_cons.1 found with same | inRest
        · exact .inr (same ▸ List.mem_cons_self)
        · exact (ih inRest).imp_right (List.mem_cons_of_mem _)

theorem pairwise_nil :
    ([] : List (String × ReplicationPolicy)).Pairwise fun entry later => entry.1 < later.1 := .nil

theorem pairwise_insertEntry (sorted : entries.Pairwise fun a b => a.1 < b.1) :
    (insertEntry name policy entries).Pairwise fun a b => a.1 < b.1 := by
  induction entries with
  | nil => simp [insertEntry]
  | cons head rest ih =>
    obtain ⟨headLt, restSorted⟩ := List.pairwise_cons.1 sorted
    simp only [insertEntry]
    split
    · rename_i before
      refine List.pairwise_cons.2 ⟨fun later inRest => ?_, sorted⟩
      rcases List.mem_cons.1 inRest with rfl | inRest
      · exact before
      · exact String.lt_trans before (headLt later inRest)
    · split
      · rename_i same
        exact List.pairwise_cons.2 ⟨fun later inRest => same ▸ headLt later inRest, restSorted⟩
      · rename_i notBefore notSame
        refine List.pairwise_cons.2 ⟨fun later inRest => ?_, ih restSorted⟩
        rcases eq_or_mem_of_mem_insertEntry inRest with rfl | inRest
        · exact Std.lt_of_le_of_ne (Std.not_lt.1 notBefore) fun same => notSame same.symm
        · exact headLt later inRest

/-- No targets. -/
def empty : Targets := ⟨[], pairwise_nil⟩

/-- The targets with one more, or with another policy for a name that is there. -/
def insert (targets : Targets) (name : String) (policy : ReplicationPolicy) : Targets :=
  ⟨insertEntry name policy targets.entries, pairwise_insertEntry targets.sorted⟩

/-- The policy for a name. -/
def get? (targets : Targets) (name : String) : Option ReplicationPolicy :=
  (targets.entries.find? (·.1 = name)).map Prod.snd

end Targets

end ArchiveUpkeep
