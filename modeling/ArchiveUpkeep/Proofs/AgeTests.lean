import ArchiveUpkeep.Policy.Replication
import ArchiveUpkeep.Proofs.SettledTimes

/-! Two ways to ask whether a period has passed. One goes back from now by the period and compares
instants, the other takes the time that has passed and compares periods. Each may leave the range of
its result, the one before the first instant and the other into the future. Neither loses anything
by that: both are the exact inequality of nanoseconds. -/
namespace ArchiveUpkeep

namespace Instant
variable {now t u earlier : Instant} {p elapsed : Period}

theorem toNanos_injective (same : t.toNanos = u.toNanos) : t = u := by
  obtain ⟨seconds, nanos⟩ := t
  obtain ⟨otherSeconds, otherNanos⟩ := u
  have within := nanos.isLt
  have otherWithin := otherNanos.isLt
  simp only [toNanos] at same
  rw [mk.injEq, ← Int64.toInt_inj, Fin.ext_iff]
  constructor <;> omega

/-- No instant is a period ago exactly if every instant is less than that period ago. -/
theorem before?_eq_none_iff :
    now.before? p = none ↔ ∀ t : Instant, now.toNanos < t.toNanos + p.toNanos := by
  constructor
  · intro missing t
    have early := before?_eq_none missing t
    omega
  · intro young
    cases found : now.before? p with
    | none => rfl
    | some horizon =>
      have exactly := before?_eq_some found
      have early := young horizon
      omega

/-- The time since an earlier instant is exact: not even the time from the first instant to the last
one takes more seconds than a period can have. -/
theorem since?_eq_some (found : now.since? earlier = some elapsed) :
    (elapsed.toNanos : Int) = now.toNanos - earlier.toNanos := by
  unfold since? at found
  dsimp only at found
  split at found
  next ordered =>
    have difference := val_sub_nanos now.nanos earlier.nanos
    have within := (now.nanos - earlier.nanos).isLt
    have upper := now.seconds.toInt_lt
    have lower := earlier.seconds.le_toInt
    have borrowed : 0 ≤ borrow now.nanos earlier.nanos := by
      unfold borrow
      split <;> decide
    rw [le_iff_toNanos_le] at ordered
    simp only [toNanos] at ordered ⊢
    cases found
    simp only [Period.toNanos]
    rw [UInt64.toNat_ofNat', Nat.mod_eq_of_lt (by omega)]
    omega
  next => cases found

theorem since?_eq_none_iff :
    now.since? earlier = none ↔ now.toNanos < earlier.toNanos := by
  unfold since?
  rw [← Int.not_le, ← le_iff_toNanos_le]
  by_cases ordered : earlier ≤ now <;> simp [ordered]

/-- A period has passed since an instant exactly if the sum of both is not beyond now. -/
theorem passed_iff :
    (∃ elapsed ∈ now.since? t, p ≤ elapsed) ↔ t.toNanos + p.toNanos ≤ now.toNanos := by
  cases found : now.since? t with
  | none =>
    have future := since?_eq_none_iff.1 found
    simp only [Option.mem_def, reduceCtorEq, false_and, exists_false, false_iff]
    omega
  | some elapsed =>
    have exactly := since?_eq_some found
    simp only [Option.mem_def, Option.some.injEq, exists_eq_left', Period.le_iff_toNanos_le]
    omega

end Instant

/-- A replication is due if the primary archive has a restore point, and the target has none, or one
with a lesser id since which the interval has passed. -/
theorem replicationDue_iff {primary replica : Option RestorePoint} {interval : Period}
    {now : Instant} :
    replicationDue primary replica interval now ↔
      ∃ newest, primary = some newest ∧
        (replica = none ∨ ∃ held, replica = some held ∧ held.gid < newest.gid ∧
          held.time.toNanos + interval.toNanos ≤ now.toNanos) := by
  cases primary with
  | none => simp [replicationDue]
  | some newest =>
    cases replica with
    | none => simp [replicationDue]
    | some held =>
      simp [replicationDue, ← Instant.passed_iff, Option.any_eq_true, Option.mem_def]

/-- Comparing with the horizon and comparing the time that has passed are the same test, for every
instant and every period. A horizon before all instants rejects what it should, and a replication is
due as the exact nanoseconds say. -/
theorem age_tests_agree (now t : Instant) (p : Period) (primary replica : Option RestorePoint) :
    (now.Settled p t ↔ t.toNanos + p.toNanos ≤ now.toNanos) ∧
    (now.Settled p t ↔ ∃ elapsed ∈ now.since? t, p ≤ elapsed) ∧
    (now.before? p = none ↔ ∀ u : Instant, now.toNanos < u.toNanos + p.toNanos) ∧
    (replicationDue primary replica p now ↔
      ∃ newest, primary = some newest ∧
        (replica = none ∨ ∃ held, replica = some held ∧ held.gid < newest.gid ∧
          held.time.toNanos + p.toNanos ≤ now.toNanos)) :=
  ⟨Instant.settled_iff, Instant.settled_iff.trans Instant.passed_iff.symm,
    Instant.before?_eq_none_iff, replicationDue_iff⟩

/-- One nanosecond is enough to leave the range of instants, and the greatest difference of two
instants fits into a period. -/
example :
    let first : Instant := ⟨Int64.minValue, 0⟩
    let last : Instant := ⟨Int64.maxValue, 999999999⟩
    first.before? ⟨0, 1⟩ = none ∧ last.since? first = some ⟨18446744073709551615, 999999999⟩ ∧
      last.before? ⟨18446744073709551615, 999999999⟩ = some first := by decide

end ArchiveUpkeep
