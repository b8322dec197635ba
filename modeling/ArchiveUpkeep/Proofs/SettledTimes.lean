import ArchiveUpkeep.Time

/-! Ages in exact nanoseconds. Going back from an instant borrows seconds and may leave the range
of instants, yet the test of an age agrees everywhere with the exact sum. -/
namespace ArchiveUpkeep.Instant

/-- The nanoseconds of a difference, with the second that was borrowed for it. -/
theorem val_sub_nanos (p q : Nanos) :
    ((p - q).val : Int) = p.val - q.val + borrow p q * 1000000000 := by
  have hp := p.isLt
  have hq := q.isLt
  unfold borrow
  rw [Fin.sub_def]
  split
  next below =>
    rw [Fin.lt_def] at below
    simp only
    omega
  next above =>
    rw [Fin.lt_def] at above
    simp only
    omega

/-- Seconds that are not before all instants are the seconds of an instant. -/
theorem before?_eq_some {now horizon : Instant} {p : Period}
    (found : now.before? p = some horizon) :
    horizon.toNanos = now.toNanos - p.toNanos := by
  unfold before? at found
  dsimp only at found
  split at found
  next inRange =>
    have upper := now.seconds.toInt_lt
    have borrowed : 0 ≤ borrow now.nanos p.nanos := by
      unfold borrow
      split <;> decide
    cases found
    rw [Int64.toInt_minValue] at inRange
    simp only [toNanos, Period.toNanos]
    rw [Int64.toInt_ofInt_of_le inRange (by omega), val_sub_nanos]
    omega
  next => cases found

theorem before?_eq_none {now : Instant} {p : Period} (missing : now.before? p = none)
    (t : Instant) :
    now.toNanos - p.toNanos < t.toNanos := by
  unfold before? at missing
  dsimp only at missing
  split at missing
  next => cases missing
  next outOfRange =>
    have lower := t.seconds.le_toInt
    have difference := val_sub_nanos now.nanos p.nanos
    have within := (now.nanos - p.nanos).isLt
    rw [Int64.toInt_minValue] at outOfRange
    simp only [toNanos, Period.toNanos]
    omega

/-- Something is old enough exactly if the period has passed since, counted without bounds. -/
theorem settled_iff {now t : Instant} {p : Period} :
    now.Settled p t ↔ t.toNanos + p.toNanos ≤ now.toNanos := by
  unfold Settled
  cases result : now.before? p with
  | none =>
    have early := before?_eq_none result t
    simp only [Option.mem_def, reduceCtorEq, false_and, exists_false, false_iff]
    omega
  | some horizon =>
    have exactly := before?_eq_some result
    simp only [Option.mem_def, Option.some.injEq, exists_eq_left', le_iff_toNanos_le]
    omega

end ArchiveUpkeep.Instant
