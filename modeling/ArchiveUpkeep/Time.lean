/-! Instants and periods with nanosecond resolution. An instant counts signed 64-bit seconds from
the epoch and a period unsigned ones, so going back by a period may leave the range of instants and
is then refused. Both types are seen through their exact count of nanoseconds. -/
namespace ArchiveUpkeep

/-- The part of a second, in nanoseconds. -/
abbrev Nanos := Fin 1000000000

/-- A point in time: `nanos` nanoseconds after a whole second counted from the epoch. -/
structure Instant where
  seconds : Int64
  nanos : Nanos
deriving DecidableEq, Repr

/-- A length of time. -/
structure Period where
  seconds : UInt64
  nanos : Nanos
deriving DecidableEq, Repr

/-- No part of a second. -/
def Nanos.zero : Nanos := ⟨0, by decide⟩

namespace Period

/-- A whole number of seconds. -/
def ofSeconds (seconds : UInt64) : Period := ⟨seconds, Nanos.zero⟩

/-- The exact length in nanoseconds. -/
def toNanos (p : Period) : Nat := p.seconds.toNat * 1000000000 + p.nanos.val

instance : LE Period where
  le p q := p.seconds < q.seconds ∨ p.seconds = q.seconds ∧ p.nanos ≤ q.nanos

instance (p q : Period) : Decidable (p ≤ q) :=
  inferInstanceAs (Decidable (p.seconds < q.seconds ∨ p.seconds = q.seconds ∧ p.nanos ≤ q.nanos))

theorem le_iff_toNanos_le {p q : Period} : p ≤ q ↔ p.toNanos ≤ q.toNanos := by
  have hp := p.nanos.isLt
  have hq := q.nanos.isLt
  show (p.seconds < q.seconds ∨ p.seconds = q.seconds ∧ p.nanos ≤ q.nanos) ↔ _
  simp only [UInt64.lt_iff_toNat_lt, ← UInt64.toNat_inj, Fin.le_def, toNanos]
  omega

end Period

namespace Instant

/-- A whole number of seconds from the epoch. -/
def ofSeconds (seconds : Int64) : Instant := ⟨seconds, Nanos.zero⟩

/-- The exact distance from the epoch in nanoseconds, negative before it. -/
def toNanos (t : Instant) : Int := t.seconds.toInt * 1000000000 + t.nanos.val

instance : LE Instant where
  le t u := t.seconds < u.seconds ∨ t.seconds = u.seconds ∧ t.nanos ≤ u.nanos

instance : LT Instant where
  lt t u := t.seconds < u.seconds ∨ t.seconds = u.seconds ∧ t.nanos < u.nanos

instance (t u : Instant) : Decidable (t ≤ u) :=
  inferInstanceAs (Decidable (t.seconds < u.seconds ∨ t.seconds = u.seconds ∧ t.nanos ≤ u.nanos))

instance (t u : Instant) : Decidable (t < u) :=
  inferInstanceAs (Decidable (t.seconds < u.seconds ∨ t.seconds = u.seconds ∧ t.nanos < u.nanos))

theorem le_iff_toNanos_le {t u : Instant} : t ≤ u ↔ t.toNanos ≤ u.toNanos := by
  have ht := t.nanos.isLt
  have hu := u.nanos.isLt
  show (t.seconds < u.seconds ∨ t.seconds = u.seconds ∧ t.nanos ≤ u.nanos) ↔ _
  simp only [Int64.lt_iff_toInt_lt, ← Int64.toInt_inj, Fin.le_def, toNanos]
  omega

theorem lt_iff_toNanos_lt {t u : Instant} : t < u ↔ t.toNanos < u.toNanos := by
  have ht := t.nanos.isLt
  have hu := u.nanos.isLt
  show (t.seconds < u.seconds ∨ t.seconds = u.seconds ∧ t.nanos < u.nanos) ↔ _
  simp only [Int64.lt_iff_toInt_lt, ← Int64.toInt_inj, Fin.lt_def, toNanos]
  omega

/-- Whether taking `q` from `p` nanoseconds borrows a second. -/
def borrow (p q : Nanos) : Int := if p < q then 1 else 0

/-- The instant `p` before `now`, unless it lies before the first instant there is. -/
def before? (now : Instant) (p : Period) : Option Instant :=
  let seconds := now.seconds.toInt - p.seconds.toNat - borrow now.nanos p.nanos
  if Int64.minValue.toInt ≤ seconds then some ⟨Int64.ofInt seconds, now.nanos - p.nanos⟩ else none

/-- The time from `earlier` to `now`, unless `earlier` lies in the future of `now`. -/
def since? (now earlier : Instant) : Option Period :=
  let seconds := now.seconds.toInt - earlier.seconds.toInt - borrow now.nanos earlier.nanos
  if earlier ≤ now then some ⟨seconds.toNat.toUInt64, now.nanos - earlier.nanos⟩ else none

/-- Whether `t` is old enough at `now`: at least the period `p` has passed since. The test compares
with the horizon `p` before `now`, and nothing is old enough for a horizon before all instants. -/
def Settled (now : Instant) (p : Period) (t : Instant) : Prop :=
  ∃ horizon ∈ now.before? p, t ≤ horizon

instance (now : Instant) (p : Period) (t : Instant) : Decidable (now.Settled p t) :=
  inferInstanceAs (Decidable (∃ horizon ∈ now.before? p, t ≤ horizon))

end Instant

end ArchiveUpkeep
