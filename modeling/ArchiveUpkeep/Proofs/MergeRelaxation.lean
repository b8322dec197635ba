import ArchiveUpkeep.Proofs.MergeScope

/-! A merge that is there for one policy is there for every policy that lets more through, and at
every later time. Only a larger bound on the size can bring out a run that starts before it; as long
as that bound is the same, the merge starts where it did and goes at least as far. -/
namespace ArchiveUpkeep

/-- The diff does not lead back to an earlier generation. -/
def Diff.Forward (d : Diff) : Prop := d.origin.lower ≤ d.result.lower

namespace MergePolicy

/-- A policy that lets at least as much through: it waits no longer, and merges as many diffs and as
many bytes. -/
structure Wider (wider policy : MergePolicy) : Prop where
  interval_le : wider.interval ≤ policy.interval
  maxCount_le : policy.maxCount ≤ wider.maxCount
  maxSize_le : policy.maxSize ≤ wider.maxSize

variable {policy wider : MergePolicy} {now later : Instant} {diffs run : List Diff}
  {first last start stop earlier beyond : Diff} {range : GidRange} {i j k l : Nat}

section Relaxing
variable (relaxed : wider.Wider policy) (after : now ≤ later)
include relaxed

theorem Wider.count_le : policy.maxCount.toNat ≤ wider.maxCount.toNat :=
  UInt64.le_iff_toNat_le.1 relaxed.maxCount_le

theorem Wider.bytes_le : policy.maxSize.toNat ≤ wider.maxSize.toNat :=
  UInt64.le_iff_toNat_le.1 relaxed.maxSize_le

include after

theorem Wider.aged {d : Diff} (aged : policy.Aged now d) : wider.Aged later d := by
  have shorter := Period.le_iff_toNanos_le.1 relaxed.interval_le
  have ordered := Instant.le_iff_toNanos_le.1 after
  unfold Aged at aged ⊢
  omega

theorem Wider.mergeable (mergeable : policy.Mergeable now run) : wider.Mergeable later run where
  length_le := Nat.le_trans mergeable.length_le relaxed.count_le
  mergeable := mergeable.mergeable
  aged d listed := relaxed.aged after (mergeable.aged d listed)
  chained := mergeable.chained
  bytes_le := Nat.le_trans mergeable.bytes_le relaxed.bytes_le

theorem Wider.startsAt (starts : policy.StartsAt now diffs i) : wider.StartsAt later diffs i where
  two_le := Nat.le_trans starts.two_le relaxed.count_le
  aged d listed := relaxed.aged after (starts.aged d listed)
  pair := by
    obtain ⟨first, next, isFirst, isNext, mergeable, alsoMergeable, followed, fits⟩ := starts.pair
    exact ⟨first, next, isFirst, isNext, mergeable, alsoMergeable, followed,
      Nat.le_trans fits relaxed.bytes_le⟩

end Relaxing

/-- Up to where a merge starts all diffs are old enough, so a pair that a policy with the same bound
on the size finds before it is one that this policy finds too. -/
theorem StartsAt.of_le (starts : policy.StartsAt now diffs i)
    (before : wider.StartsAt later diffs k) (k_le : k ≤ i)
    (sameSize : wider.maxSize = policy.maxSize) : policy.StartsAt now diffs k where
  two_le := starts.two_le
  aged d listed := by
    have sooner : k + 2 ≤ i + 2 := Nat.add_le_add_right k_le 2
    exact starts.aged d ((List.take_prefix_take_left sooner).subset listed)
  pair := sameSize ▸ before.pair

theorem Chosen.start_eq (chosen : policy.Chosen now diffs i j first last)
    (also : wider.Chosen later diffs k l start stop) (relaxed : wider.Wider policy)
    (after : now ≤ later) (sameSize : wider.maxSize = policy.maxSize) : k = i := by
  have k_le : k ≤ i := also.least.2 (relaxed.startsAt after chosen.least.1)
  have i_le : i ≤ k := chosen.least.2 (chosen.least.1.of_le also.least.1 k_le sameSize)
  exact Nat.le_antisymm k_le i_le

section Forward
variable (forward : ∀ d ∈ diffs, d.Forward)
include forward

/-- Where each diff ends is where the next one starts, so in a run that never leads back all ends
ascend. -/
theorem results_ascend (chained : diffs.IsChain Diff.FollowedBy) :
    diffs.Pairwise fun d next => d.result.lower ≤ next.result.lower := by
  induction diffs with
  | nil => exact .nil
  | cons d rest ih =>
    rw [List.forall_mem_cons] at forward
    have restAscends := ih forward.2 chained.tail
    refine List.pairwise_cons.2 ⟨fun beyond listed => ?_, restAscends⟩
    cases rest with
    | nil => cases listed
    | cons next rest =>
      obtain ⟨followed, -⟩ := List.isChain_cons_cons.1 chained
      have onward : d.result.lower ≤ next.result.lower := by
        rw [followed]
        exact forward.2 next List.mem_cons_self
      rcases List.mem_cons.1 listed with rfl | listed
      · exact onward
      · exact UInt64.le_trans onward ((List.pairwise_cons.1 restAscends).1 beyond listed)

/-- The ends of two diffs of a run, given by their places in the whole listing. -/
theorem Mergeable.result_le (mergeable : policy.Mergeable now ((diffs.drop i).take (j - i)))
    (isEarlier : diffs[k]? = some earlier) (isBeyond : diffs[l]? = some beyond) (i_le : i ≤ k)
    (k_le : k ≤ l) (l_lt : l < j) : earlier.result.lower ≤ beyond.result.lower := by
  have inRun {m : Nat} {d : Diff} (found : diffs[m]? = some d) (i_le : i ≤ m) (m_lt : m < j) :
      ((diffs.drop i).take (j - i))[m - i]? = some d := by
    rw [List.getElem?_take_of_lt (by omega), List.getElem?_drop, Nat.add_sub_cancel' i_le, found]
  have runForward : ∀ d ∈ (diffs.drop i).take (j - i), d.Forward := fun d listed =>
    forward d (List.mem_of_mem_drop (List.mem_of_mem_take listed))
  have ascending := results_ascend runForward mergeable.chained
  have earlierInRun := inRun isEarlier i_le (Nat.lt_of_le_of_lt k_le l_lt)
  have beyondInRun := inRun isBeyond (Nat.le_trans i_le k_le) l_lt
  obtain ⟨k_inside, rfl⟩ := List.getElem?_eq_some_iff.1 earlierInRun
  obtain ⟨l_inside, rfl⟩ := List.getElem?_eq_some_iff.1 beyondInRun
  rcases Nat.eq_or_lt_of_le k_le with rfl | k_lt
  · exact UInt64.le_refl _
  · exact List.pairwise_iff_getElem.1 ascending _ _ k_inside l_inside (by omega)

theorem Chosen.origin_le_result (chosen : policy.Chosen now diffs i j first last) :
    first.origin.lower ≤ last.result.lower := by
  obtain ⟨i_lt, -, mergeable⟩ := chosen.greatest.1
  have onward := forward first (List.mem_of_getElem? chosen.first_eq)
  exact UInt64.le_trans onward (mergeable.result_le forward chosen.first_eq chosen.last_eq
    (Nat.le_refl i) (Nat.le_sub_one_of_lt i_lt) (by omega))

/-- Among diffs that never lead back a merge that starts is never refused. -/
theorem scope_of_forward (bounded : policy.maxSize.toNat < UInt64.size - 1)
    (some_starts : ∃ i, policy.StartsAt now diffs i) :
    ∃ i j first last range, policy.Chosen now diffs i j first last ∧
      policy.scope now diffs = .ok (some range) ∧
      range.start = first.origin.lower ∧ range.stop = last.result.lower := by
  obtain ⟨i, j, first, last, chosen, scope_eq⟩ := scope_of_start bounded some_starts
  rw [GidRange.between, dif_pos (chosen.origin_le_result forward)] at scope_eq
  exact ⟨i, j, first, last, _, chosen, scope_eq, rfl, rfl⟩

end Forward

theorem startsAt_of_scope (bounded : policy.maxSize.toNat < UInt64.size - 1)
    (found : policy.scope now diffs = .ok (some range)) : ∃ i, policy.StartsAt now diffs i := by
  by_contra none_starts
  cases found.symm.trans (scope_of_no_start bounded (not_exists.1 none_starts))

/-- Time and a policy that lets more through never take a merge away. Unless the bound on the size
has changed, they leave its start where it was and only lengthen it. -/
theorem merge_stays_available (policy wider : MergePolicy) (now later : Instant)
    (diffs : List Diff) (range : GidRange) (forward : ∀ d ∈ diffs, d.Forward)
    (bounded : wider.maxSize.toNat < UInt64.size - 1) (relaxed : wider.Wider policy)
    (after : now ≤ later) (found : policy.scope now diffs = .ok (some range)) :
    ∃ range', wider.scope later diffs = .ok (some range') ∧
      (wider.maxSize = policy.maxSize →
        range'.start = range.start ∧ range.stop ≤ range'.stop) := by
  have alsoBounded := Nat.lt_of_le_of_lt relaxed.bytes_le bounded
  have some_starts := startsAt_of_scope alsoBounded found
  obtain ⟨i, j, first, last, same, chosen, again, start_eq, stop_eq⟩ :=
    scope_of_forward forward alsoBounded some_starts
  cases found.symm.trans again
  obtain ⟨k, l, start, stop, range', alsoChosen, foundLater, start_eq', stop_eq'⟩ :=
    scope_of_forward forward bounded (some_starts.imp fun _ => relaxed.startsAt after)
  refine ⟨range', foundLater, fun sameSize => ?_⟩
  cases chosen.start_eq alsoChosen relaxed after sameSize
  obtain ⟨⟨i_lt, j_le, mergeable⟩, -⟩ := chosen.greatest
  obtain ⟨⟨-, -, longerMergeable⟩, longest⟩ := alsoChosen.greatest
  have longer : j ≤ l := longest ⟨i_lt, j_le, relaxed.mergeable after mergeable⟩
  cases chosen.first_eq.symm.trans alsoChosen.first_eq
  rw [start_eq, start_eq', stop_eq, stop_eq']
  exact ⟨rfl, longerMergeable.result_le forward chosen.last_eq alsoChosen.last_eq
    (Nat.le_sub_one_of_lt i_lt) (Nat.sub_le_sub_right longer 1) (by omega)⟩

/-- Two diffs of three are merged, and all of them once three may be. -/
theorem merge_stays_available_for_three :
    let policy : MergePolicy := { maxCount := 2 }
    let wider : MergePolicy := { maxCount := 3, interval := .ofSeconds 60 }
    let diffs := [oneGeneration 0 60, oneGeneration 1 40, oneGeneration 2 50]
    policy.scope (.ofSeconds 3600) diffs = .ok (some ⟨0, 2, by decide⟩) ∧
      ∃ range, wider.scope (.ofSeconds 7200) diffs = .ok (some range) ∧
        range.start = 0 ∧ 2 ≤ range.stop := by
  intro policy wider diffs
  have forward : ∀ d ∈ diffs, d.Forward := by
    unfold Diff.Forward
    decide
  have found : policy.scope (.ofSeconds 3600) diffs = .ok (some ⟨0, 2, by decide⟩) := by decide
  obtain ⟨range, foundLater, unmoved⟩ := merge_stays_available policy wider (.ofSeconds 3600)
    (.ofSeconds 7200) diffs _ forward (by decide) ⟨by decide, by decide, by decide⟩ (by decide)
    found
  exact ⟨found, range, foundLater, unmoved rfl⟩

/-- A larger bound on the size brings out a merge that starts before the one there was. -/
example :
    let diffs := [oneGeneration 0 500, oneGeneration 1 60, oneGeneration 2 40]
    scope { maxSize := 100 } (.ofSeconds 3600) diffs = .ok (some ⟨1, 3, by decide⟩) ∧
      scope { maxSize := 560 } (.ofSeconds 3600) diffs = .ok (some ⟨0, 2, by decide⟩) := by
  decide

end MergePolicy

end ArchiveUpkeep
