import ArchiveUpkeep.Proofs.MergeScope
import Mathlib.Data.List.TakeWhile

/-! Diffs that are too young have no part in a merge, and neither has anything that stands behind
one of them. Age is tested at two places with different consequences: a young diff that could start
a run ends the search, and one that could continue a run ends the run. Either way nothing beyond it
is read, so a listing is searched as if it ended before its first young diff. -/
namespace ArchiveUpkeep.MergePolicy

instance (policy : MergePolicy) (now : Instant) (d : Diff) : Decidable (policy.Aged now d) :=
  inferInstanceAs (Decidable (d.time.toNanos + policy.interval.toNanos ≤ now.toNanos))

/-- The diffs of a listing up to the first that is too young. -/
def settledPart (policy : MergePolicy) (now : Instant) (diffs : List Diff) : List Diff :=
  diffs.takeWhile fun d => policy.Aged now d

/-- What may stand from the first young diff on: nothing, or such a diff and anything behind it. -/
def Young (policy : MergePolicy) (now : Instant) (tail : List Diff) : Prop :=
  ∀ d ∈ tail.head?, ¬ policy.Aged now d

variable {policy : MergePolicy} {now : Instant} {first last next : Diff}
  {diffs front tail rest : List Diff} {count : Nat} {size : UInt64}

theorem settledPart_isPrefix : policy.settledPart now diffs <+: diffs :=
  List.takeWhile_prefix _

theorem aged_of_mem_settledPart {d : Diff} (listed : d ∈ policy.settledPart now diffs) :
    policy.Aged now d :=
  of_decide_eq_true (List.mem_takeWhile_imp (p := fun d => policy.Aged now d) listed)

theorem isPrefix_settledPart (within : front <+: diffs) (aged : ∀ d ∈ front, policy.Aged now d) :
    front <+: policy.settledPart now diffs := by
  obtain ⟨rest, rfl⟩ := within
  rw [settledPart, List.takeWhile_append_of_pos fun d listed => decide_eq_true (aged d listed)]
  exact List.prefix_append front _

theorem exists_settledPart_append :
    ∃ tail, policy.Young now tail ∧ policy.settledPart now diffs ++ tail = diffs := by
  refine ⟨diffs.dropWhile fun d => policy.Aged now d, fun d leads => ?_,
    List.takeWhile_append_dropWhile⟩
  have stopped := List.head?_dropWhile_not (fun d => decide (policy.Aged now d)) diffs
  rw [Option.mem_def.1 leads] at stopped
  exact of_decide_eq_false stopped

theorem not_extends_of_young (young : ¬ policy.Aged now next) :
    ¬ policy.Extends now last count size next :=
  fun extends_ => young (settled_iff_aged.1 extends_.2.2.2.1)

section Young
variable (young : policy.Young now tail)
include young

/-- A run goes no further for what stands from the first young diff on. -/
theorem extension_append_young :
    policy.extension now last count size (rest ++ tail) =
      policy.extension now last count size rest := by
  induction rest generalizing last count size with
  | nil =>
    cases tail with
    | nil => rfl
    | cons next tail => exact if_neg (not_extends_of_young (young next rfl))
  | cons next rest ih => rw [List.cons_append, extension, extension, ih]

theorem checkedExtension_append_young :
    policy.checkedExtension now last count size (rest ++ tail) =
      policy.checkedExtension now last count size rest := by
  induction rest generalizing last count size with
  | nil =>
    cases tail with
    | nil => rfl
    | cons next tail => exact if_neg (not_extends_of_young (young next rfl))
  | cons next rest ih => rw [List.cons_append, checkedExtension, checkedExtension, ih]

theorem scope_append_young : policy.scope now (diffs ++ tail) = policy.scope now diffs := by
  induction diffs with
  | nil =>
    cases tail with
    | nil => rfl
    | cons first tail => exact scope_of_young (young first rfl)
  | cons first rest ih =>
    rw [List.cons_append, scope, scope, extension_append_young young, ih]

theorem checkedScope_append_young :
    policy.checkedScope now (diffs ++ tail) = policy.checkedScope now diffs := by
  induction diffs with
  | nil =>
    cases tail with
    | nil => rfl
    | cons first tail => exact if_neg (mt settled_iff_aged.1 (young first rfl))
  | cons first rest ih =>
    rw [List.cons_append, checkedScope, checkedScope, checkedExtension_append_young young, ih]

end Young

/-- A merge is chosen among the longest part of a listing, from its start, that holds no young diff.
So it does not matter what the rest of the listing is, as long as a young diff comes first in it;
and if a sum of sizes is beyond the greatest size there is, then it is already for that part. -/
theorem young_diffs_never_count (policy : MergePolicy) (now : Instant) (diffs : List Diff) :
    let settled := policy.settledPart now diffs
    (settled <+: diffs ∧ (∀ d ∈ settled, policy.Aged now d) ∧
      ∀ front, front <+: diffs → (∀ d ∈ front, policy.Aged now d) → front <+: settled) ∧
    policy.scope now diffs = policy.scope now settled ∧
    policy.checkedScope now diffs = policy.checkedScope now settled ∧
    ∀ tail, policy.Young now tail →
      policy.scope now (settled ++ tail) = policy.scope now diffs ∧
      policy.checkedScope now (settled ++ tail) = policy.checkedScope now diffs := by
  intro settled
  obtain ⟨rest, young, whole⟩ : ∃ rest, policy.Young now rest ∧ settled ++ rest = diffs :=
    exists_settledPart_append
  have same : policy.scope now (settled ++ rest) = policy.scope now settled :=
    scope_append_young young
  have alsoChecked : policy.checkedScope now (settled ++ rest) = policy.checkedScope now settled :=
    checkedScope_append_young young
  rw [whole] at same alsoChecked
  refine ⟨⟨settledPart_isPrefix, fun d => aged_of_mem_settledPart,
    fun front => isPrefix_settledPart⟩, same, alsoChecked, fun tail replaced => ⟨?_, ?_⟩⟩
  · rw [scope_append_young replaced, same]
  · rw [checkedScope_append_young replaced, alsoChecked]

/-- Two settled diffs are merged, whether or not old diffs stand behind the young one. -/
theorem young_diffs_never_count_between_old_ones :
    let policy : MergePolicy := {}
    let now : Instant := .ofSeconds 3600
    let young : Diff := { oneGeneration 2 50 with time := .ofSeconds 3500 }
    let diffs := [oneGeneration 0 60, oneGeneration 1 40, young, oneGeneration 3 70]
    policy.Young now [young] ∧
      policy.scope now diffs = .ok (some ⟨0, 2, by decide⟩) ∧
      policy.scope now (policy.settledPart now diffs ++ [young]) = policy.scope now diffs := by
  intro policy now young diffs
  have isYoung : policy.Young now [young] := by
    rintro d ⟨⟩
    decide
  obtain ⟨-, -, -, replaced⟩ := young_diffs_never_count policy now diffs
  exact ⟨isYoung, by decide, (replaced [young] isYoung).1⟩

end ArchiveUpkeep.MergePolicy
