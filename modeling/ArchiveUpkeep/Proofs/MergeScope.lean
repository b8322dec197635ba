import ArchiveUpkeep.Policy.Merge
import ArchiveUpkeep.Proofs.SettledTimes
import Mathlib.Data.List.Chain
import Mathlib.Order.Bounds.Basic

/-! The search for a merge against what it looks for: of all places where two neighbours may be
merged the first, and from there the longest run that may be merged as a whole. Ages and sizes are
counted exactly, so neither a horizon before all instants nor a sum that saturates makes a
difference. -/
namespace ArchiveUpkeep.MergePolicy

/-- Old enough to be merged, counted in exact nanoseconds. -/
def Aged (policy : MergePolicy) (now : Instant) (d : Diff) : Prop :=
  d.time.toNanos + policy.interval.toNanos ≤ now.toNanos

/-- The exact number of bytes of some diffs. -/
def bytes : List Diff → Nat
  | [] => 0
  | d :: rest => d.size.toNat + bytes rest

/-- A run that may be merged as a whole. -/
structure Mergeable (policy : MergePolicy) (now : Instant) (run : List Diff) : Prop where
  length_le : run.length ≤ policy.maxCount.toNat
  mergeable : ∀ d ∈ run, d.mergeable
  aged : ∀ d ∈ run, policy.Aged now d
  chained : run.IsChain Diff.FollowedBy
  bytes_le : bytes run ≤ policy.maxSize.toNat

/-- The diff at an index may be merged with the next one, and nothing up to there is too young. -/
structure StartsAt (policy : MergePolicy) (now : Instant) (diffs : List Diff) (i : Nat) : Prop where
  two_le : 2 ≤ policy.maxCount.toNat
  aged : ∀ d ∈ diffs.take (i + 2), policy.Aged now d
  pair : ∃ first next, diffs[i]? = some first ∧ diffs[i + 1]? = some next ∧
    first.mergeable ∧ next.mergeable ∧ first.FollowedBy next ∧
      first.size.toNat + next.size.toNat ≤ policy.maxSize.toNat

/-- The run that a merge is for: it starts at the first index where one can, and stops before the
greatest index that it can. -/
structure Chosen (policy : MergePolicy) (now : Instant) (diffs : List Diff) (i j : Nat)
    (first last : Diff) : Prop where
  least : IsLeast {i | policy.StartsAt now diffs i} i
  greatest : IsGreatest
    {j | i < j ∧ j ≤ diffs.length ∧ policy.Mergeable now ((diffs.drop i).take (j - i))} j
  first_eq : diffs[i]? = some first
  last_eq : diffs[j - 1]? = some last

/-- The diffs that continue a run, found with sums of sizes that are refused beyond the greatest
size there is. -/
def checkedExtension (policy : MergePolicy) (now : Instant) (last : Diff) (count : Nat)
    (size : UInt64) : List Diff → Option (List Diff)
  | [] => some []
  | next :: rest =>
    if policy.Extends now last count size next then
      if size.toNat + next.size.toNat < UInt64.size then
        (next :: ·) <$> policy.checkedExtension now next (count + 1) (size + next.size) rest
      else none
    else some []

/-- The range of the next merge, found with sums of sizes that are refused beyond the greatest size
there is. -/
def checkedScope (policy : MergePolicy) (now : Instant) :
    List Diff → Option (Except ChainError (Option GidRange))
  | [] => some (.ok none)
  | first :: rest =>
    if policy.Settled now first then
      if first.mergeable then do
        match (← policy.checkedExtension now first 1 first.size rest).getLast? with
        | some last => some ((GidRange.between first.origin.lower last.result.lower).map some)
        | none => policy.checkedScope now rest
      else policy.checkedScope now rest
    else some (.ok none)

/-- A run of `count` diffs and `size` bytes that ends in `last` may go on with all of `run`. -/
structure Joins (policy : MergePolicy) (now : Instant) (last : Diff) (count size : Nat)
    (run : List Diff) : Prop where
  count_le : count + run.length ≤ policy.maxCount.toNat
  mergeable : ∀ d ∈ run, d.mergeable
  aged : ∀ d ∈ run, policy.Aged now d
  chained : (last :: run).IsChain Diff.FollowedBy
  bytes_le : size + bytes run ≤ policy.maxSize.toNat

variable {policy : MergePolicy} {now : Instant} {first last next : Diff}
  {diffs rest run : List Diff} {count i j : Nat} {size : UInt64}

theorem settled_iff_aged {d : Diff} : policy.Settled now d ↔ policy.Aged now d :=
  Instant.settled_iff

theorem mergeable_cons_iff :
    policy.Mergeable now (first :: run) ↔
      first.mergeable ∧ policy.Aged now first ∧ policy.Joins now first 1 first.size.toNat run := by
  constructor
  · rintro ⟨length_le, mergeable, aged, chained, bytes_le⟩
    rw [List.forall_mem_cons] at mergeable aged
    refine ⟨mergeable.1, aged.1, ?_, mergeable.2, aged.2, chained, bytes_le⟩
    simpa [Nat.add_comm] using length_le
  · rintro ⟨mergeable, aged, joins⟩
    refine ⟨?_, ?_, ?_, joins.chained, joins.bytes_le⟩
    · simpa [Nat.add_comm] using joins.count_le
    · exact List.forall_mem_cons.2 ⟨mergeable, joins.mergeable⟩
    · exact List.forall_mem_cons.2 ⟨aged, joins.aged⟩

theorem joins_cons_iff {count size : Nat} :
    policy.Joins now last count size (next :: run) ↔
      (count < policy.maxCount.toNat ∧ next.mergeable ∧ last.FollowedBy next ∧
        policy.Aged now next ∧ size + next.size.toNat ≤ policy.maxSize.toNat) ∧
      policy.Joins now next (count + 1) (size + next.size.toNat) run := by
  have bytes_cons : bytes (next :: run) = next.size.toNat + bytes run := rfl
  constructor
  · rintro ⟨count_le, mergeable, aged, chained, bytes_le⟩
    rw [List.forall_mem_cons] at mergeable aged
    rw [List.isChain_cons_cons] at chained
    rw [List.length_cons] at count_le
    refine ⟨⟨by omega, mergeable.1, chained.1, aged.1, by omega⟩, by omega, mergeable.2, aged.2,
      chained.2, by omega⟩
  · rintro ⟨⟨-, mergeable, followed, aged, -⟩, joins⟩
    have count_le := joins.count_le
    have bytes_le := joins.bytes_le
    refine ⟨by rw [List.length_cons]; omega, ?_, ?_, ?_, by omega⟩
    · exact List.forall_mem_cons.2 ⟨mergeable, joins.mergeable⟩
    · exact List.forall_mem_cons.2 ⟨aged, joins.aged⟩
    · exact List.isChain_cons_cons.2 ⟨followed, joins.chained⟩

theorem extension_prefix (last : Diff) (count : Nat) (size : UInt64) (rest : List Diff) :
    policy.extension now last count size rest <+: rest := by
  induction rest generalizing last count size with
  | nil => exact List.prefix_rfl
  | cons next rest ih =>
    unfold extension
    split
    · exact List.prefix_cons_inj next |>.2 (ih next (count + 1) (size + next.size))
    · exact List.nil_prefix

section Bounded
variable (bounded : policy.maxSize.toNat < UInt64.size - 1)
include bounded

/-- Below the greatest size there is, a sum that saturates is never within the bound. -/
theorem add_le_maxSize_iff {a b : UInt64} :
    Size.add a b ≤ policy.maxSize ↔ a.toNat + b.toNat ≤ policy.maxSize.toNat := by
  rw [UInt64.le_iff_toNat_le, Size.toNat_add]
  omega

theorem toNat_add_of_le {a b : UInt64} (within : a.toNat + b.toNat ≤ policy.maxSize.toNat) :
    (a + b).toNat = a.toNat + b.toNat := by
  rw [UInt64.toNat_add, Nat.mod_eq_of_lt]
  simp only [UInt64.size] at bounded
  omega

theorem extends_iff :
    policy.Extends now last count size next ↔
      count < policy.maxCount.toNat ∧ next.mergeable ∧ last.FollowedBy next ∧
        policy.Aged now next ∧ size.toNat + next.size.toNat ≤ policy.maxSize.toNat := by
  rw [Extends, settled_iff_aged, add_le_maxSize_iff bounded]

/-- The extension of a run is the longest part of what follows that the run may go on with. -/
theorem joins_take_iff {k : Nat} (positive : 0 < k) (within : k ≤ rest.length) :
    policy.Joins now last count size.toNat (rest.take k) ↔
      k ≤ (policy.extension now last count size rest).length := by
  induction rest generalizing last count size k with
  | nil => exact absurd positive (Nat.not_lt.2 within)
  | cons next rest ih =>
    obtain ⟨k, rfl⟩ := Nat.exists_eq_succ_of_ne_zero (Nat.pos_iff_ne_zero.1 positive)
    rw [List.take_succ_cons, joins_cons_iff, ← extends_iff bounded, extension]
    by_cases goesOn : policy.Extends now last count size next
    · obtain ⟨count_lt, -, -, -, bytes_le⟩ := (extends_iff bounded).1 goesOn
      rw [and_iff_right goesOn, if_pos goesOn, List.length_cons, Nat.succ_le_succ_iff,
        ← toNat_add_of_le bounded bytes_le]
      rcases Nat.eq_zero_or_pos k with rfl | later
      · have alone : policy.Joins now next (count + 1) (size + next.size).toNat [] := by
          refine ⟨count_lt, by simp, by simp, by simp, ?_⟩
          rw [toNat_add_of_le bounded bytes_le]
          exact bytes_le
        exact iff_of_true alone (Nat.zero_le _)
      · exact ih later (Nat.le_of_succ_le_succ within)
    · rw [if_neg goesOn]
      exact iff_of_false (fun joins => goesOn joins.1) (Nat.not_succ_le_zero k)

theorem startsAt_zero_iff :
    policy.StartsAt now (first :: rest) 0 ↔
      policy.Aged now first ∧ first.mergeable ∧
        policy.extension now first 1 first.size rest ≠ [] := by
  cases rest with
  | nil =>
    refine iff_of_false (fun starts => ?_) (by simp [extension])
    obtain ⟨_, next, -, missing, -⟩ := starts.pair
    simp at missing
  | cons next rest =>
    have nonempty : policy.extension now first 1 first.size (next :: rest) ≠ [] ↔
        policy.Extends now first 1 first.size next := by
      rw [extension]
      by_cases goesOn : policy.Extends now first 1 first.size next
      · rw [if_pos goesOn]
        exact iff_of_true (List.cons_ne_nil _ _) goesOn
      · rw [if_neg goesOn]
        exact iff_of_false (fun absent => absent rfl) goesOn
    rw [nonempty, extends_iff bounded]
    constructor
    · rintro ⟨two_le, aged, _, _, ⟨⟩, ⟨⟩, mergeable, nextMergeable, followed, bytes_le⟩
      exact ⟨aged first (by simp), mergeable, two_le, nextMergeable, followed,
        aged next (by simp), bytes_le⟩
    · rintro ⟨aged, mergeable, two_le, nextMergeable, followed, nextAged, bytes_le⟩
      refine ⟨two_le, ?_, first, next, rfl, rfl, mergeable, nextMergeable, followed, bytes_le⟩
      simpa using ⟨aged, nextAged⟩

theorem scope_of_startsAt_zero (starts : policy.StartsAt now (first :: rest) 0) :
    ∃ last, (policy.extension now first 1 first.size rest).getLast? = some last ∧
      policy.scope now (first :: rest) =
        (GidRange.between first.origin.lower last.result.lower).map some := by
  obtain ⟨aged, mergeable, nonempty⟩ := (startsAt_zero_iff bounded).1 starts
  have last_eq := List.getLast?_eq_some_getLast nonempty
  refine ⟨_, last_eq, ?_⟩
  rw [scope, if_pos (settled_iff_aged.2 aged), if_pos mergeable, last_eq]

/-- Passing over a diff that no merge starts at changes nothing. -/
theorem scope_of_not_startsAt_zero (aged : policy.Aged now first)
    (passedOver : ¬ policy.StartsAt now (first :: rest) 0) :
    policy.scope now (first :: rest) = policy.scope now rest := by
  rw [scope, if_pos (settled_iff_aged.2 aged)]
  by_cases mergeable : first.mergeable
  · have alone : policy.extension now first 1 first.size rest = [] := by
      by_contra nonempty
      exact passedOver ((startsAt_zero_iff bounded).2 ⟨aged, mergeable, nonempty⟩)
    rw [if_pos mergeable, alone, List.getLast?_nil]
  · rw [if_neg mergeable]

end Bounded

theorem startsAt_succ_iff :
    policy.StartsAt now (first :: rest) (i + 1) ↔
      policy.Aged now first ∧ policy.StartsAt now rest i := by
  constructor
  · rintro ⟨two_le, aged, pair⟩
    rw [List.take_succ_cons, List.forall_mem_cons] at aged
    exact ⟨aged.1, two_le, aged.2, by simpa using pair⟩
  · rintro ⟨aged, two_le, restAged, pair⟩
    refine ⟨two_le, ?_, by simpa using pair⟩
    rw [List.take_succ_cons, List.forall_mem_cons]
    exact ⟨aged, restAged⟩

theorem scope_of_young (young : ¬ policy.Aged now first) :
    policy.scope now (first :: rest) = .ok none := by
  rw [scope, if_neg fun settled => young (settled_iff_aged.1 settled)]

/-- Behind a diff that no merge starts at, the run is the one that the rest has. -/
theorem Chosen.cons (chosen : policy.Chosen now rest i j first last) {head : Diff}
    (aged : policy.Aged now head) (passedOver : ¬ policy.StartsAt now (head :: rest) 0) :
    policy.Chosen now (head :: rest) (i + 1) (j + 1) first last where
  least := by
    refine ⟨startsAt_succ_iff.2 ⟨aged, chosen.least.1⟩, fun k starts => ?_⟩
    cases k with
    | zero => exact absurd starts passedOver
    | succ k => exact Nat.succ_le_succ (chosen.least.2 (startsAt_succ_iff.1 starts).2)
  greatest := by
    obtain ⟨⟨i_lt, j_le, mergeable⟩, upper⟩ := chosen.greatest
    refine ⟨⟨Nat.succ_lt_succ i_lt, Nat.succ_le_succ j_le, by simpa using mergeable⟩, ?_⟩
    rintro k ⟨k_lt, k_le, kMergeable⟩
    obtain ⟨k, rfl⟩ := Nat.exists_eq_succ_of_ne_zero (Nat.ne_zero_of_lt k_lt)
    exact Nat.succ_le_succ (upper
      ⟨Nat.lt_of_succ_lt_succ k_lt, Nat.le_of_succ_le_succ k_le, by simpa using kMergeable⟩)
  first_eq := chosen.first_eq
  last_eq := by
    have positive : 0 < j := Nat.lt_of_le_of_lt (Nat.zero_le i) chosen.greatest.1.1
    have shifted : j + 1 - 1 = j - 1 + 1 := by omega
    rw [shifted, List.getElem?_cons_succ]
    exact chosen.last_eq

section Bounded
variable (bounded : policy.maxSize.toNat < UInt64.size - 1)
include bounded

theorem chosen_of_startsAt_zero (starts : policy.StartsAt now (first :: rest) 0)
    (last_eq : (policy.extension now first 1 first.size rest).getLast? = some last) :
    policy.Chosen now (first :: rest) 0
      ((policy.extension now first 1 first.size rest).length + 1) first last := by
  obtain ⟨aged, mergeable, nonempty⟩ := (startsAt_zero_iff bounded).1 starts
  have positive := List.length_pos_iff.2 nonempty
  have taken : policy.extension now first 1 first.size rest <+: rest := extension_prefix ..
  have within := taken.length_le
  have run_iff {k : Nat} (k_pos : 0 < k) (k_le : k ≤ rest.length) :
      policy.Mergeable now (((first :: rest).drop 0).take (k + 1 - 0)) ↔
        k ≤ (policy.extension now first 1 first.size rest).length := by
    rw [List.drop_zero, Nat.sub_zero, List.take_succ_cons, mergeable_cons_iff,
      ← joins_take_iff bounded k_pos k_le, and_iff_right mergeable, and_iff_right aged]
  exact
    { least := ⟨starts, fun _ _ => Nat.zero_le _⟩
      greatest := by
        refine ⟨⟨Nat.succ_pos _, Nat.succ_le_succ within, ?_⟩, ?_⟩
        · exact (run_iff positive within).2 (Nat.le_refl _)
        · rintro k ⟨k_pos, k_le, kMergeable⟩
          obtain ⟨k, rfl⟩ := Nat.exists_eq_succ_of_ne_zero (Nat.pos_iff_ne_zero.1 k_pos)
          rcases Nat.eq_zero_or_pos k with rfl | later
          · exact Nat.succ_le_succ (Nat.zero_le _)
          · exact Nat.succ_le_succ ((run_iff later (Nat.le_of_succ_le_succ k_le)).1 kMergeable)
      first_eq := rfl
      last_eq := by
        obtain ⟨tail, shape⟩ := taken
        have last_get := List.getLast?_eq_getElem? ▸ last_eq
        rw [Nat.add_sub_cancel, ← Nat.succ_pred_eq_of_pos positive, List.getElem?_cons_succ]
        nth_rewrite 1 [← shape]
        rw [List.getElem?_append_left (Nat.pred_lt_self positive)]
        exact last_get }

theorem scope_of_no_start (none_starts : ∀ i, ¬ policy.StartsAt now diffs i) :
    policy.scope now diffs = .ok none := by
  induction diffs with
  | nil => rfl
  | cons first rest ih =>
    by_cases aged : policy.Aged now first
    · rw [scope_of_not_startsAt_zero bounded aged (none_starts 0)]
      exact ih fun i starts => none_starts (i + 1) (startsAt_succ_iff.2 ⟨aged, starts⟩)
    · exact scope_of_young aged

theorem scope_of_start (some_starts : ∃ i, policy.StartsAt now diffs i) :
    ∃ i j first last, policy.Chosen now diffs i j first last ∧
      policy.scope now diffs =
        (GidRange.between first.origin.lower last.result.lower).map some := by
  induction diffs with
  | nil =>
    obtain ⟨i, starts⟩ := some_starts
    obtain ⟨_, _, missing, -⟩ := starts.pair
    simp at missing
  | cons first rest ih =>
    by_cases here : policy.StartsAt now (first :: rest) 0
    · obtain ⟨last, last_eq, scope_eq⟩ := scope_of_startsAt_zero bounded here
      exact ⟨0, _, first, last, chosen_of_startsAt_zero bounded here last_eq, scope_eq⟩
    · obtain ⟨i, starts⟩ := some_starts
      cases i with
      | zero => exact absurd starts here
      | succ i =>
        obtain ⟨aged, starts⟩ := startsAt_succ_iff.1 starts
        obtain ⟨i, j, start, last, chosen, scope_eq⟩ := ih ⟨i, starts⟩
        refine ⟨i + 1, j + 1, start, last, chosen.cons aged here, ?_⟩
        rw [scope_of_not_startsAt_zero bounded aged here, scope_eq]

theorem checkedExtension_eq (last : Diff) (count : Nat) (size : UInt64) (rest : List Diff) :
    policy.checkedExtension now last count size rest =
      some (policy.extension now last count size rest) := by
  induction rest generalizing last count size with
  | nil => rfl
  | cons next rest ih =>
    rw [checkedExtension, extension]
    by_cases goesOn : policy.Extends now last count size next
    · have bytes_le := ((extends_iff bounded).1 goesOn).2.2.2.2
      have inRange : size.toNat + next.size.toNat < UInt64.size := by omega
      rw [if_pos goesOn, if_pos goesOn, if_pos inRange, ih]
      rfl
    · rw [if_neg goesOn, if_neg goesOn]

theorem checkedScope_eq (diffs : List Diff) :
    policy.checkedScope now diffs = some (policy.scope now diffs) := by
  induction diffs with
  | nil => rfl
  | cons first rest ih =>
    rw [checkedScope, scope, checkedExtension_eq bounded, ih]
    split
    · split
      · rw [Option.bind_eq_bind, Option.bind_some]
        cases (policy.extension now first 1 first.size rest).getLast? <;> rfl
      · rfl
    · rfl

end Bounded

/-- A merge is for the first run that can be one, taken as long as it can be, and there is none
exactly if no run can. On the way there no sum of sizes is beyond the greatest size. -/
theorem scope_is_first_longest_run (policy : MergePolicy) (now : Instant) (diffs : List Diff)
    (bounded : policy.maxSize.toNat < UInt64.size - 1) :
    ((¬ ∃ i, policy.StartsAt now diffs i) → policy.scope now diffs = .ok none) ∧
    ((∃ i, policy.StartsAt now diffs i) → ∃ i j first last,
      policy.Chosen now diffs i j first last ∧
        policy.scope now diffs =
          (GidRange.between first.origin.lower last.result.lower).map some) ∧
    policy.checkedScope now diffs = some (policy.scope now diffs) :=
  ⟨fun none_starts => scope_of_no_start bounded (not_exists.1 none_starts),
    scope_of_start bounded, checkedScope_eq bounded diffs⟩

/-- A diff of one generation that may be merged. -/
def oneGeneration (gid : Gid) (size : UInt64) : Diff where
  origin := .clean gid
  result := .clean (gid + 1)
  time := .ofSeconds 0
  mergeable := true
  compacted := false
  codec := .snappy
  size := size

/-- Three diffs of which the first is too large for a merge: the other two are merged. -/
theorem scope_is_first_longest_run_of_three :
    let policy : MergePolicy := { maxSize := 100 }
    let now : Instant := .ofSeconds 3600
    let diffs := [oneGeneration 0 500, oneGeneration 1 60, oneGeneration 2 40]
    policy.maxSize.toNat < UInt64.size - 1 ∧ (∃ i, policy.StartsAt now diffs i) ∧
      ∃ i j first last, policy.Chosen now diffs i j first last ∧
        policy.scope now diffs =
          (GidRange.between first.origin.lower last.result.lower).map some := by
  intro policy now diffs
  have starts : policy.StartsAt now diffs 1 := by
    refine ⟨by decide, ?_, oneGeneration 1 60, oneGeneration 2 40, rfl, rfl, rfl, rfl, rfl,
      by decide⟩
    simp only [← settled_iff_aged]
    decide
  exact ⟨by decide, ⟨1, starts⟩,
    (scope_is_first_longest_run policy now diffs (by decide)).2.1 ⟨1, starts⟩⟩

end ArchiveUpkeep.MergePolicy
