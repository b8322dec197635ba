import ArchiveUpkeep.Proofs.MergeRelaxation

/-! How a merge covers the diffs that it is made of. Only the two ends of the run are compared when
its range is built, but each diff starts where its predecessor ends. So among diffs that never lead
back the ends cannot be inverted, all boundaries of the run lie between them, and a merge that is
refused shows that some diff leads back. -/
namespace ArchiveUpkeep

namespace GidRange
variable {lower upper : Gid} {range : GidRange} {cause : ChainError}

theorem between_eq_ok_iff :
    between lower upper = .ok range ↔ lower = range.start ∧ upper = range.stop := by
  obtain ⟨start, stop, ordered⟩ := range
  unfold between
  split
  next => simp
  next inverted =>
    refine iff_of_false nofun ?_
    rintro ⟨rfl, rfl⟩
    exact inverted ordered

theorem between_eq_error_iff :
    between lower upper = .error cause ↔
      upper < lower ∧ cause = .invertedRange lower upper := by
  unfold between
  split
  next ordered => exact iff_of_false nofun fun inverted => UInt64.not_lt.2 ordered inverted.1
  next inverted => rw [Except.error.injEq, and_iff_right (UInt64.not_le.1 inverted), eq_comm]

end GidRange

namespace MergePolicy

/-- The run that a merge is made of, which is empty if no merge is found. -/
def chosenRun (policy : MergePolicy) (now : Instant) : List Diff → List Diff
  | [] => []
  | first :: rest =>
    if policy.Settled now first then
      if first.mergeable ∧ policy.extension now first 1 first.size rest ≠ [] then
        first :: policy.extension now first 1 first.size rest
      else policy.chosenRun now rest
    else []

/-- The range that a run leads through, from where it starts to where it ends. -/
def span : List Diff → Except ChainError (Option GidRange)
  | [] => .ok none
  | first :: rest =>
    let last := (first :: rest).getLast (List.cons_ne_nil first rest)
    (GidRange.between first.origin.lower last.result.lower).map some

/-- A run leads from where its first diff starts to where its last diff ends. -/
structure Leads (run : List Diff) (lower upper : Gid) : Prop where
  starts : ∃ first ∈ run.head?, first.origin.lower = lower
  stops : ∃ last ∈ run.getLast?, last.result.lower = upper

/-- A run leads from one generation to another without a gap, and never beyond these two. -/
structure Tiles (run : List Diff) (lower upper : Gid) : Prop extends Leads run lower upper where
  chained : run.IsChain Diff.FollowedBy
  origin_within : ∀ d ∈ run, lower ≤ d.origin.lower ∧ d.origin.lower ≤ upper
  result_within : ∀ d ∈ run, lower ≤ d.result.lower ∧ d.result.lower ≤ upper

variable {policy : MergePolicy} {now : Instant} {first : Diff} {diffs rest run : List Diff}
  {lower upper : Gid} {cause : ChainError} {range : GidRange}

theorem leads_cons_iff :
    Leads (first :: rest) lower upper ↔ first.origin.lower = lower ∧
      ((first :: rest).getLast (List.cons_ne_nil first rest)).result.lower = upper := by
  have last_eq := List.getLast?_eq_some_getLast (List.cons_ne_nil first rest)
  constructor
  · rintro ⟨⟨_, ⟨⟩, starts⟩, last, found, stops⟩
    cases last_eq.symm.trans found
    exact ⟨starts, stops⟩
  · rintro ⟨starts, stops⟩
    exact ⟨⟨first, rfl, starts⟩, _, last_eq, stops⟩

theorem span_eq_some_iff : span run = .ok (some range) ↔ Leads run range.start range.stop := by
  cases run with
  | nil => exact iff_of_false nofun fun leads => by simpa using leads.starts
  | cons first rest =>
    rw [leads_cons_iff, ← GidRange.between_eq_ok_iff, span]
    cases GidRange.between .. <;> simp [Except.map]

theorem span_eq_error_iff :
    span run = .error cause ↔
      ∃ lower upper, Leads run lower upper ∧ upper < lower ∧
        cause = .invertedRange lower upper := by
  cases run with
  | nil =>
    refine iff_of_false nofun ?_
    rintro ⟨lower, upper, leads, -⟩
    simpa using leads.starts
  | cons first rest =>
    simp only [leads_cons_iff, and_assoc, exists_and_left, exists_eq_left',
      ← GidRange.between_eq_error_iff, span]
    cases GidRange.between .. <;> simp [Except.map]

/-- The search finds the range that the chosen run leads through. -/
theorem scope_eq_span : policy.scope now diffs = span (policy.chosenRun now diffs) := by
  induction diffs with
  | nil => rfl
  | cons first rest ih =>
    rw [scope, chosenRun]
    by_cases settled : policy.Settled now first
    · rw [if_pos settled, if_pos settled]
      by_cases mergeable : first.mergeable
      · rw [if_pos mergeable]
        cases goesOn : policy.extension now first 1 first.size rest with
        | nil => simpa using ih
        | cons next more =>
          have nonempty := List.cons_ne_nil next more
          rw [if_pos ⟨mergeable, nonempty⟩, List.getLast?_eq_some_getLast nonempty, span,
            List.getLast_cons nonempty]
      · simpa [mergeable] using ih
    · rw [if_neg settled, if_neg settled, span]

theorem chosenRun_isInfix : policy.chosenRun now diffs <:+: diffs := by
  induction diffs with
  | nil => exact List.infix_rfl
  | cons first rest ih =>
    unfold chosenRun
    split
    · split
      · have taken : policy.extension now first 1 first.size rest <+: rest := extension_prefix ..
        exact (List.prefix_cons_inj first |>.2 taken).isInfix
      · exact ih.trans (List.suffix_cons first rest).isInfix
    · exact (List.nil_prefix).isInfix

theorem chained_extension (last : Diff) (count : Nat) (size : UInt64) (rest : List Diff) :
    (last :: policy.extension now last count size rest).IsChain Diff.FollowedBy := by
  induction rest generalizing last count size with
  | nil => exact List.isChain_singleton last
  | cons next rest ih =>
    unfold extension
    split
    next goesOn => exact List.isChain_cons_cons.2 ⟨goesOn.2.2.1, ih next _ _⟩
    next => exact List.isChain_singleton last

theorem chosenRun_chained : (policy.chosenRun now diffs).IsChain Diff.FollowedBy := by
  induction diffs with
  | nil => exact List.isChain_nil
  | cons first rest ih =>
    unfold chosenRun
    split
    · split
      · exact chained_extension first 1 first.size rest
      · exact ih
    · exact List.isChain_nil

/-- Below the greatest bound on the size the chosen run is the one that starts at the first place
where a run can, and is as long as it can be. -/
theorem chosen_of_chosenRun (bounded : policy.maxSize.toNat < UInt64.size - 1)
    (found : policy.chosenRun now diffs ≠ []) :
    ∃ i j first last, policy.Chosen now diffs i j first last ∧
      policy.chosenRun now diffs = (diffs.drop i).take (j - i) := by
  induction diffs with
  | nil => exact absurd rfl found
  | cons first rest ih =>
    rw [chosenRun] at found ⊢
    split at found
    next settled =>
      have aged := settled_iff_aged.1 settled
      rw [if_pos settled]
      by_cases starts : policy.StartsAt now (first :: rest) 0
      · obtain ⟨-, mergeable, nonempty⟩ := (startsAt_zero_iff bounded).1 starts
        have last_eq := List.getLast?_eq_some_getLast nonempty
        have taken : policy.extension now first 1 first.size rest <+: rest := extension_prefix ..
        refine ⟨0, _, first, _, chosen_of_startsAt_zero bounded starts last_eq, ?_⟩
        rw [if_pos ⟨mergeable, nonempty⟩, List.drop_zero, Nat.sub_zero, List.take_succ_cons,
          ← List.prefix_iff_eq_take.1 taken]
      · have alone : ¬ (first.mergeable ∧ policy.extension now first 1 first.size rest ≠ []) :=
          fun goesOn => starts ((startsAt_zero_iff bounded).2 ⟨aged, goesOn⟩)
        rw [if_neg alone] at found ⊢
        obtain ⟨i, j, start, last, chosen, run_eq⟩ := ih found
        refine ⟨i + 1, j + 1, start, last, chosen.cons aged starts, ?_⟩
        rw [run_eq, List.drop_succ_cons, Nat.add_sub_add_right]
    next => exact absurd rfl found

/-- Where each diff ends is where the next one starts, so diffs that never lead back stay between
the ends of their run. -/
theorem Leads.within (leads : Leads run lower upper) (forward : ∀ d ∈ run, d.Forward)
    (chained : run.IsChain Diff.FollowedBy) :
    ∀ d ∈ run, lower ≤ d.origin.lower ∧ d.result.lower ≤ upper := by
  induction run generalizing lower with
  | nil => simp
  | cons first rest ih =>
    obtain ⟨rfl, rfl⟩ := leads_cons_iff.1 leads
    cases rest with
    | nil => simp
    | cons next rest =>
      rw [List.forall_mem_cons] at forward
      obtain ⟨followed, chained⟩ := List.isChain_cons_cons.1 chained
      have restLeads : Leads (next :: rest) next.origin.lower
          ((first :: next :: rest).getLast (List.cons_ne_nil _ _)).result.lower :=
        leads_cons_iff.2 ⟨rfl, rfl⟩
      have restWithin := ih restLeads forward.2 chained
      have onward : first.origin.lower ≤ next.origin.lower := followed ▸ forward.1
      have nextOnward : next.origin.lower ≤ next.result.lower := forward.2 next List.mem_cons_self
      intro d listed
      rcases List.mem_cons.1 listed with rfl | listed
      · have reached := UInt64.le_trans nextOnward (restWithin next List.mem_cons_self).2
        exact ⟨UInt64.le_refl _, followed ▸ reached⟩
      · obtain ⟨starts, stops⟩ := restWithin d listed
        exact ⟨UInt64.le_trans onward starts, stops⟩

theorem Leads.tiles (leads : Leads run lower upper) (forward : ∀ d ∈ run, d.Forward)
    (chained : run.IsChain Diff.FollowedBy) : Tiles run lower upper where
  toLeads := leads
  chained := chained
  origin_within d listed := by
    obtain ⟨starts, stops⟩ := leads.within forward chained d listed
    exact ⟨starts, UInt64.le_trans (forward d listed) stops⟩
  result_within d listed := by
    obtain ⟨starts, stops⟩ := leads.within forward chained d listed
    exact ⟨UInt64.le_trans starts (forward d listed), stops⟩

theorem Tiles.lower_le_upper (tiles : Tiles run lower upper) : lower ≤ upper := by
  obtain ⟨first, leads, -⟩ := tiles.starts
  obtain ⟨starts, stops⟩ := tiles.origin_within first (List.mem_of_mem_head? leads)
  exact UInt64.le_trans starts stops

/-- Among diffs that never lead back a merge is never refused, and its range is tiled. -/
theorem scope_of_forward_run (forward : ∀ d ∈ diffs, d.Forward) :
    ∃ found, policy.scope now diffs = .ok found ∧
      ∀ range, found = some range → Tiles (policy.chosenRun now diffs) range.start range.stop := by
  have runForward : ∀ d ∈ policy.chosenRun now diffs, d.Forward := fun d listed =>
    forward d (chosenRun_isInfix.subset listed)
  cases searched : policy.scope now diffs with
  | ok found =>
    refine ⟨found, rfl, ?_⟩
    rintro range rfl
    have leads := span_eq_some_iff.1 (scope_eq_span.symm.trans searched)
    exact leads.tiles runForward chosenRun_chained
  | error cause =>
    obtain ⟨lower, upper, leads, back, -⟩ :=
      span_eq_error_iff.1 (scope_eq_span.symm.trans searched)
    exact absurd (leads.tiles runForward chosenRun_chained).lower_le_upper (UInt64.not_le.2 back)

/-- A merge is refused only for a run whose ends are inverted, and then a diff of the listing leads
back. Among diffs that never lead back the search succeeds, and the run of the merge that it finds
tiles its range. That run is a part of the listing, and below the greatest bound on the size it is
the first and longest run that may be merged. -/
theorem merge_fails_only_backwards (policy : MergePolicy) (now : Instant) (diffs : List Diff) :
    (∀ cause, policy.scope now diffs = .error cause →
      ∃ lower upper, cause = .invertedRange lower upper ∧ upper < lower ∧
        Leads (policy.chosenRun now diffs) lower upper ∧
        ∃ d ∈ diffs, d.result.lower < d.origin.lower) ∧
    ((∀ d ∈ diffs, d.origin.lower ≤ d.result.lower) →
      ∃ found, policy.scope now diffs = .ok found ∧
        ∀ range, found = some range →
          Tiles (policy.chosenRun now diffs) range.start range.stop) ∧
    policy.chosenRun now diffs <:+: diffs ∧
    policy.scope now diffs = span (policy.chosenRun now diffs) ∧
    (policy.maxSize.toNat < UInt64.size - 1 → policy.chosenRun now diffs ≠ [] →
      ∃ i j first last, policy.Chosen now diffs i j first last ∧
        policy.chosenRun now diffs = (diffs.drop i).take (j - i)) := by
  refine ⟨fun cause failed => ?_, scope_of_forward_run, chosenRun_isInfix, scope_eq_span,
    chosen_of_chosenRun⟩
  obtain ⟨lower, upper, leads, back, rfl⟩ := span_eq_error_iff.1 (scope_eq_span.symm.trans failed)
  refine ⟨lower, upper, rfl, back, leads, ?_⟩
  by_contra none_back
  have forward : ∀ d ∈ diffs, d.Forward := fun d listed =>
    UInt64.not_lt.1 fun leadsBack => none_back ⟨d, listed, leadsBack⟩
  obtain ⟨found, succeeded, -⟩ : ∃ found, policy.scope now diffs = .ok found ∧ _ :=
    scope_of_forward_run forward
  exact nomatch failed.symm.trans succeeded

/-- Two diffs that lead on are merged, and two of which the second leads back behind the first are
refused. -/
theorem merge_fails_only_backwards_of_two :
    let policy : MergePolicy := {}
    let now : Instant := .ofSeconds 3600
    let onward := [oneGeneration 0 60, oneGeneration 1 40]
    let backward := [oneGeneration 5 60, { oneGeneration 6 40 with result := .clean 2 }]
    (∀ d ∈ onward, d.origin.lower ≤ d.result.lower) ∧
      policy.scope now onward = .ok (some ⟨0, 2, by decide⟩) ∧
      Tiles (policy.chosenRun now onward) 0 2 ∧
      policy.scope now backward = .error (.invertedRange 5 2) ∧
      ∃ d ∈ backward, d.result.lower < d.origin.lower := by
  intro policy now onward backward
  have forward : ∀ d ∈ onward, d.origin.lower ≤ d.result.lower := by decide
  have found : policy.scope now onward = .ok (some ⟨0, 2, by decide⟩) := by decide
  have refused : policy.scope now backward = .error (.invertedRange 5 2) := by decide
  obtain ⟨-, tiled, -⟩ := merge_fails_only_backwards policy now onward
  obtain ⟨again, succeeded, tiles⟩ := tiled forward
  cases found.symm.trans succeeded
  obtain ⟨failing, -⟩ := merge_fails_only_backwards policy now backward
  obtain ⟨lower, upper, -, -, -, leadsBack⟩ := failing _ refused
  exact ⟨forward, found, tiles _ rfl, refused, leadsBack⟩

end MergePolicy

end ArchiveUpkeep
