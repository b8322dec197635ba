import ArchiveUpkeep.Text.Blank
import Mathlib.Data.List.DropRight

/-! Texts without the white space around them. Trimming takes away blank characters at both ends and
nothing else, and leaves a text alone that has none there. -/
namespace ArchiveUpkeep.Text
variable {cs : List Char} {c : Char} {s : String}

/-- What is left of a text when the white space around it is taken away. -/
structure Trimmed (s t : String) : Prop where
  around : ∃ before after : String, s = before ++ t ++ after ∧
    (∀ c ∈ before.toList, isBlank c) ∧ ∀ c ∈ after.toList, isBlank c
  head : ∀ c ∈ t.toList.head?, ¬ isBlank c
  last : ∀ c ∈ t.toList.getLast?, ¬ isBlank c

/-- A text with something in it and no white space around it. -/
structure Plain (s : String) : Prop where
  nonempty : s ≠ ""
  head : ∀ c ∈ s.toList.head?, ¬ isBlank c
  last : ∀ c ∈ s.toList.getLast?, ¬ isBlank c

theorem plain_iff {s : String} :
    Plain s ↔ s ≠ "" ∧ s.toList.head?.all (!isBlank ·) ∧ s.toList.getLast?.all (!isBlank ·) := by
  simp only [Option.all_eq_true, Bool.not_eq_true', ← Bool.not_eq_true]
  constructor
  · rintro ⟨nonempty, head, last⟩
    exact ⟨nonempty, head, last⟩
  · rintro ⟨nonempty, head, last⟩
    exact ⟨nonempty, head, last⟩

instance (s : String) : Decidable (Plain s) := decidable_of_iff _ plain_iff.symm

theorem trimChars_eq_rdropWhile (cs : List Char) :
    trimChars cs = (cs.dropWhile isBlank).rdropWhile isBlank := rfl

theorem trimmed_trim (s : String) : Trimmed s (trim s) where
  around := by
    refine ⟨.ofList (s.toList.takeWhile isBlank),
      .ofList ((s.toList.dropWhile isBlank).rtakeWhile isBlank), ?_, ?_, ?_⟩
    · rw [← String.toList_inj]
      simp only [String.toList_append, String.toList_ofList, toList_trim, trimChars_eq_rdropWhile]
      rw [List.append_assoc, List.rdropWhile_append_rtakeWhile, List.takeWhile_append_dropWhile]
    · rw [String.toList_ofList]
      exact fun c => List.mem_takeWhile_imp
    · rw [String.toList_ofList]
      exact fun c => List.mem_rtakeWhile_imp
  head c found := by
    rw [toList_trim, trimChars_eq_rdropWhile] at found
    have front := @List.rdropWhile_prefix _ isBlank (s.toList.dropWhile isBlank)
    rw [← List.head_of_mem_head? found, front.head]
    exact Bool.eq_false_iff.1 (List.head_dropWhile_not isBlank _)
  last c found := by
    rw [toList_trim, trimChars_eq_rdropWhile] at found
    obtain ⟨kept, rfl⟩ := List.mem_getLast?_eq_getLast found
    exact List.rdropWhile_last_not _ _ kept

theorem plain_trim {s : String} (filled : trim s ≠ "") : Plain (trim s) :=
  have trimmed := trimmed_trim s
  ⟨filled, trimmed.head, trimmed.last⟩

theorem dropWhile_append_of_blank {front : List Char} (blank : ∀ c ∈ front, isBlank c)
    (head : ∀ c ∈ cs.head?, ¬ isBlank c) : (front ++ cs).dropWhile isBlank = cs := by
  rw [List.dropWhile_append_of_pos blank, List.dropWhile_eq_self_iff]
  intro filled
  refine head _ ?_
  rw [List.head?_eq_getElem?, List.getElem?_eq_getElem filled]
  rfl

theorem trimChars_of_surrounded {before after : List Char} (head : ∀ c ∈ cs.head?, ¬ isBlank c)
    (last : ∀ c ∈ cs.getLast?, ¬ isBlank c) (blankBefore : ∀ c ∈ before, isBlank c)
    (blankAfter : ∀ c ∈ after, isBlank c) : trimChars (before ++ cs ++ after) = cs := by
  cases cs with
  | nil =>
    -- with nothing in between, all of the text is in front
    have blank : ∀ c ∈ before ++ [] ++ after, isBlank c := by
      rw [List.append_nil]
      exact List.forall_mem_append.2 ⟨blankBefore, blankAfter⟩
    have gone : (before ++ [] ++ after ++ []).dropWhile isBlank = [] :=
      dropWhile_append_of_blank blank nofun
    rw [List.append_nil] at gone
    rw [trimChars, gone]
    rfl
  | cons c cs =>
    have front : (before ++ (c :: cs ++ after)).dropWhile isBlank = c :: cs ++ after :=
      dropWhile_append_of_blank blankBefore head
    rw [trimChars, List.append_assoc, front, trimEnd, List.reverse_append,
      dropWhile_append_of_blank, List.reverse_reverse]
    · simpa using blankAfter
    · rwa [List.head?_reverse]

theorem trimChars_of_bare (head : ∀ c ∈ cs.head?, ¬ isBlank c)
    (last : ∀ c ∈ cs.getLast?, ¬ isBlank c) : trimChars cs = cs := by
  have alone := trimChars_of_surrounded head last (List.forall_mem_nil _) (List.forall_mem_nil _)
  rwa [List.nil_append, List.append_nil] at alone

/-- There is one way to take the white space around a text away. -/
theorem Trimmed.trim_eq {t : String} (trimmed : Trimmed s t) : trim s = t := by
  obtain ⟨⟨before, after, rfl, blankBefore, blankAfter⟩, head, last⟩ := trimmed
  rw [← String.toList_inj, toList_trim, String.toList_append, String.toList_append]
  exact trimChars_of_surrounded head last blankBefore blankAfter

theorem trimChars_of_filled (filled : ∀ c ∈ cs, ¬ isBlank c) : trimChars cs = cs :=
  trimChars_of_bare (fun c found => filled c (List.mem_of_mem_head? found))
    fun c found => filled c (List.mem_of_getLast? found)

theorem Plain.trim_eq (plain : Plain s) : trim s = s := by
  rw [trim, trimChars_of_bare plain.head plain.last, String.ofList_toList]

theorem toNat_of_isDigit (digit : c.isDigit) : 48 ≤ c.toNat ∧ c.toNat ≤ 57 := by
  simp only [Char.isDigit, Bool.and_eq_true, decide_eq_true_eq, ge_iff_le,
    UInt32.le_iff_toNat_le] at digit
  exact digit

theorem not_isBlank_of_isDigit (digit : c.isDigit) : ¬ isBlank c := by
  obtain ⟨lower, upper⟩ := toNat_of_isDigit digit
  simp only [isBlank, List.any_eq_true, Bool.and_eq_true, decide_eq_true_eq, not_exists, not_and]
  intro range listed
  -- every range of blank code points lies before or behind the digits
  have apart : range.2 < 48 ∨ 57 < range.1 :=
    (show ∀ range ∈ blankRanges, range.2 < 48 ∨ 57 < range.1 by decide) range listed
  omega

end ArchiveUpkeep.Text
