import ArchiveUpkeep.Proofs.TrimmedTexts
import ArchiveUpkeep.Proofs.WrittenValues
import Mathlib.Data.Nat.Digits.Defs

/-! Which texts are measures, and of what. A measure is spelled by ASCII digits and the suffix of a
unit, with any white space around both, and is read as exactly the number times the factor of the
unit. Digits may be as many as they like, as long as that product fits 64 bits. Every other text is
refused, and the refusal quotes it without the white space. -/
namespace ArchiveUpkeep
open Text Written

/-- The number that digits spell in base ten: a place counts ten times the one behind it. -/
def Text.spelled (digits : String) : Nat :=
  Nat.ofDigits 10 (digits.toList.reverse.map fun c => c.toNat - '0'.toNat)

/-- The text is one or more ASCII digits and then the suffix of one of the units, and the number
times the factor of that unit is `n`. -/
def Text.Spells (units : List (String × Nat)) (t : String) (n : Nat) : Prop :=
  ∃ digits suffix factor, t = digits ++ suffix ∧ digits ≠ "" ∧
    (∀ c ∈ digits.toList, '0' ≤ c ∧ c ≤ '9') ∧ (suffix, factor) ∈ units ∧
    n = spelled digits * factor

/-- The units of a notation with their suffixes as characters. -/
def Text.unitChars (units : List (String × Nat)) : List (List Char × Nat) :=
  units.map fun unit => (unit.1.toList, unit.2)

theorem digitsValue_eq_spelled (digits : String) : digitsValue digits.toList = spelled digits := by
  rw [spelled, Nat.ofDigits_eq_foldr, List.foldr_map, List.foldr_reverse]
  simp [digitsValue, Nat.ofDigitChars, Nat.add_comm]

theorem isDigit_iff {c : Char} : c.isDigit ↔ '0' ≤ c ∧ c ≤ '9' := by
  simp only [Char.isDigit, Bool.and_eq_true, decide_eq_true_eq]
  rfl

theorem digits_iff {digits : String} {n : Nat} :
    Digits digits.toList n ↔
      digits ≠ "" ∧ (∀ c ∈ digits.toList, '0' ≤ c ∧ c ≤ '9') ∧ n = spelled digits := by
  simp only [← isDigit_iff, ← digitsValue_eq_spelled]
  constructor
  · rintro ⟨nonempty, digits, value⟩
    exact ⟨fun empty => nonempty (by simp [empty]), digits, value.symm⟩
  · rintro ⟨nonempty, digits, value⟩
    exact ⟨fun empty => nonempty (String.toList_eq_nil_iff.1 empty), digits, value.symm⟩

theorem scaled_iff_spells {units : List (String × Nat)} {t : String} {n : Nat} :
    Scaled (unitChars units) t.toList n ↔ Spells units t n := by
  constructor
  · generalize shape : t.toList = cs
    rintro @⟨digits, suffix, number, factor, written, listed⟩
    obtain ⟨⟨suffix, factor⟩, unit, ⟨⟩⟩ := List.mem_map.1 listed
    rw [← String.toList_ofList (l := digits), digits_iff] at written
    obtain ⟨nonempty, digitsOnly, rfl⟩ := written
    refine ⟨.ofList digits, suffix, factor, ?_, nonempty, digitsOnly, unit, rfl⟩
    rw [← String.toList_inj, shape, String.toList_append, String.toList_ofList]
  · rintro ⟨digits, suffix, factor, rfl, nonempty, digitsOnly, unit, rfl⟩
    rw [String.toList_append]
    exact .intro (digits_iff.2 ⟨nonempty, digitsOnly, rfl⟩)
      (List.mem_map.2 ⟨(suffix, factor), unit, rfl⟩)

/-- A reader of measures accepts the texts that spell a number below two to the sixty-four with one
of its units, and has one and the same error for all others. -/
theorem read_iff_spells {α : Type} {chars : List (List Char × Nat)}
    {unit? : List Char → Option Nat} (units : List (String × Nat)) (f : UInt64 → α)
    (error : MeasureError) (s : String) (same : unitChars units = chars)
    (known : ∀ suffix factor, unit? suffix = some factor ↔ (suffix, factor) ∈ chars)
    (apart : ∀ unit ∈ chars, unit.1.takeWhile Char.isDigit = [])
    (positive : ∀ unit ∈ chars, 0 < unit.2) :
    let read := match Measure.readScaled? unit? (trimChars s.toList) with
      | some number => Except.ok (f number)
      | none => .error error
    (∀ a, read = .ok a ↔ ∃ n < UInt64.size, Spells units (trim s) n ∧ a = f n.toUInt64) ∧
      ∀ refusal, read = .error refusal ↔
        refusal = error ∧ ∀ n, Spells units (trim s) n → UInt64.size ≤ n := by
  intro read
  have ok_iff (a : α) :
      read = .ok a ↔ ∃ n < UInt64.size, Spells units (trim s) n ∧ a = f n.toUInt64 := by
    refine (match_readScaled?_eq_ok_iff known apart positive).trans ?_
    simp only [← toList_trim, ← same, scaled_iff_spells, and_left_comm]
  have only_error {other : MeasureError} (refused : read = .error other) : other = error := by
    unfold read at refused
    split at refused
    next => cases refused
    next => exact (Except.error.inj refused).symm
  refine ⟨ok_iff, fun refusal => ⟨fun refused => ⟨only_error refused, ?_⟩, ?_⟩⟩
  · intro n spelled
    refine Nat.not_lt.1 fun small => ?_
    exact nomatch refused.symm.trans ((ok_iff _).2 ⟨n, small, spelled, rfl⟩)
  · rintro ⟨rfl, large⟩
    cases outcome : read with
    | ok a =>
      obtain ⟨n, small, spelled, -⟩ := (ok_iff a).1 outcome
      exact absurd small (Nat.not_lt.2 (large n spelled))
    | error other => rw [only_error outcome]

theorem eq_toUInt64_iff {read : UInt64} {n : Nat} (small : n < UInt64.size) :
    read = n.toUInt64 ↔ read.toNat = n := by
  rw [← UInt64.toNat_inj, Nat.toUInt64_eq, UInt64.toNat_ofNat_of_lt' small]

theorem Period.eq_ofSeconds_iff {period : Period} {seconds : UInt64} :
    period = .ofSeconds seconds ↔ period.seconds = seconds ∧ period.nanos.val = 0 := by
  obtain ⟨own, nanos⟩ := period
  simp only [ofSeconds, mk.injEq, Fin.ext_iff, Nanos.zero]

/-- The suffixes of a period, with the seconds that each stands for. -/
def Period.suffixes : List (String × Nat) :=
  [("", 1), ("s", 1), ("m", 60), ("h", 3600), ("d", 86400)]

/-- A period is spelled in seconds, minutes, hours or days, and a number without a suffix counts
seconds. It is read as exactly that many seconds. -/
theorem period_is_read_as_spelled (s : String) :
    Trimmed s (trim s) ∧
      (∀ period, Period.parse s = .ok period ↔
        ∃ n < UInt64.size, Spells Period.suffixes (trim s) n ∧
          period.seconds.toNat = n ∧ period.nanos.val = 0) ∧
      ∀ error, Period.parse s = .error error ↔
        error = .period (trim s) ∧ ∀ n, Spells Period.suffixes (trim s) n → UInt64.size ≤ n := by
  obtain ⟨accepted, refused⟩ := read_iff_spells Period.suffixes Period.ofSeconds
    (.period (trim s)) s rfl period_unit?_eq_some_iff (by decide) (by decide)
  refine ⟨trimmed_trim s, fun period => (accepted period).trans ?_, refused⟩
  refine exists_congr fun n => and_congr_right fun small => and_congr_right fun _ => ?_
  rw [Period.eq_ofSeconds_iff, eq_toUInt64_iff small]

/-- The whole minutes around the bound, with zeros in front and white space beyond ASCII. -/
example : Period.parse "\u2003000307445734561825860m\n" = .ok (.ofSeconds 18446744073709551600) ∧
    Period.parse "307445734561825861m" = .error (.period "307445734561825861m") := by decide

/-- The suffixes of a size, with the bytes that each stands for. -/
def Size.suffixes : List (String × Nat) :=
  [("", 1), ("K", 1024), ("k", 1024), ("M", 1048576), ("m", 1048576), ("G", 1073741824),
    ("g", 1073741824)]

/-- A size is spelled in bytes or in binary multiples of them, in either case. It is read as exactly
that many bytes. -/
theorem size_is_read_as_spelled (s : String) :
    Trimmed s (trim s) ∧
      (∀ size, Size.parse s = .ok size ↔
        ∃ n < UInt64.size, Spells Size.suffixes (trim s) n ∧ size.toNat = n) ∧
      ∀ error, Size.parse s = .error error ↔
        error = .size (trim s) ∧ ∀ n, Spells Size.suffixes (trim s) n → UInt64.size ≤ n := by
  obtain ⟨accepted, refused⟩ := read_iff_spells Size.suffixes (fun bytes => bytes)
    (.size (trim s)) s rfl size_unit?_eq_some_iff (by decide) (by decide)
  refine ⟨trimmed_trim s, fun size => (accepted size).trans ?_, refused⟩
  exact exists_congr fun n => and_congr_right fun small => and_congr_right fun _ =>
    eq_toUInt64_iff small

end ArchiveUpkeep
