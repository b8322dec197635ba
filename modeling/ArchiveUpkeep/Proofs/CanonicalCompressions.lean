import ArchiveUpkeep.Proofs.CanonicalValues
import ArchiveUpkeep.Proofs.SpelledCompressions

/-! The one text that an option is written as. All three fields are in it, and its numbers have no
sign and no zero in front of another digit. White space around it does not keep it from being read
as the option, and of the many texts that are read as the same option it is the only one of this
form. -/
namespace ArchiveUpkeep
open Text Written

namespace Text
variable {n : Nat} {t : String}

/-- The text spells `n` in ASCII digits, and no zero stands in front of another digit. -/
structure Numeral (t : String) (n : Nat) : Prop where
  nonempty : t ≠ ""
  digits : ∀ c ∈ t.toList, '0' ≤ c ∧ c ≤ '9'
  value : n = spelled t
  shortest : t.toList.head? = some '0' → t = "0"

theorem exists_digitChar {c : Char} (digit : c.isDigit) : ∃ d < 10, Nat.digitChar d = c := by
  obtain ⟨lower, upper⟩ := toNat_of_isDigit digit
  have small : c.toNat - 48 < 10 := by omega
  refine ⟨c.toNat - 48, small, ?_⟩
  rw [← Char.toNat_inj, Nat.toNat_digitChar_of_lt_ten small]
  omega

/-- Digits behind the numeral of a number make the numeral of a larger one, unless the number is
zero. -/
theorem toDigits_ofDigitChars {cs : List Char} (positive : 0 < n)
    (digits : ∀ c ∈ cs, c.isDigit) :
    Nat.toDigits 10 (Nat.ofDigitChars 10 cs n) = Nat.toDigits 10 n ++ cs := by
  induction cs generalizing n with
  | nil => simp
  | cons c cs ih =>
    obtain ⟨digit, later⟩ := List.forall_mem_cons.1 digits
    obtain ⟨d, small, rfl⟩ := exists_digitChar digit
    calc Nat.toDigits 10 (Nat.ofDigitChars 10 (d.digitChar :: cs) n)
        = Nat.toDigits 10 (10 * n + d) ++ cs := by
          rw [Nat.ofDigitChars_cons_digitChar_of_lt_ten small, ih (by omega) later]
      _ = Nat.toDigits 10 n ++ [d.digitChar] ++ cs := by
          rw [← Nat.toDigits_append_toDigits (by decide) positive small,
            Nat.toDigits_of_lt_base small]
      _ = Nat.toDigits 10 n ++ d.digitChar :: cs := by
          rw [List.append_assoc, List.singleton_append]

/-- Only the numeral of zero begins with a zero. -/
theorem eq_zero_of_head?_toDigits (zero : (Nat.toDigits 10 n).head? = some '0') : n = 0 := by
  induction n using Nat.strongRecOn with
  | ind n ih =>
    rw [Nat.toDigits_eq_if (by decide)] at zero
    split at zero
    case isTrue small => exact Nat.digitChar_eq_zero.1 (Option.some.inj zero)
    case isFalse large =>
      rw [List.head?_append_of_ne_nil _ Nat.toDigits_ne_nil] at zero
      have tens := ih (n / 10) (by omega) zero
      omega

/-- A number has one numeral, which is what the number is shown as. -/
theorem numeral_iff : Numeral t n ↔ t = toString n := by
  constructor
  · rintro ⟨nonempty, digits, value, shortest⟩
    have written := digits_iff.2 ⟨nonempty, digits, value⟩
    rw [← String.toList_inj, toList_toString_nat, ← written.value]
    obtain ⟨c, cs, shape⟩ := List.exists_cons_of_ne_nil written.nonempty
    obtain ⟨digit, later⟩ := List.forall_mem_cons.1 (shape ▸ written.digits)
    obtain ⟨d, small, rfl⟩ := exists_digitChar digit
    rcases Nat.eq_zero_or_pos d with rfl | positive
    · rw [shortest (by rw [shape]; rfl)]
      rfl
    · rw [shape, digitsValue, Nat.ofDigitChars_cons_digitChar_of_lt_ten small, Nat.mul_zero,
        Nat.zero_add, toDigits_ofDigitChars positive later, Nat.toDigits_of_lt_base small]
      rfl
  · rintro rfl
    have written : Digits (toString n).toList n := by
      rw [toList_toString_nat]
      exact digits_toDigits n
    obtain ⟨nonempty, digits, value⟩ := digits_iff.1 written
    refine ⟨nonempty, digits, value, fun zero => ?_⟩
    rw [toList_toString_nat] at zero
    rw [eq_zero_of_head?_toDigits zero]
    rfl

end Text

namespace Compression

/-- The text has all three fields of an option, and its numbers are numerals that fit. -/
inductive Canonical : String → Prop where
  | intro {name level threads : String} {codec : Codec} {n m : UInt32}
      (known : (name, codec) ∈ Codec.names) (ofLevel : Numeral level n.toNat)
      (ofThreads : Numeral threads m.toNat) : Canonical (name ++ ":" ++ level ++ ":" ++ threads)

theorem canonical_iff {t : String} : Canonical t ↔ ∃ option : Compression, t = toString option := by
  constructor
  · rintro @⟨name, level, threads, codec, n, m, known, ofLevel, ofThreads⟩
    refine ⟨⟨codec, n, m⟩, ?_⟩
    rw [Codec.mem_names_iff.1 known, numeral_iff.1 ofLevel, numeral_iff.1 ofThreads]
    rfl
  · rintro ⟨option, rfl⟩
    exact .intro (Codec.mem_names_iff.2 rfl) (numeral_iff.2 rfl) (numeral_iff.2 rfl)

theorem parse_toString (option : Compression) : parse (toString option) = .ok option :=
  option.parse_toText

theorem parse_of_trimmed {s : String} {option : Compression}
    (trimmed : Trimmed s (toString option)) : parse s = .ok option := by
  have written := compression_parse_eq_ok_iff.1 option.parse_toText
  rw [trimChars_of_filled option.filled_toText] at written
  rw [compression_parse_eq_ok_iff, ← toList_trim, trimmed.trim_eq]
  exact written

theorem trimmed_of_surrounded {before after : String} (option : Compression)
    (blankBefore : ∀ c ∈ before.toList, isBlank c) (blankAfter : ∀ c ∈ after.toList, isBlank c) :
    Trimmed (before ++ toString option ++ after) (toString option) where
  around := ⟨before, after, rfl, blankBefore, blankAfter⟩
  head c found := option.filled_toText c (List.mem_of_mem_head? found)
  last c found := option.filled_toText c (List.mem_of_getLast? found)

/-- An option is read back from the text it is written as, with any white space around it, so no two
options are written alike. What is read from any text is written in canonical form. That form is
read as the same option and written as itself again, and no other canonical text is read so. -/
theorem compression_is_read_back :
    (∀ (option : Compression) (before after : String), (∀ c ∈ before.toList, isBlank c) →
        (∀ c ∈ after.toList, isBlank c) →
        parse (before ++ toString option ++ after) = .ok option) ∧
      Function.Injective (toString : Compression → String) ∧
      ∀ (s : String) (option : Compression), parse s = .ok option →
        Canonical (toString option) ∧ parse (toString option) = .ok option ∧
          (parse (toString option)).map toString = .ok (toString option) ∧
          ∀ t, Canonical t → parse t = .ok option → t = toString option := by
  refine ⟨fun option before after blankBefore blankAfter => ?_, fun a b same => ?_,
    fun s option read => ⟨canonical_iff.2 ⟨option, rfl⟩, parse_toString option, ?_, ?_⟩⟩
  · exact parse_of_trimmed (trimmed_of_surrounded option blankBefore blankAfter)
  · have alsoRead : parse (toString a) = .ok b := by rw [same, parse_toString]
    exact Except.ok.inj ((parse_toString a).symm.trans alsoRead)
  · rw [parse_toString]
    rfl
  · intro t canonical alsoRead
    obtain ⟨other, rfl⟩ := canonical_iff.1 canonical
    rw [parse_toString] at alsoRead
    rw [Except.ok.inj alsoRead]

theorem compression_is_read_back_amid_blanks :
    ("\u2003\t".toList.all isBlank ∧ "\u00a0".toList.all isBlank) ∧
      parse ("\u2003\t" ++ toString (⟨.gzip, 4294967295, 0⟩ : Compression) ++ "\u00a0") =
        .ok ⟨.gzip, 4294967295, 0⟩ ∧
      parse "lzma:+007" = .ok ⟨.lzma, 7, 0⟩ ∧
      Canonical (toString (⟨.lzma, 7, 0⟩ : Compression)) ∧
      toString (⟨.lzma, 7, 0⟩ : Compression) = "lzma:7:0" := by
  have blank : "\u2003\t".toList.all isBlank ∧ "\u00a0".toList.all isBlank := by decide
  have read : parse "lzma:+007" = .ok ⟨.lzma, 7, 0⟩ := by decide
  have around := compression_is_read_back.1 ⟨.gzip, 4294967295, 0⟩ "\u2003\t" "\u00a0"
    (List.all_eq_true.1 blank.1) (List.all_eq_true.1 blank.2)
  obtain ⟨canonical, alsoRead, -, only⟩ := compression_is_read_back.2.2 "lzma:+007" _ read
  exact ⟨blank, around, read, canonical, (only "lzma:7:0" canonical alsoRead).symm⟩

end Compression

end ArchiveUpkeep
