import ArchiveUpkeep.Proofs.ValidConfigurations

/-! Values in their plainest writing: texts as they are, numbers and sizes in decimal, periods in
seconds, and compression options with all three fields. Each is read back as what it was written
for, up to the greatest number of its width. -/
namespace ArchiveUpkeep
open Text Written

namespace Written

theorem digits_toDigits (n : Nat) : Digits (Nat.toDigits 10 n) n :=
  (readDigits?_eq_some_iff.1 (readDigits?_toDigits n.lt_succ_self)).1

theorem filled_toDigits (n : Nat) : ∀ c ∈ Nat.toDigits 10 n, ¬ isBlank c := fun c digit =>
  not_isBlank_of_isDigit ((digits_toDigits n).digits c digit)

theorem trimChars_toString (n : Nat) : trimChars (toString n).toList = Nat.toDigits 10 n := by
  rw [toList_toString_nat, trimChars_of_filled (filled_toDigits n)]

theorem count_toString (n : Nat) : Count (trimChars (toString n).toList) n :=
  trimChars_toString n ▸ .plain (digits_toDigits n)

/-- A number with a suffix that stands for a single one of what is counted. -/
theorem scaled_toDigits {units : List (List Char × Nat)} {suffix : List Char}
    (single : (suffix, 1) ∈ units) (n : Nat) : Scaled units (Nat.toDigits 10 n ++ suffix) n := by
  have written := Scaled.intro (digits_toDigits n) single
  rwa [Nat.mul_one] at written

end Written

/-- The text is the number of seconds of the period, with the suffix for seconds or with none. -/
inductive Period.Writes (period : Period) : String → Prop where
  | bare : Writes period (toString period.seconds.toNat)
  | suffixed : Writes period (toString period.seconds.toNat ++ "s")

namespace Period
variable {period : Period} {text : String}

theorem Whole.ofSeconds_eq (whole : period.Whole) : ofSeconds period.seconds = period := by
  obtain ⟨seconds, -, exact⟩ := whole
  have bound := period.nanos.isLt
  have none : period.nanos = Nanos.zero := by
    ext
    simp only [toNanos, Nanos.zero] at exact ⊢
    omega
  rw [ofSeconds, ← none]

end Period

namespace Value
variable {n : UInt64} {s : String} {period : Period}

theorem text_of_plain (plain : Plain s) : text s = .ok s := by
  rw [text_eq_ok_iff, plain.trim_eq]
  exact ⟨plain.nonempty, rfl⟩

theorem port_toString (port : UInt16) : Value.port (toString port.toNat) = .ok port :=
  port_eq_ok_iff.2 ⟨port.toNat, count_toString _, port.toNat_lt, UInt16.ofNat_toNat.symm⟩

theorem natural_toString (n : UInt64) : natural (toString n.toNat) = .ok n :=
  natural_eq_ok_iff.2 ⟨n.toNat, count_toString _, n.toNat_lt, UInt64.ofNat_toNat.symm⟩

theorem positive_toString (enough : 1 ≤ n) : positive (toString n.toNat) = .ok n :=
  positive_eq_ok_iff.2
    ⟨n.toNat, ⟨count_toString _, UInt64.le_iff_toNat_le.1 enough⟩, n.toNat_lt,
      UInt64.ofNat_toNat.symm⟩

theorem mergeCount_toString (enough : 2 ≤ n) : mergeCount (toString n.toNat) = .ok n :=
  mergeCount_eq_ok_iff.2
    ⟨n.toNat, ⟨count_toString _, UInt64.le_iff_toNat_le.1 enough⟩, n.toNat_lt,
      UInt64.ofNat_toNat.symm⟩

theorem size_toString (n : UInt64) : size (toString n.toNat) = .ok n := by
  refine measured_eq_ok_iff.2 (size_parse_eq_ok_iff.2 ⟨n.toNat, ?_, n.toNat_lt, ?_⟩)
  · rw [trimChars_toString, ← List.append_nil (Nat.toDigits 10 _)]
    exact scaled_toDigits (by decide) _
  · exact UInt64.ofNat_toNat.symm

theorem period_of_writes (whole : period.Whole) (writes : period.Writes s) :
    Value.period s = .ok period := by
  refine measured_eq_ok_iff.2
    (period_parse_eq_ok_iff.2 ⟨period.seconds.toNat, ?_, period.seconds.toNat_lt, ?_⟩)
  · cases writes with
    | bare =>
      rw [trimChars_toString, ← List.append_nil (Nat.toDigits 10 _)]
      exact scaled_toDigits (by decide) _
    | suffixed =>
      rw [String.toList_append, toList_toString_nat, trimChars_of_filled]
      · exact scaled_toDigits (by decide) _
      · exact List.forall_mem_append.2
          ⟨filled_toDigits _, List.forall_mem_singleton.2 (by decide)⟩
  · rw [Nat.toUInt64_eq, UInt64.ofNat_toNat, whole.ofSeconds_eq]

end Value

namespace Compression
variable (compression : Compression)

/-- The fields of the canonical text. -/
def fields : List (List Char) :=
  [compression.codec.name.toList, Nat.toDigits 10 compression.level.toNat,
    Nat.toDigits 10 compression.threads.toNat]

theorem toList_toText : compression.toText.toList = [':'].intercalate compression.fields := by
  simp only [toText, fields, String.toList_append, List.append_assoc, toList_toString_nat,
    List.intercalate, List.intersperse, List.flatten_cons, List.flatten_nil, List.append_nil]
  rfl

theorem fields_filled : ∀ field ∈ compression.fields, ∀ c ∈ field, ¬ isBlank c ∧ c ≠ ':' := by
  have number (n : Nat) : ∀ c ∈ Nat.toDigits 10 n, ¬ isBlank c ∧ c ≠ ':' := by
    refine fun c digit => ⟨filled_toDigits n c digit, ?_⟩
    rintro rfl
    exact absurd ((digits_toDigits n).digits _ digit) (by decide)
  have codec (codec : Codec) : ∀ c ∈ codec.name.toList, ¬ isBlank c ∧ c ≠ ':' := by
    have checked : codec.name.toList.all fun c => ¬ isBlank c ∧ c ≠ ':' := by
      cases codec <;> decide
    simpa only [List.all_eq_true, decide_eq_true_eq] using checked
  simp only [fields, List.forall_mem_cons]
  exact ⟨codec _, number _, number _, nofun⟩

theorem filled_toText : ∀ c ∈ compression.toText.toList, ¬ isBlank c := by
  have colon : ∀ c ∈ [':'], ¬ isBlank c := List.forall_mem_singleton.2 (by decide)
  have filled := compression.fields_filled
  simp only [fields, List.forall_mem_cons] at filled
  obtain ⟨codec, level, threads, -⟩ := filled
  rw [toList_toText]
  simp only [fields, List.intercalate, List.intersperse, List.flatten_cons, List.flatten_nil,
    List.forall_mem_append]
  exact ⟨fun c found => (codec c found).1, colon, fun c found => (level c found).1, colon,
    fun c found => (threads c found).1, nofun⟩

/-- The canonical text of a compression option is read back as that option. -/
theorem parse_toText : parse compression.toText = .ok compression := by
  have split : (trimChars compression.toText.toList).splitOn ':' = compression.fields := by
    rw [trimChars_of_filled compression.filled_toText, toList_toText]
    exact List.splitOn_intercalate ':'
      (fun field listed colon => (compression.fields_filled field listed ':' colon).2 rfl)
      (List.cons_ne_nil _ _)
  have field (n : UInt32) : Field (some (Nat.toDigits 10 n.toNat)) n := by
    have present := Field.present (.plain (digits_toDigits n.toNat)) n.toNat_lt
    rwa [Nat.toUInt32_eq, UInt32.ofNat_toNat] at present
  rw [compression_parse_eq_ok_iff, split]
  exact ⟨Nat.le_refl 3, rfl, field _, field _⟩

end Compression

theorem Value.compression_toText (option : Compression) :
    compression option.toText = .ok option :=
  measured_eq_ok_iff.2 option.parse_toText

end ArchiveUpkeep
