import ArchiveUpkeep.Config.Value
import Mathlib.Data.List.TakeWhile

/-! How the values of a policy document are written. The notations are said here as relations
between a text and what it stands for, apart from the functions that read them, and each reader is
shown to accept the texts of its notation and no others. -/
namespace ArchiveUpkeep.Written
open Text

/-- One or more ASCII digits that stand for a number. -/
structure Digits (cs : List Char) (n : Nat) : Prop where
  nonempty : cs ≠ []
  digits : ∀ c ∈ cs, c.isDigit
  value : digitsValue cs = n

/-- Digits behind one plus sign or none. -/
inductive Count : List Char → Nat → Prop where
  | plain {cs : List Char} {n : Nat} (digits : Digits cs n) : Count cs n
  | signed {cs : List Char} {n : Nat} (digits : Digits cs n) : Count ('+' :: cs) n

/-- A number and then the suffix of a unit, which stands for that many times its factor. -/
inductive Scaled (units : List (List Char × Nat)) : List Char → Nat → Prop where
  | intro {digits suffix : List Char} {number factor : Nat} (written : Digits digits number)
      (unit : (suffix, factor) ∈ units) : Scaled units (digits ++ suffix) (number * factor)

/-- The units of periods, in seconds. -/
def periodUnits : List (List Char × Nat) :=
  [([], 1), (['s'], 1), (['m'], 60), (['h'], 3600), (['d'], 86400)]

/-- The units of sizes, in bytes. -/
def sizeUnits : List (List Char × Nat) :=
  [([], 1), (['K'], 1024), (['k'], 1024), (['M'], 1048576), (['m'], 1048576),
    (['G'], 1073741824), (['g'], 1073741824)]

/-- A numeric field of a compression option, which stands for zero if it is left out. -/
inductive Field : Option (List Char) → UInt32 → Prop where
  | absent : Field none 0
  | present {cs : List Char} {n : Nat} (written : Count cs n) (small : n < UInt32.size) :
      Field (some cs) n.toUInt32

/-- The fields of a compression option: a codec, and then a level and a number of threads. -/
structure Fields (fields : List (List Char)) (compression : Compression) : Prop where
  length_le : fields.length ≤ 3
  codec : fields.head? = some compression.codec.name.toList
  level : Field fields[1]? compression.level
  threads : Field fields[2]? compression.threads

/-- A computation of two steps gives something exactly if both do. -/
theorem bind_eq_ok_iff {ε α β : Type} {first : Except ε α} {next : α → Except ε β} {b : β} :
    (first >>= next) = .ok b ↔ ∃ a, first = .ok a ∧ next a = .ok b := by
  cases first with
  | error error => exact ⟨nofun, nofun⟩
  | ok a =>
    constructor
    · intro reached
      exact ⟨a, rfl, reached⟩
    · rintro ⟨_, ⟨⟩, reached⟩
      exact reached

/-- A reader that gives the value of the number a text stands for accepts the texts that stand for
one below the bound. -/
theorem exists_eq_ok_iff {ε α : Type} {read : Except ε α} {stands : Nat → Prop} {bound : Nat}
    {f : Nat → α} (ok_iff : ∀ a, read = .ok a ↔ ∃ n, stands n ∧ n < bound ∧ a = f n) :
    (∃ a, read = .ok a) ↔ ∃ n, stands n ∧ n < bound := by
  constructor
  · rintro ⟨a, found⟩
    obtain ⟨n, written, small, -⟩ := (ok_iff a).1 found
    exact ⟨n, written, small⟩
  · rintro ⟨n, written, small⟩
    exact ⟨f n, (ok_iff _).2 ⟨n, written, small, rfl⟩⟩

section Numbers
variable {bound n : Nat} {cs : List Char}

theorem readDigits?_eq_some_iff : readDigits? bound cs = some n ↔ Digits cs n ∧ n < bound := by
  unfold readDigits?
  constructor
  · intro read
    split at read
    next readable =>
      cases read
      obtain ⟨nonempty, digits, small⟩ := readable
      exact ⟨⟨nonempty, List.all_eq_true.1 digits, rfl⟩, small⟩
    next => cases read
  · rintro ⟨⟨nonempty, digits, rfl⟩, small⟩
    exact if_pos ⟨nonempty, List.all_eq_true.2 digits, small⟩

theorem readCount?_eq_some_iff : readCount? bound cs = some n ↔ Count cs n ∧ n < bound := by
  constructor
  · intro read
    unfold readCount? at read
    split at read
    next digits =>
      obtain ⟨written, small⟩ := readDigits?_eq_some_iff.1 read
      exact ⟨.signed written, small⟩
    next =>
      obtain ⟨written, small⟩ := readDigits?_eq_some_iff.1 read
      exact ⟨.plain written, small⟩
  · rintro ⟨written | written, small⟩
    next =>
      unfold readCount?
      split
      next digits =>
        -- a plus sign is no digit
        exact absurd (written.digits '+' List.mem_cons_self) (by decide)
      next => exact readDigits?_eq_some_iff.2 ⟨written, small⟩
    next digits => exact readDigits?_eq_some_iff.2 ⟨written, small⟩

/-- A reader of measures whose suffixes are those of `units`. -/
theorem readScaled?_eq_some_iff {units : List (List Char × Nat)} {unit? : List Char → Option Nat}
    {read : UInt64}
    (known : ∀ suffix factor, unit? suffix = some factor ↔ (suffix, factor) ∈ units)
    (apart : ∀ unit ∈ units, unit.1.takeWhile Char.isDigit = [])
    (positive : ∀ unit ∈ units, 0 < unit.2) :
    Measure.readScaled? unit? cs = some read ↔
      ∃ n, Scaled units cs n ∧ n < UInt64.size ∧ read = n.toUInt64 := by
  simp only [Measure.readScaled?, splitDigits, Option.bind_eq_bind, Option.bind_eq_some_iff,
    Option.ite_none_right_eq_some, Option.some.injEq, readDigits?_eq_some_iff]
  constructor
  · rintro ⟨factor, found, number, ⟨written, -⟩, small, rfl⟩
    refine ⟨number * factor, ?_, small, rfl⟩
    rw [← @List.takeWhile_append_dropWhile _ Char.isDigit cs]
    exact .intro written ((known _ _).1 found)
  · rintro ⟨_, @⟨digits, suffix, number, factor, written, unit⟩, small, rfl⟩
    have head : (digits ++ suffix).takeWhile Char.isDigit = digits := by
      rw [List.takeWhile_append_of_pos written.digits, apart _ unit, List.append_nil]
    have tail : (digits ++ suffix).dropWhile Char.isDigit = suffix := by
      have whole := @List.takeWhile_append_dropWhile _ Char.isDigit (digits ++ suffix)
      rw [head] at whole
      exact List.append_cancel_left whole
    have number_lt : number < UInt64.size :=
      Nat.lt_of_le_of_lt (Nat.le_mul_of_pos_right number (positive _ unit)) small
    rw [head, tail]
    exact ⟨factor, (known _ _).2 unit, number, ⟨written, number_lt⟩, small, rfl⟩

theorem match_readScaled?_eq_ok_iff {ε α : Type} {units : List (List Char × Nat)}
    {unit? : List Char → Option Nat} {f : UInt64 → α} {error : ε} {a : α}
    (known : ∀ suffix factor, unit? suffix = some factor ↔ (suffix, factor) ∈ units)
    (apart : ∀ unit ∈ units, unit.1.takeWhile Char.isDigit = [])
    (positive : ∀ unit ∈ units, 0 < unit.2) :
    (match Measure.readScaled? unit? cs with
      | some read => Except.ok (f read)
      | none => .error error) = .ok a ↔
      ∃ n, Scaled units cs n ∧ n < UInt64.size ∧ a = f n.toUInt64 := by
  have read_iff {read : UInt64} := @readScaled?_eq_some_iff cs _ _ read known apart positive
  constructor
  · intro ok
    split at ok
    next read found =>
      cases ok
      obtain ⟨n, written, small, rfl⟩ := read_iff.1 found
      exact ⟨n, written, small, rfl⟩
    next => cases ok
  · rintro ⟨n, written, small, rfl⟩
    rw [read_iff.2 ⟨n, written, small, rfl⟩]

end Numbers

theorem period_unit?_eq_some_iff (suffix : List Char) (factor : Nat) :
    Period.unit? suffix = some factor ↔ (suffix, factor) ∈ periodUnits := by
  unfold Period.unit?
  split <;> simp_all [periodUnits, eq_comm]

theorem size_unit?_eq_some_iff (suffix : List Char) (factor : Nat) :
    Size.unit? suffix = some factor ↔ (suffix, factor) ∈ sizeUnits := by
  unfold Size.unit?
  split <;> simp_all [sizeUnits, eq_comm]

theorem period_parse_eq_ok_iff {s : String} {period : Period} :
    Period.parse s = .ok period ↔
      ∃ n, Scaled periodUnits (trimChars s.toList) n ∧ n < UInt64.size ∧
        period = .ofSeconds n.toUInt64 :=
  match_readScaled?_eq_ok_iff period_unit?_eq_some_iff (by decide) (by decide)

theorem size_parse_eq_ok_iff {s : String} {size : UInt64} :
    Size.parse s = .ok size ↔
      ∃ n, Scaled sizeUnits (trimChars s.toList) n ∧ n < UInt64.size ∧ size = n.toUInt64 :=
  match_readScaled?_eq_ok_iff size_unit?_eq_some_iff (by decide) (by decide)

theorem codec_parse_eq_ok_iff {s : String} {codec : Codec} :
    Codec.parse s = .ok codec ↔ s = codec.name := by
  constructor
  · intro parsed
    unfold Codec.parse at parsed
    split at parsed <;> cases parsed <;> rfl
  · rintro rfl
    exact Codec.parse_name codec

theorem readField?_eq_some_iff {field : Option (List Char)} {n : UInt32} :
    Compression.readField? field = some n ↔ Field field n := by
  cases field with
  | none =>
    constructor
    · rintro ⟨⟩
      exact .absent
    · rintro ⟨⟩
      rfl
  | some cs =>
    rw [Compression.readField?, Option.map_eq_some_iff]
    constructor
    · rintro ⟨number, read, rfl⟩
      obtain ⟨written, small⟩ := readCount?_eq_some_iff.1 read
      exact .present written small
    · intro field
      cases field with
      | present written small => exact ⟨_, readCount?_eq_some_iff.2 ⟨written, small⟩, rfl⟩

theorem headD_eq_name_iff {fields : List (List Char)} {codec : Codec} :
    String.ofList (fields.headD []) = codec.name ↔ fields.head? = some codec.name.toList := by
  cases fields with
  | nil =>
    -- no codec has an empty name
    refine iff_of_false ?_ (by simp)
    cases codec <;> decide
  | cons field rest => simp [← String.toList_inj]

theorem compression_parse_eq_ok_iff {s : String} {compression : Compression} :
    Compression.parse s = .ok compression ↔
      Fields ((trimChars s.toList).splitOn ':') compression := by
  unfold Compression.parse
  generalize (trimChars s.toList).splitOn ':' = fields
  by_cases many : 3 < fields.length
  · refine iff_of_false ?_ fun written => Nat.not_lt.2 written.length_le many
    simp [many, throw, throwThe, MonadExceptOf.throw, bind, Except.bind]
  · simp only [many, ↓reduceIte]
    refine bind_eq_ok_iff.trans ?_
    constructor
    · rintro ⟨codec, named, read⟩
      split at read
      next level threads levelRead threadsRead =>
        cases read
        exact
          { length_le := Nat.not_lt.1 many
            codec := headD_eq_name_iff.1 (codec_parse_eq_ok_iff.1 named)
            level := readField?_eq_some_iff.1 levelRead
            threads := readField?_eq_some_iff.1 threadsRead }
      next => cases read
    · rintro ⟨-, named, level, threads⟩
      refine ⟨compression.codec, codec_parse_eq_ok_iff.2 (headD_eq_name_iff.2 named), ?_⟩
      rw [readField?_eq_some_iff.2 level, readField?_eq_some_iff.2 threads]
      rfl

theorem forall_mem_dropWhile_iff {p : Char → Bool} {cs : List Char} :
    (∀ c ∈ cs.dropWhile p, p c) ↔ ∀ c ∈ cs, p c := by
  constructor
  · intro rest
    rw [← @List.takeWhile_append_dropWhile _ p cs]
    exact List.forall_mem_append.2 ⟨fun _ => List.mem_takeWhile_imp, rest⟩
  · intro all c left
    exact all c ((List.dropWhile_suffix p).mem left)

theorem trim_eq_empty_iff {s : String} : trim s = "" ↔ ∀ c ∈ s.toList, isBlank c := by
  rw [← String.toList_inj, toList_trim, trimChars, trimEnd]
  refine List.reverse_eq_nil_iff.trans (List.dropWhile_eq_nil_iff.trans ?_)
  simp only [List.mem_reverse]
  exact forall_mem_dropWhile_iff

/-- The forms of values. -/
inductive Form where
  /-- A text with something in it. -/
  | text
  /-- A count of `least` or more, below `bound`. -/
  | count (least bound : Nat)
  | period
  | size
  | compression
deriving DecidableEq, Repr

/-- The text is a value of the form, with any white space around it. -/
def Form.Admits (s : String) : Form → Prop
  | text => ∃ c ∈ s.toList, ¬ isBlank c
  | count least bound => ∃ n, Count (trimChars s.toList) n ∧ least ≤ n ∧ n < bound
  | period => ∃ n, Scaled periodUnits (trimChars s.toList) n ∧ n < UInt64.size
  | size => ∃ n, Scaled sizeUnits (trimChars s.toList) n ∧ n < UInt64.size
  | compression => ∃ option, Fields ((trimChars s.toList).splitOn ':') option

/-- The reader accepts the values of the form and refuses all other texts. -/
def Reads {α : Type} (form : Form) (read : String → Except Value.Rejection α) : Prop :=
  ∀ s, (∃ a, read s = .ok a) ↔ form.Admits s

section Readers
open Value

theorem text_eq_ok_iff {s t : String} : text s = .ok t ↔ trim s ≠ "" ∧ t = trim s := by
  unfold text
  split
  next blank => exact iff_of_false nofun fun filled => filled.1 blank
  next filled => simp [filled, eq_comm]

theorem reads_text : Reads .text text := by
  intro s
  have filled_iff : trim s ≠ "" ↔ Form.text.Admits s := by
    rw [ne_eq, trim_eq_empty_iff]
    simp [Form.Admits]
  rw [← filled_iff]
  simp [text_eq_ok_iff]

theorem number?_eq_some_iff {bound n : Nat} {s : String} :
    number? bound s = some n ↔ Count (trimChars s.toList) n ∧ n < bound :=
  readCount?_eq_some_iff

theorem match_number?_eq_ok_iff {ε α : Type} {bound : Nat} {s : String} {f : Nat → α} {error : ε}
    {a : α} :
    (match number? bound s with
      | some n => Except.ok (f n)
      | none => .error error) = .ok a ↔
      ∃ n, Count (trimChars s.toList) n ∧ n < bound ∧ a = f n := by
  constructor
  · intro ok
    split at ok
    next n found =>
      cases ok
      obtain ⟨written, small⟩ := number?_eq_some_iff.1 found
      exact ⟨n, written, small, rfl⟩
    next => cases ok
  · rintro ⟨n, written, small, rfl⟩
    rw [number?_eq_some_iff.2 ⟨written, small⟩]

theorem port_eq_ok_iff {s : String} {read : UInt16} :
    port s = .ok read ↔
      ∃ n, Count (trimChars s.toList) n ∧ n < UInt16.size ∧ read = n.toUInt16 :=
  match_number?_eq_ok_iff

theorem reads_port : Reads (.count 0 UInt16.size) port := by
  intro s
  refine (exists_eq_ok_iff fun _ => port_eq_ok_iff).trans ?_
  simp [Form.Admits]

theorem natural_eq_ok_iff {s : String} {read : UInt64} :
    natural s = .ok read ↔
      ∃ n, Count (trimChars s.toList) n ∧ n < UInt64.size ∧ read = n.toUInt64 :=
  match_number?_eq_ok_iff

theorem reads_natural : Reads (.count 0 UInt64.size) natural := by
  intro s
  refine (exists_eq_ok_iff fun _ => natural_eq_ok_iff).trans ?_
  simp [Form.Admits]

theorem positive_eq_ok_iff {s : String} {read : UInt64} :
    positive s = .ok read ↔
      ∃ n, (Count (trimChars s.toList) n ∧ 1 ≤ n) ∧ n < UInt64.size ∧ read = n.toUInt64 := by
  unfold positive
  constructor
  · intro ok
    split at ok
    next n found =>
      cases ok
      obtain ⟨written, small⟩ := number?_eq_some_iff.1 found
      exact ⟨n + 1, ⟨written, Nat.le_add_left 1 n⟩, small, rfl⟩
    next => cases ok
  · rintro ⟨n, ⟨written, positive⟩, small, rfl⟩
    obtain ⟨n, rfl⟩ := Nat.exists_eq_add_of_le' positive
    rw [number?_eq_some_iff.2 ⟨written, small⟩]

theorem reads_positive : Reads (.count 1 UInt64.size) positive := fun _ =>
  (exists_eq_ok_iff fun _ => positive_eq_ok_iff).trans (by simp only [Form.Admits, and_assoc])

theorem mergeCount_eq_ok_iff {s : String} {read : UInt64} :
    mergeCount s = .ok read ↔
      ∃ n, (Count (trimChars s.toList) n ∧ 2 ≤ n) ∧ n < UInt64.size ∧ read = n.toUInt64 := by
  have lt_two_iff {n : Nat} (small : n < UInt64.size) : n.toUInt64 < 2 ↔ n < 2 := by
    rw [UInt64.lt_iff_toNat_lt, Nat.toUInt64_eq, UInt64.toNat_ofNat_of_lt' small]
    rfl
  refine bind_eq_ok_iff.trans ?_
  constructor
  · rintro ⟨_, natural, enough⟩
    obtain ⟨n, written, small, rfl⟩ := natural_eq_ok_iff.1 natural
    split at enough
    next => cases enough
    next more =>
      cases enough
      exact ⟨n, ⟨written, Nat.not_lt.1 fun few => more ((lt_two_iff small).2 few)⟩, small, rfl⟩
  · rintro ⟨n, ⟨written, enough⟩, small, rfl⟩
    refine ⟨n.toUInt64, natural_eq_ok_iff.2 ⟨n, written, small, rfl⟩, ?_⟩
    exact if_neg fun few => Nat.not_lt.2 enough ((lt_two_iff small).1 few)

theorem reads_mergeCount : Reads (.count 2 UInt64.size) mergeCount := fun _ =>
  (exists_eq_ok_iff fun _ => mergeCount_eq_ok_iff).trans (by simp only [Form.Admits, and_assoc])

theorem measured_eq_ok_iff {α : Type} {parse : String → Except MeasureError α} {s : String}
    {a : α} : measured parse s = .ok a ↔ parse s = .ok a := by
  unfold measured
  cases parse s <;> simp

theorem reads_period : Reads .period period := fun _ =>
  exists_eq_ok_iff fun _ => measured_eq_ok_iff.trans period_parse_eq_ok_iff

theorem reads_size : Reads .size size := fun _ =>
  exists_eq_ok_iff fun _ => measured_eq_ok_iff.trans size_parse_eq_ok_iff

theorem reads_compression : Reads .compression compression := by
  intro s
  simp only [compression, measured_eq_ok_iff, compression_parse_eq_ok_iff]
  rfl

/-- What is made of a value afterwards plays no part in which texts are accepted. -/
theorem reads_map {α β : Type} {form : Form} {read : String → Except Rejection α} (f : α → β)
    (reads : Reads form read) : Reads form fun s => f <$> read s := by
  intro s
  refine Iff.trans ?_ (reads s)
  change (∃ b, f <$> read s = .ok b) ↔ _
  cases read s with
  | error rejection => exact ⟨nofun, nofun⟩
  | ok a => exact ⟨fun _ => ⟨a, rfl⟩, fun _ => ⟨f a, rfl⟩⟩

end Readers

end ArchiveUpkeep.Written
