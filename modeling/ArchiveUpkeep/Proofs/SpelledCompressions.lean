import ArchiveUpkeep.Proofs.SpelledMeasures

/-! Which texts are compression options, and what is said of the others. The text without the white
space around it is parted at every colon. More than three fields are refused whatever they hold, a
first field that names no codec is refused whatever follows it, and a level or a number of threads
is refused that is no number below two to the thirty-two. What is left is read field by field. -/
namespace ArchiveUpkeep
open Text Written

namespace Text

/-- The pieces of a text between the separators in it. -/
structure Parted (separator : Char) (t : String) (pieces : List String) : Prop where
  nonempty : pieces ≠ []
  joined : t = (String.singleton separator).intercalate pieces
  apart : ∀ piece ∈ pieces, separator ∉ piece.toList

/-- The text is one or more ASCII digits, behind one plus sign or none, and they spell `n`. -/
def SpellsCount (t : String) (n : Nat) : Prop :=
  ∃ digits, (t = digits ∨ t = "+" ++ digits) ∧ digits ≠ "" ∧
    (∀ c ∈ digits.toList, '0' ≤ c ∧ c ≤ '9') ∧ n = spelled digits

theorem not_mem_of_mem_splitOn {separator : Char} {cs piece : List Char}
    (listed : piece ∈ cs.splitOn separator) : separator ∉ piece := by
  induction cs generalizing piece with
  | nil =>
    rw [List.splitOn_nil, List.mem_singleton] at listed
    exact listed ▸ List.not_mem_nil
  | cons c cs ih =>
    rw [List.splitOn_cons_eq_if_modifyHead] at listed
    obtain ⟨first, rest, split⟩ := List.exists_cons_of_ne_nil (List.splitOn_ne_nil separator cs)
    simp only [split, List.forall_mem_cons, List.modifyHead_cons] at ih listed
    split at listed
    case isTrue =>
      rw [List.mem_cons, List.mem_cons] at listed
      rcases listed with rfl | rfl | later
      · exact List.not_mem_nil
      · exact ih.1
      · exact ih.2 _ later
    case isFalse other =>
      rw [List.mem_cons] at listed
      rcases listed with rfl | later
      · rw [List.mem_cons, not_or]
        exact ⟨fun same => other (beq_iff_eq.2 same.symm), ih.1⟩
      · exact ih.2 _ later

theorem parted_iff {separator : Char} {t : String} {pieces : List String} :
    Parted separator t pieces ↔ pieces = (t.toList.splitOn separator).map String.ofList := by
  constructor
  · rintro ⟨nonempty, rfl, apart⟩
    rw [String.toList_intercalate, String.toList_singleton, List.splitOn_intercalate]
    · simp
    · simpa using apart
    · simpa using nonempty
  · rintro rfl
    refine ⟨by simp [List.splitOn_ne_nil], ?_, ?_⟩
    · rw [← String.toList_inj, String.toList_intercalate, String.toList_singleton, List.map_map]
      simp [Function.comp_def, List.intercalate_splitOn]
    · intro piece listed
      obtain ⟨cell, found, rfl⟩ := List.mem_map.1 listed
      rw [String.toList_ofList]
      exact not_mem_of_mem_splitOn found

theorem count_iff_spells {t : String} {n : Nat} : Count t.toList n ↔ SpellsCount t n := by
  constructor
  · generalize shape : t.toList = cs
    intro written
    cases written with
    | plain digits =>
      subst shape
      exact ⟨t, .inl rfl, digits_iff.1 digits⟩
    | @signed cs _ digits =>
      rw [← String.toList_ofList (l := cs), digits_iff] at digits
      refine ⟨.ofList cs, .inr ?_, digits⟩
      rw [← String.toList_inj, shape, String.toList_append]
      simp
  · rintro ⟨digits, rfl | rfl, written⟩
    · exact .plain (digits_iff.2 written)
    · rw [String.toList_append]
      exact .signed (digits_iff.2 written)

end Text

/-- The codecs with their names. -/
def Codec.names : List (String × Codec) :=
  [("none", .none), ("snappy", .snappy), ("gzip", .gzip), ("lzma", .lzma)]

theorem Codec.mem_names_iff {name : String} {codec : Codec} :
    (name, codec) ∈ names ↔ name = codec.name := by
  cases codec <;> simp [names, Codec.name]

theorem Codec.parse_eq_error_iff {name : String} {error : MeasureError} :
    parse name = .error error ↔ error = .codec name ∧ ∀ codec, (name, codec) ∉ names := by
  have only_codec {other : MeasureError} (refused : parse name = .error other) :
      other = .codec name := by
    unfold parse at refused
    split at refused <;> cases refused
    rfl
  simp only [mem_names_iff, ← codec_parse_eq_ok_iff]
  cases parsed : parse name with
  | ok codec => exact iff_of_false nofun fun unknown => unknown.2 codec rfl
  | error other => simp [only_codec parsed, eq_comm]

namespace Compression

/-- What a level or a number of threads stands for; a missing field stands for zero. -/
inductive Counts : Option String → UInt32 → Prop where
  | absent : Counts none 0
  | present {field : String} {n : UInt32} (written : SpellsCount field n.toNat) :
      Counts (some field) n

/-- What comes of a text `t` with these fields. Each of these excludes those below it. -/
inductive Outcome (t : String) (fields : List String) : Except MeasureError Compression → Prop where
  | crowded (many : 3 < fields.length) : Outcome t fields (.error (.compression t))
  | foreign {name : String} (few : fields.length ≤ 3) (first : fields.head? = some name)
      (unknown : ∀ codec, (name, codec) ∉ Codec.names) : Outcome t fields (.error (.codec name))
  | uncountable {name : String} {codec : Codec} {place : Nat} {field : String}
      (few : fields.length ≤ 3) (first : fields.head? = some name)
      (known : (name, codec) ∈ Codec.names) (numeric : place = 1 ∨ place = 2)
      (present : fields[place]? = some field)
      (unfit : ∀ n, SpellsCount field n → UInt32.size ≤ n) :
      Outcome t fields (.error (.compression t))
  | read {name : String} {option : Compression} (few : fields.length ≤ 3)
      (first : fields.head? = some name) (known : (name, option.codec) ∈ Codec.names)
      (level : Counts fields[1]? option.level) (threads : Counts fields[2]? option.threads) :
      Outcome t fields (.ok option)

theorem readField?_eq_some_iff_counts {cells : List (List Char)} {place : Nat} {n : UInt32} :
    readField? cells[place]? = some n ↔ Counts (cells.map String.ofList)[place]? n := by
  rw [readField?_eq_some_iff, List.getElem?_map]
  cases cells[place]? with
  | none =>
    constructor
    · rintro ⟨⟩
      exact .absent
    · rintro ⟨⟩
      exact .absent
  | some cell =>
    constructor
    · intro field
      cases field with
      | @present _ n written small =>
        refine .present (count_iff_spells.1 ?_)
        rwa [String.toList_ofList, Nat.toUInt32_eq, UInt32.toNat_ofNat_of_lt' small]
    · intro counts
      cases counts with
      | present written =>
        have field := Field.present (count_iff_spells.2 written) n.toNat_lt
        rwa [String.toList_ofList, Nat.toUInt32_eq, UInt32.ofNat_toNat] at field

theorem readField?_eq_none_iff {cells : List (List Char)} {place : Nat} :
    readField? cells[place]? = none ↔
      ∃ field, (cells.map String.ofList)[place]? = some field ∧
        ∀ n, SpellsCount field n → UInt32.size ≤ n := by
  simp only [Option.eq_none_iff_forall_ne_some, ne_eq, readField?_eq_some_iff_counts]
  cases (cells.map String.ofList)[place]? with
  | none => exact iff_of_false (fun refused => refused 0 .absent) nofun
  | some field =>
    constructor
    · intro refused
      refine ⟨field, rfl, fun n spelled => Nat.not_lt.1 fun small => ?_⟩
      refine refused n.toUInt32 (.present ?_)
      rwa [Nat.toUInt32_eq, UInt32.toNat_ofNat_of_lt' small]
    · rintro ⟨_, ⟨⟩, unfit⟩ n counts
      cases counts with
      | present written => exact Nat.not_le.2 n.toNat_lt (unfit _ written)

section Parsing
variable {s : String} {cells : List (List Char)} {outcome : Except MeasureError Compression}

theorem parse_of_many (split : (trimChars s.toList).splitOn ':' = cells)
    (many : 3 < cells.length) : parse s = .error (.compression (trim s)) := by
  simp only [parse, split, many, ↓reduceIte]
  rfl

theorem parse_of_few {name : String} (split : (trimChars s.toList).splitOn ':' = cells)
    (few : cells.length ≤ 3) (first : (cells.map String.ofList).head? = some name) :
    parse s = Codec.parse name >>= fun codec =>
      match readField? cells[1]?, readField? cells[2]? with
      | some level, some threads => .ok { codec, level, threads }
      | _, _ => .error (.compression (trim s)) := by
  obtain ⟨cell, rest, rfl⟩ := List.exists_cons_of_ne_nil (split ▸ List.splitOn_ne_nil ':' _)
  cases first
  simp only [parse, split, Nat.not_lt.2 few, ↓reduceIte]
  rfl

theorem parse_of_known {name : String} {codec : Codec}
    (split : (trimChars s.toList).splitOn ':' = cells) (few : cells.length ≤ 3)
    (first : (cells.map String.ofList).head? = some name) (known : (name, codec) ∈ Codec.names) :
    parse s = match readField? cells[1]?, readField? cells[2]? with
      | some level, some threads => .ok { codec, level, threads }
      | _, _ => .error (.compression (trim s)) := by
  rw [parse_of_few split few first, Codec.mem_names_iff.1 known, Codec.parse_name]
  rfl

theorem outcome_parse (split : (trimChars s.toList).splitOn ':' = cells) :
    Outcome (trim s) (cells.map String.ofList) (parse s) := by
  rcases Nat.lt_or_ge 3 cells.length with many | few
  · rw [parse_of_many split many]
    exact .crowded (by rwa [List.length_map])
  · have short : (cells.map String.ofList).length ≤ 3 := by rwa [List.length_map]
    obtain ⟨name, others, fields⟩ : ∃ name others, cells.map String.ofList = name :: others :=
      List.exists_cons_of_ne_nil (by simp [← split, List.splitOn_ne_nil])
    have first : (cells.map String.ofList).head? = some name := by rw [fields, List.head?_cons]
    cases parsed : Codec.parse name with
    | error error =>
      rw [parse_of_few split few first, parsed]
      obtain ⟨rfl, unknown⟩ := Codec.parse_eq_error_iff.1 parsed
      exact .foreign short first unknown
    | ok codec =>
      have known := Codec.mem_names_iff.2 (codec_parse_eq_ok_iff.1 parsed)
      rw [parse_of_known split few first known]
      cases levelRead : readField? cells[1]? with
      | none =>
        obtain ⟨field, present, unfit⟩ := readField?_eq_none_iff.1 levelRead
        exact .uncountable short first known (.inl rfl) present unfit
      | some level =>
        cases threadsRead : readField? cells[2]? with
        | none =>
          obtain ⟨field, present, unfit⟩ := readField?_eq_none_iff.1 threadsRead
          exact .uncountable short first known (.inr rfl) present unfit
        | some threads =>
          exact .read short first known (readField?_eq_some_iff_counts.1 levelRead)
            (readField?_eq_some_iff_counts.1 threadsRead)

theorem parse_of_outcome (split : (trimChars s.toList).splitOn ':' = cells)
    (comes : Outcome (trim s) (cells.map String.ofList) outcome) : parse s = outcome := by
  cases comes with
  | crowded many => exact parse_of_many split (by rwa [List.length_map] at many)
  | foreign few first unknown =>
    rw [List.length_map] at few
    rw [parse_of_few split few first, Codec.parse_eq_error_iff.2 ⟨rfl, unknown⟩]
    rfl
  | uncountable few first known numeric present unfit =>
    rw [List.length_map] at few
    have unread := readField?_eq_none_iff.2 ⟨_, present, unfit⟩
    rw [parse_of_known split few first known]
    rcases numeric with rfl | rfl
    · rw [unread]
    · rw [unread]
      cases readField? cells[1]? <;> rfl
  | read few first known level threads =>
    rw [List.length_map] at few
    rw [parse_of_known split few first known, readField?_eq_some_iff_counts.2 level,
      readField?_eq_some_iff_counts.2 threads]

end Parsing

/-- The text without the white space around it has one list of fields, and what comes of it is told
by them alone. -/
theorem compression_is_read_as_spelled (s : String) :
    Trimmed s (trim s) ∧
      ∃ fields, (∀ pieces, Parted ':' (trim s) pieces ↔ pieces = fields) ∧
        ∀ outcome, parse s = outcome ↔ Outcome (trim s) fields outcome := by
  refine ⟨trimmed_trim s, _, fun pieces => parted_iff, fun outcome => ?_⟩
  rw [toList_trim]
  refine ⟨?_, parse_of_outcome rfl⟩
  rintro rfl
  exact outcome_parse rfl

/-- A number with a sign and zeros in front, and texts with several faults, of which one is told. -/
example : parse "\u3000gzip:+007:4294967295\n" = .ok ⟨.gzip, 7, 4294967295⟩ ∧
    parse "zstd:x" = .error (.codec "zstd") ∧
    parse "zstd::x:" = .error (.compression "zstd::x:") := by decide

end Compression

end ArchiveUpkeep
