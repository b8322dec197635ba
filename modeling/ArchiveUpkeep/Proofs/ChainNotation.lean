import ArchiveUpkeep.Chain.MetaState
import ArchiveUpkeep.Text.Decimal
import Mathlib.Data.List.Basic

/-! How snapshots and meta states are written. The writing of either shows where it ends, whatever
stands behind it, because no id runs into the sign that follows it. So different values are never
written alike. The comma is the sign of a dirty snapshot, and the arrow that of an apply in flight.
-/
namespace ArchiveUpkeep

namespace Text

/-- The part stands somewhere in the text. -/
def Contains (t part : String) : Prop := ∃ before after, t = before ++ part ++ after

theorem contains_iff {t part : String} : Contains t part ↔ part.toList <:+: t.toList := by
  constructor
  · rintro ⟨before, after, rfl⟩
    exact ⟨before.toList, after.toList, by simp only [String.toList_append]⟩
  · rintro ⟨before, after, split⟩
    refine ⟨.ofList before, .ofList after, ?_⟩
    rw [← String.toList_inj, ← split]
    simp only [String.toList_append, String.toList_ofList]

/-- The writing of a value shows where it ends: what stands behind it is never taken for a piece
of it. -/
def SelfDelimiting {α : Type} (write : α → String) : Prop :=
  ∀ ⦃a b : α⦄ ⦃rest more : List Char⦄,
    (write a).toList ++ rest = (write b).toList ++ more → a = b ∧ rest = more

theorem SelfDelimiting.write_inj {α : Type} {write : α → String}
    (delimiting : SelfDelimiting write) {a b : α} : write a = write b ↔ a = b := by
  refine ⟨fun same => ?_, congrArg write⟩
  have alone : (write a).toList ++ [] = (write b).toList ++ [] := by rw [same]
  exact (delimiting alone).1

/-- A number ends where the next character is no digit. -/
theorem toDigits_append_inj {m n : Nat} {rest more : List Char}
    (restStops : ∀ c ∈ rest.head?, ¬ c.isDigit) (moreStops : ∀ c ∈ more.head?, ¬ c.isDigit)
    (same : Nat.toDigits 10 m ++ rest = Nat.toDigits 10 n ++ more) : m = n ∧ rest = more := by
  have front {k : Nat} {behind : List Char} (stops : ∀ c ∈ behind.head?, ¬ c.isDigit) :
      (Nat.toDigits 10 k ++ behind).takeWhile Char.isDigit = Nat.toDigits 10 k := by
    rw [List.takeWhile_append_of_pos fun _ => isDigit_of_mem_toDigits]
    cases behind with
    | nil => exact List.append_nil _
    | cons c behind =>
      rw [List.takeWhile_cons_of_neg (stops c rfl), List.append_nil]
  have digits : Nat.toDigits 10 m = Nat.toDigits 10 n := by
    rw [← front restStops, same, front moreStops]
  refine ⟨?_, List.append_cancel_left (digits ▸ same)⟩
  rw [← Nat.ofDigitChars_ten_toDigits (n := m), digits, Nat.ofDigitChars_ten_toDigits]

end Text

open Text

namespace Snapshot
variable {s t : Snapshot} {rest more : List Char}

theorem eq_of_ids (lower : s.lower = t.lower) (upper : s.upper = t.upper) : s = t := by
  cases s
  cases t
  cases lower
  cases upper
  rfl

/-- What is written behind the lower id. -/
def closing (s : Snapshot) : List Char :=
  if s.IsClean then ['|'] else ',' :: (Nat.toDigits 10 s.upper.toNat ++ ['|'])

theorem toList_toString (s : Snapshot) :
    (toString s).toList = '|' :: (Nat.toDigits 10 s.lower.toNat ++ s.closing) := by
  change (if s.IsClean then s!"|{s.lower.toNat}|" else
    s!"|{s.lower.toNat},{s.upper.toNat}|" : String).toList = _
  unfold closing
  split <;> simp only [String.toList_append, toList_toString_nat, List.append_assoc] <;> rfl

theorem closing_stops (s : Snapshot) (rest : List Char) :
    ∀ c ∈ (s.closing ++ rest).head?, ¬ c.isDigit := by
  unfold closing
  split <;> rintro c ⟨⟩ <;> decide

theorem closing_append_inj (lower : s.lower = t.lower)
    (same : s.closing ++ rest = t.closing ++ more) : s = t ∧ rest = more := by
  unfold closing at same
  split at same <;> split at same
  case isTrue.isTrue clean alsoClean =>
    have upper : s.upper = t.upper := clean.symm.trans (lower.trans alsoClean)
    exact ⟨eq_of_ids lower upper, List.append_cancel_left same⟩
  case isTrue.isFalse => cases same
  case isFalse.isTrue => cases same
  case isFalse.isFalse =>
    simp only [List.cons_append, List.append_assoc, List.cons.injEq, true_and] at same
    have bar (behind : List Char) : ∀ c ∈ (['|'] ++ behind).head?, ¬ c.isDigit := by
      rintro c ⟨⟩
      decide
    obtain ⟨upper, same⟩ := toDigits_append_inj (bar rest) (bar more) same
    exact ⟨eq_of_ids lower (UInt64.toNat_inj.1 upper), List.append_cancel_left same⟩

theorem selfDelimiting_toString : SelfDelimiting (toString : Snapshot → String) := by
  intro s t rest more same
  simp only [toList_toString, List.cons_append, List.append_assoc, List.cons.injEq, true_and]
    at same
  obtain ⟨lower, same⟩ := toDigits_append_inj (s.closing_stops rest) (t.closing_stops more) same
  exact closing_append_inj (UInt64.toNat_inj.1 lower) same

/-- Apart from the digits of its ids, a snapshot is written with bars around it, and with a comma
if it is dirty. -/
theorem mem_toString {c : Char} (written : c ∈ (toString s).toList) :
    c.isDigit ∨ c = '|' ∨ c = ',' ∧ ¬ s.IsClean := by
  rw [toList_toString, List.mem_cons, List.mem_append] at written
  rcases written with bar | lower | behind
  · exact .inr (.inl bar)
  · exact .inl (isDigit_of_mem_toDigits lower)
  · unfold closing at behind
    split at behind
    case isTrue => exact .inr (.inl (List.mem_singleton.1 behind))
    case isFalse dirty =>
      rw [List.mem_cons, List.mem_append, List.mem_singleton] at behind
      rcases behind with comma | upper | bar
      · exact .inr (.inr ⟨comma, dirty⟩)
      · exact .inl (isDigit_of_mem_toDigits upper)
      · exact .inr (.inl bar)

theorem contains_comma_iff : Contains (toString s) "," ↔ ¬ s.IsClean := by
  rw [contains_iff]
  constructor
  · intro comma
    rcases mem_toString (comma.subset (List.mem_singleton_self ',')) with digit | bar | ⟨-, dirty⟩
    · exact absurd digit (by decide)
    · exact absurd bar (by decide)
    · exact dirty
  · intro dirty
    rw [toList_toString, closing, if_neg dirty]
    exact ⟨'|' :: Nat.toDigits 10 s.lower.toNat, Nat.toDigits 10 s.upper.toNat ++ ['|'], by simp⟩

end Snapshot

namespace MetaState
variable {m n : MetaState}

/-- What is written behind the base. -/
def closing : Option Snapshot → List Char
  | some target => '-' :: '-' :: '>' :: ((toString target).toList ++ ['>'])
  | none => ['>']

theorem toList_toString (m : MetaState) :
    (toString m).toList = '<' :: ((toString m.base).toList ++ closing m.applying) := by
  change (match m.applying with
    | some target => s!"<{m.base}-->{target}>"
    | none => s!"<{m.base}>" : String).toList = _
  cases m.applying <;> simp only [String.toList_append, List.append_assoc] <;> rfl

theorem closing_append_inj {target aim : Option Snapshot} {rest more : List Char}
    (same : closing target ++ rest = closing aim ++ more) : target = aim ∧ rest = more := by
  cases target with
  | some target =>
    cases aim with
    | some aim =>
      simp only [closing, List.cons_append, List.nil_append, List.append_assoc, List.cons.injEq,
        true_and] at same
      obtain ⟨rfl, behind⟩ := Snapshot.selfDelimiting_toString same
      exact ⟨rfl, (List.cons.inj behind).2⟩
    | none => cases same
  | none =>
    cases aim with
    | some aim => cases same
    | none => exact ⟨rfl, List.append_cancel_left same⟩

theorem eq_iff_parts : m = n ↔ m.base = n.base ∧ m.applying = n.applying := by
  cases m
  cases n
  simp

theorem selfDelimiting_toString : SelfDelimiting (toString : MetaState → String) := by
  intro m n rest more same
  simp only [toList_toString, List.cons_append, List.append_assoc, List.cons.injEq, true_and]
    at same
  obtain ⟨base, same⟩ := Snapshot.selfDelimiting_toString same
  obtain ⟨applying, same⟩ := closing_append_inj same
  exact ⟨eq_iff_parts.2 ⟨base, applying⟩, same⟩

theorem contains_arrow_iff : Contains (toString m) "-->" ↔ m.isApplying := by
  rw [contains_iff, toList_toString, isApplying]
  cases m.applying with
  | some target =>
    refine iff_of_true ?_ rfl
    exact ⟨'<' :: (toString m.base).toList, (toString target).toList ++ ['>'], by simp [closing]⟩
  | none =>
    refine iff_of_false (fun arrow => ?_) nofun
    -- a dash is neither a bracket nor a piece of a snapshot
    have dash : '-' ∈ '<' :: ((toString m.base).toList ++ ['>']) := arrow.subset (by decide)
    rw [List.mem_cons, List.mem_append, List.mem_singleton] at dash
    rcases dash with opening | inside | closing
    · exact absurd opening (by decide)
    · rcases Snapshot.mem_toString inside with digit | bar | ⟨comma, -⟩
      · exact absurd digit (by decide)
      · exact absurd bar (by decide)
      · exact absurd comma (by decide)
    · exact absurd closing (by decide)

end MetaState

/-- Two snapshots are written alike only if they are the same, and so are two meta states. A comma
is written in exactly the dirty snapshots, and an arrow in exactly the meta states with an apply in
flight. -/
theorem chain_notation_is_unambiguous :
    (∀ m n : MetaState, toString m = toString n ↔ m.base = n.base ∧ m.applying = n.applying) ∧
      (∀ m : MetaState, Contains (toString m) "-->" ↔ m.isApplying) ∧
      (∀ s t : Snapshot, toString s = toString t ↔ s = t) ∧
      ∀ s : Snapshot, Contains (toString s) "," ↔ ¬ s.IsClean := by
  refine ⟨fun m n => ?_, fun m => MetaState.contains_arrow_iff, fun s t => ?_,
    fun s => Snapshot.contains_comma_iff⟩
  · rw [MetaState.selfDelimiting_toString.write_inj, MetaState.eq_iff_parts]
  · exact Snapshot.selfDelimiting_toString.write_inj

/-- A clean base, and a dirty snapshot toward which it is moving. -/
example : (MetaState.toward (.clean 2) ⟨2, 15, by decide⟩).map toString = .ok "<|2|-->|2,15|>" := rfl

end ArchiveUpkeep
