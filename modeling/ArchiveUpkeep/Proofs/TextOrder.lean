import Mathlib.Data.List.Basic

/-! The order of texts. Texts are compared character by character, and that is the order of their
bytes in UTF-8: the first byte of a character grows with the number of its bytes, and its bytes hold
the code point from the highest bits down. So names that are sorted as texts are sorted by their
bytes. -/
namespace ArchiveUpkeep.Text

/-- The bytes of a text in UTF-8. -/
def utf8 (s : String) : List UInt8 := s.toUTF8.data.toList

theorem utf8_eq_flatMap (s : String) : utf8 s = s.toList.flatMap String.utf8EncodeChar := by
  rw [utf8, String.toUTF8_eq_toByteArray, ← String.utf8Encode_toList, List.utf8Encode,
    List.data_toByteArray]

/-- The bytes of two characters tell them apart, whatever follows. -/
theorem utf8EncodeChar_append_lt {c d : Char} (below : c < d) (cs ds : List UInt8) :
    String.utf8EncodeChar c ++ cs < String.utf8EncodeChar d ++ ds := by
  have below : c.val.toNat < d.val.toNat := UInt32.lt_iff_toNat_lt.1 below
  have bound : d.val.toNat < 0x110000 := by
    rcases d.valid with low | ⟨-, high⟩ <;> omega
  unfold String.utf8EncodeChar
  dsimp only
  -- one case for each number of bytes that either character has
  split_ifs <;>
    simp only [List.cons_append, List.nil_append, List.cons_lt_cons_iff, UInt8.lt_iff_toNat_lt,
      ← UInt8.toNat_inj, UInt8.toNat_ofNat'] <;>
    simp (disch := omega) only [Nat.mod_eq_of_lt] <;>
    omega

theorem flatMap_utf8EncodeChar_lt {cs ds : List Char} (below : cs < ds) :
    cs.flatMap String.utf8EncodeChar < ds.flatMap String.utf8EncodeChar := by
  induction below with
  | @nil d ds =>
    obtain ⟨byte, bytes, encoded⟩ :=
      List.exists_cons_of_ne_nil (String.utf8EncodeChar_ne_nil (c := d))
    rw [List.flatMap_nil, List.flatMap_cons, encoded]
    exact List.nil_lt_cons _ _
  | cons _ ih =>
    rw [List.flatMap_cons, List.flatMap_cons]
    exact List.append_left_lt ih
  | rel first =>
    rw [List.flatMap_cons, List.flatMap_cons]
    exact utf8EncodeChar_append_lt first _ _

/-- The order of texts is the order of their bytes. -/
theorem lt_iff_utf8_lt {s t : String} : s < t ↔ utf8 s < utf8 t := by
  have grows {s t : String} (below : s < t) : utf8 s < utf8 t := by
    rw [utf8_eq_flatMap, utf8_eq_flatMap]
    exact flatMap_utf8EncodeChar_lt below
  refine ⟨grows, fun below => ?_⟩
  by_contra notBelow
  by_cases above : t < s
  · exact List.lt_asymm below (grows above)
  · have same : s = t := String.le_antisymm (String.not_lt.1 above) (String.not_lt.1 notBelow)
    exact List.lt_irrefl _ (same ▸ below)

end ArchiveUpkeep.Text
