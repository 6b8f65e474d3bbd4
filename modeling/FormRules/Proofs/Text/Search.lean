import FormRules.Proofs.Text.Lowercase
import FormRules.Text.Search
import Mathlib.Data.List.Basic
import Mathlib.Tactic.SplitIfs

namespace FormRules.Text

def AllAscii (cs : List Char) : Prop := ∀ c ∈ cs, c.toNat < 128

instance (cs : List Char) : Decidable (AllAscii cs) := List.decidableBAll _ cs

def charByte (c : Char) : UInt8 := UInt8.ofNat c.toNat

theorem ofNat_toNat_charByte {c : Char} (hc : c.toNat < 128) :
    Char.ofNat (charByte c).toNat = c := by
  rw [charByte, UInt8.toNat_ofNat_of_lt' (by change _ < 256; omega), Char.ofNat_toNat]

theorem lowerByte_charByte {c : Char} (hc : c.toNat < 128) :
    lowerByte (charByte c) = charByte c.toLower :=
  forall_ascii (P := fun c => lowerByte (charByte c) = charByte c.toLower) (by decide +kernel) c hc

theorem ofNat_lt_128_iff {n : Nat} (hn : n < 256) : UInt8.ofNat n < 128 ↔ n < 128 := by
  rw [UInt8.lt_iff_toNat_lt, UInt8.toNat_ofNat_of_lt' hn]
  rfl

/-- A character is ASCII when its bytes are: the first byte of a longer form is not. -/
theorem isAscii_utf8EncodeChar (c : Char) :
    isAscii (String.utf8EncodeChar c) = true ↔ c.toNat < 128 := by
  have first (n : Nat) (bytes : List UInt8) (h128 : 128 ≤ n) (h256 : n < 256) :
      ¬isAscii (UInt8.ofNat n :: bytes) = true := by
    simp only [isAscii, List.all_cons, Bool.and_eq_true, decide_eq_true_eq, not_and]
    intro h
    exact absurd ((ofNat_lt_128_iff h256).mp h) (by omega)
  by_cases hc : c.toNat < 128
  · have single : String.utf8EncodeChar c = [charByte c] := if_pos (Nat.le_of_lt_succ hc)
    have small : charByte c < 128 := (ofNat_lt_128_iff (by omega)).mpr hc
    rw [single]
    simp [isAscii, small, hc]
  · have long : ¬c.val.toNat ≤ 127 := fun h => hc (Nat.lt_succ_of_le h)
    refine iff_of_false ?_ hc
    rw [String.utf8EncodeChar, if_neg long]
    split_ifs
    all_goals exact first _ _ (by omega) (by omega)

theorem isAscii_utf8_iff (text : String) : isAscii (utf8 text) = true ↔ AllAscii text.toList := by
  have chars : isAscii (utf8 text) = text.toList.all (isAscii ∘ String.utf8EncodeChar) :=
    List.all_flatMap
  rw [chars, List.all_eq_true]
  exact forall₂_congr fun c _ => isAscii_utf8EncodeChar c

theorem utf8_of_ascii {text : String} (h : AllAscii text.toList) :
    utf8 text = text.toList.map charByte := by
  rw [utf8, List.map_eq_flatMap]
  exact List.flatMap_congr fun c hc => if_pos (Nat.le_of_lt_succ (h c hc))

theorem lowerFrom_of_ascii (before : Bool) {cs : List Char} (h : AllAscii cs) :
    lowerFrom before cs = cs.map Char.toLower := by
  have hs : 'Σ' ∉ cs := fun hmem => absurd (h 'Σ' hmem) (by decide)
  rw [lowerFrom_of_no_sigma hs, List.map_eq_flatMap]
  exact List.flatMap_congr fun c hc => lowerChar_of_ascii (h c hc)

/-- Window by window or letter by letter, the scan finds the lowered bytes in a row. -/
theorem anyWindow_sameIgnoringCase_iff (value needle : List UInt8) (hn : 0 < needle.length) :
    anyWindow needle.length (sameIgnoringCase · needle) value = true ↔
      needle.map lowerByte <:+: value.map lowerByte := by
  rw [anyWindow_iff _ _ _ hn, List.infix_map_iff]
  constructor
  · intro hscan
    obtain ⟨window, hw, hsize, hsame⟩ := hscan
    exact ⟨window, hw, ((sameIgnoringCase_iff _ _).mp hsame).symm⟩
  · intro hinfix
    obtain ⟨window, hw, hsame⟩ := hinfix
    have hl := congrArg List.length hsame
    rw [List.length_map, List.length_map] at hl
    exact ⟨window, hw, hl.symm, (sameIgnoringCase_iff _ _).mpr hsame.symm⟩

theorem map_lowerByte_charByte {cs : List Char} (h : AllAscii cs) :
    (cs.map charByte).map lowerByte = (cs.map Char.toLower).map charByte := by
  rw [List.map_map, List.map_map]
  exact List.map_congr_left fun c hc => lowerByte_charByte (h c hc)

theorem allAscii_map_toLower {cs : List Char} (h : AllAscii cs) :
    AllAscii (cs.map Char.toLower) := by
  intro d hd
  obtain ⟨c, hc, rfl⟩ := List.mem_map.mp hd
  by_cases hA : IsCapital c
  · have hl := (toLower_of_capital hA).2
    have hz := hA.2
    omega
  · rw [toLower_of_not_capital hA]
    exact h c hc

theorem infix_map_charByte_iff {as bs : List Char} (ha : AllAscii as) (hb : AllAscii bs) :
    as.map charByte <:+: bs.map charByte ↔ as <:+: bs := by
  have back {cs : List Char} (hc : AllAscii cs) :
      (cs.map charByte).map (fun b => Char.ofNat b.toNat) = cs := by
    rw [List.map_map]
    exact (List.map_congr_left fun c hm => ofNat_toNat_charByte (hc c hm)).trans (List.map_id' cs)
  constructor
  · intro h
    have hi := h.map fun b => Char.ofNat b.toNat
    rwa [back ha, back hb] at hi
  · exact fun h => h.map charByte

/-- On ASCII texts the byte windows and the search in the lower case agree. -/
theorem anyWindow_utf8_iff {value needle : String} (hv : AllAscii value.toList)
    (hn : AllAscii needle.toList) (hne : needle.toList ≠ []) :
    anyWindow (utf8 needle).length (sameIgnoringCase · (utf8 needle)) (utf8 value) = true ↔
      (lowercase needle).toList <:+: (lowercase value).toList := by
  have size : 0 < (utf8 needle).length := by
    rw [utf8_of_ascii hn, List.length_map]
    exact List.length_pos_iff.mpr hne
  rw [anyWindow_sameIgnoringCase_iff _ _ size, utf8_of_ascii hv, utf8_of_ascii hn,
    map_lowerByte_charByte hv, map_lowerByte_charByte hn,
    infix_map_charByte_iff (allAscii_map_toLower hn) (allAscii_map_toLower hv),
    toList_lowercase, toList_lowercase, lowerFrom_of_ascii _ hv, lowerFrom_of_ascii _ hn]

theorem containsIgnoreCase_iff (value needle : String) :
    containsIgnoreCase value needle = true ↔
      needle ≠ "" ∧ (lowercase needle).toList <:+: (lowercase value).toList := by
  by_cases hne : needle = ""
  · simp [containsIgnoreCase, hne]
  have hchars : needle.toList ≠ [] := fun h => hne (String.toList_eq_nil_iff.mp h)
  rw [containsIgnoreCase, if_neg (by simpa using hne), and_iff_right hne]
  by_cases hascii : isAscii (utf8 value) = true ∧ isAscii (utf8 needle) = true
  · rw [if_pos (by simpa using hascii)]
    exact anyWindow_utf8_iff ((isAscii_utf8_iff value).mp hascii.1)
      ((isAscii_utf8_iff needle).mp hascii.2) hchars
  · rw [if_neg (by simpa using hascii)]
    exact occursIn_iff _ _

/-- Both ways of searching look for the lower case of the needle in that of the value, and the
windows are never empty. -/
theorem containsIgnoreCase_ways_agree (value needle : String) :
    (containsIgnoreCase value needle = true ↔
      needle ≠ "" ∧ (lowercase needle).toList <:+: (lowercase value).toList) ∧
    (isAscii (utf8 value) = true → isAscii (utf8 needle) = true → needle ≠ "" →
      0 < (utf8 needle).length ∧
      anyWindow (utf8 needle).length (sameIgnoringCase · (utf8 needle)) (utf8 value) =
        occursIn (lowercase needle).toList (lowercase value).toList) := by
  refine ⟨containsIgnoreCase_iff value needle, fun hv hn hne => ⟨?_, ?_⟩⟩
  · rw [utf8_of_ascii ((isAscii_utf8_iff needle).mp hn), List.length_map]
    exact List.length_pos_iff.mpr fun h => hne (String.toList_eq_nil_iff.mp h)
  · rw [Bool.eq_iff_iff, occursIn_iff]
    exact anyWindow_utf8_iff ((isAscii_utf8_iff value).mp hv) ((isAscii_utf8_iff needle).mp hn)
      fun h => hne (String.toList_eq_nil_iff.mp h)

theorem containsIgnoreCase_ways_agree_greeting :
    (isAscii (utf8 "[hey @ there]") = true ∧ isAscii (utf8 "@ THERE]") = true ∧ "@ THERE]" ≠ "") ∧
    0 < (utf8 "@ THERE]").length ∧
    anyWindow (utf8 "@ THERE]").length (sameIgnoringCase · (utf8 "@ THERE]"))
        (utf8 "[hey @ there]") =
      occursIn (lowercase "@ THERE]").toList (lowercase "[hey @ there]").toList := by
  have ascii : isAscii (utf8 "[hey @ there]") = true ∧ isAscii (utf8 "@ THERE]") = true := by
    decide +kernel
  exact ⟨⟨ascii.1, ascii.2, by decide⟩,
    (containsIgnoreCase_ways_agree "[hey @ there]" "@ THERE]").2 ascii.1 ascii.2 (by decide)⟩

end FormRules.Text
