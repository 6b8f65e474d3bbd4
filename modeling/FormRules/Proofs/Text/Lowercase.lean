import FormRules.Text.Lowercase

namespace FormRules.Text

/-- The codes of the letters from `A` to `Z`. -/
def IsCapital (c : Char) : Prop := 65 ≤ c.toNat ∧ c.toNat ≤ 90

/-- The codes of the letters from `a` to `z`. -/
def IsSmall (c : Char) : Prop := 97 ≤ c.toNat ∧ c.toNat ≤ 122

instance (c : Char) : Decidable (IsCapital c) := inferInstanceAs (Decidable (_ ∧ _))

instance (c : Char) : Decidable (IsSmall c) := inferInstanceAs (Decidable (_ ∧ _))

theorem forall_ascii {P : Char → Prop} (h : ∀ n : Fin 128, P (Char.ofNat n)) (c : Char)
    (hc : c.toNat < 128) : P c := by
  have hn := h ⟨c.toNat, hc⟩
  rwa [Char.ofNat_toNat] at hn

theorem toLower_of_not_capital {c : Char} (hc : ¬IsCapital c) : c.toLower = c := dif_neg hc

theorem toLower_of_capital {c : Char} (hc : IsCapital c) :
    c.toLower = Char.ofNat (c.toNat + 32) ∧ c.toLower.toNat = c.toNat + 32 := by
  have small : ∀ n : Fin 128, IsCapital (Char.ofNat n) →
      (Char.ofNat n).toLower = Char.ofNat ((Char.ofNat n).toNat + 32) ∧
        (Char.ofNat n).toLower.toNat = (Char.ofNat n).toNat + 32 := by decide +kernel
  exact forall_ascii (P := fun c => IsCapital c → c.toLower = Char.ofNat (c.toNat + 32) ∧
    c.toLower.toNat = c.toNat + 32) small c (Nat.lt_of_le_of_lt hc.2 (by decide)) hc

theorem isSmall_toLower_of_capital {c : Char} (hc : IsCapital c) : IsSmall c.toLower := by
  have hl := (toLower_of_capital hc).2
  have hA := hc.1
  have hZ := hc.2
  constructor
  · omega
  · omega

/-- Among the ASCII characters only the capitals have a lower case of their own. -/
theorem caseRuns_ascii : ∀ run ∈ caseRuns,
    run = ⟨65, 90, 1, 97⟩ ∨ 128 ≤ run.first := by decide +kernel

/-- A character that no run covers is its own lower case. -/
theorem lowerChar_of_uncovered {c : Char} (hi : c ≠ 'İ')
    (hc : ∀ run ∈ caseRuns, run.covers c.toNat = false) : lowerChar c = [c] := by
  have found : caseRuns.find? (·.covers c.toNat) = none := by
    rw [List.find?_eq_none]
    intro run hr
    rw [hc run hr]
    exact Bool.false_ne_true
  rw [lowerChar, if_neg hi, found]

theorem lowerChar_of_ascii {c : Char} (hc : c.toNat < 128) : lowerChar c = [c.toLower] := by
  have hi : c ≠ 'İ' := by
    intro heq
    rw [heq] at hc
    exact absurd hc (by decide)
  by_cases hA : IsCapital c
  · have covered : (CaseRun.mk 65 90 1 97).covers c.toNat = true := by
      simp [CaseRun.covers, hA.1, hA.2, Nat.mod_one]
    have found : caseRuns.find? (·.covers c.toNat) = some ⟨65, 90, 1, 97⟩ :=
      List.find?_cons_of_pos covered
    have hn : 97 + (c.toNat - 65) = c.toNat + 32 := by have := hA.1; omega
    rw [lowerChar, if_neg hi]
    simp only [found, CaseRun.lower, hn, (toLower_of_capital hA).1]
  · rw [toLower_of_not_capital hA]
    apply lowerChar_of_uncovered hi
    intro run hr
    rw [← Bool.not_eq_true]
    intro hcov
    simp only [CaseRun.covers, Bool.and_eq_true, decide_eq_true_eq] at hcov
    cases caseRuns_ascii run hr with
    | inl heq =>
      rw [heq] at hcov
      exact hA hcov.1
    | inr hfar => omega

theorem toLower_eq_sigma_iff (c : Char) : c.toLower = 'Σ' ↔ c = 'Σ' := by
  by_cases hA : IsCapital c
  · have hl := (toLower_of_capital hA).2
    have hc := hA.2
    constructor
    · intro h
      rw [h] at hl
      exact absurd hl (by change ¬931 = _; omega)
    · intro heq
      rw [heq] at hc
      exact absurd hc (by decide)
  · rw [toLower_of_not_capital hA]

theorem lowerChar_sigma : lowerChar 'Σ' = ['σ'] := by decide +kernel

/-- Without a capital sigma no character looks at those around it. -/
theorem lowerFrom_of_no_sigma {cs : List Char} (h : 'Σ' ∉ cs) (before : Bool) :
    lowerFrom before cs = cs.flatMap lowerChar := by
  induction cs generalizing before with
  | nil => rfl
  | cons c cs ih =>
    rw [List.mem_cons, not_or] at h
    rw [lowerFrom, if_neg (Ne.symm h.1), ih h.2, List.flatMap_cons]

theorem lowerChar_toLower (c : Char) : lowerChar c.toLower = lowerChar c := by
  by_cases hA : IsCapital c
  · have hl := (toLower_of_capital hA).2
    have hs : ¬IsCapital c.toLower := fun h => by have := h.2; have := hA.1; omega
    rw [lowerChar_of_ascii (c := c.toLower) (by have := hA.2; omega),
      lowerChar_of_ascii (c := c) (by have := hA.2; omega), toLower_of_not_capital hs]
  · rw [toLower_of_not_capital hA]

theorem isCased_of_letter {c : Char} (hc : IsCapital c ∨ IsSmall c) : isCased c = true := by
  rw [isCased, inRanges, List.any_eq_true]
  cases hc with
  | inl hc => exact ⟨(65, 90), List.mem_cons_self, by simp [hc.1, hc.2]⟩
  | inr hc => exact ⟨(97, 122), List.mem_cons_of_mem _ List.mem_cons_self, by simp [hc.1, hc.2]⟩

/-- No ASCII letter is case-ignorable. -/
theorem caseIgnorableRanges_letters : ∀ range ∈ caseIgnorableRanges,
    range.2 < 65 ∨ 90 < range.1 ∧ range.2 < 97 ∨ 122 < range.1 := by decide +kernel

theorem isCaseIgnorable_of_letter {c : Char} (hc : IsCapital c ∨ IsSmall c) :
    isCaseIgnorable c = false := by
  rw [isCaseIgnorable, inRanges, List.any_eq_false]
  intro range hr hin
  simp only [Bool.and_eq_true, decide_eq_true_eq] at hin
  have hgap := caseIgnorableRanges_letters range hr
  simp only [IsCapital, IsSmall] at hc
  omega

theorem isCased_toLower (c : Char) : isCased c.toLower = isCased c := by
  by_cases hA : IsCapital c
  · rw [isCased_of_letter (Or.inl hA),
      isCased_of_letter (Or.inr (isSmall_toLower_of_capital hA))]
  · rw [toLower_of_not_capital hA]

theorem isCaseIgnorable_toLower (c : Char) : isCaseIgnorable c.toLower = isCaseIgnorable c := by
  by_cases hA : IsCapital c
  · rw [isCaseIgnorable_of_letter (Or.inl hA),
      isCaseIgnorable_of_letter (Or.inr (isSmall_toLower_of_capital hA))]
  · rw [toLower_of_not_capital hA]

end FormRules.Text
