import FormRules.Proofs.Text.Context
import FormRules.Proofs.Text.LowerLetters

namespace FormRules.Text

/-- None of the three sigmas stands in the text. -/
def SigmaFree (text : String) : Prop := ∀ c ∈ text.toList, c ≠ 'Σ' ∧ c ≠ 'σ' ∧ c ≠ 'ς'

theorem SigmaFree.not_mem_lowercase {text : String} (h : SigmaFree text) {d : Char}
    (hd : d = 'σ' ∨ d = 'ς') : d ∉ (lowercase text).toList := by
  intro hmem
  rw [toList_lowercase] at hmem
  obtain ⟨c, hc, hletter | ⟨hcapital, -⟩⟩ := mem_lowerFrom hmem
  · obtain ⟨hcapital, hsmall, hfinal⟩ := h c hc
    rcases sigma_of_mem_lowerChar hletter hd with heq | heq | heq
    · exact hcapital heq
    · exact hsmall heq
    · exact hfinal heq
  · exact (h c hc).1 hcapital

theorem map_foldSigma_of_no_final {cs : List Char} (h : 'ς' ∉ cs) : cs.map foldSigma = cs := by
  have hsame : ∀ c ∈ cs, foldSigma c = c := by
    intro c hc
    apply if_neg
    rintro rfl
    exact h hc
  rw [List.map_congr_left hsame, List.map_id']

/-- A pattern without small sigmas is found in both or neither of two texts that differ only in the
form of theirs. -/
theorem infix_of_map_foldSigma {pattern xs ys : List Char} (hs : 'σ' ∉ pattern)
    (hf : 'ς' ∉ pattern) (h : xs.map foldSigma = ys.map foldSigma) (hx : pattern <:+: xs) :
    pattern <:+: ys := by
  have hfolded : pattern <:+: ys.map foldSigma := by
    rw [← h, ← map_foldSigma_of_no_final hf]
    exact hx.map foldSigma
  obtain ⟨part, hpart, heq⟩ := List.infix_map_iff.mp hfolded
  -- A final sigma of the part would be a sigma of the pattern.
  have hfinal : 'ς' ∉ part := by
    intro hmem
    rw [heq] at hs
    exact hs (List.mem_map_of_mem hmem)
  rw [heq, map_foldSigma_of_no_final hfinal]
  exact hpart

/-- What surrounds a text changes the form of its sigmas and nothing else, so a needle without
sigmas that is found in the text is found in it wherever the text stands. -/
theorem containsIgnoreCase_surrounded (before value after needle : String)
    (hn : SigmaFree needle) (h : containsIgnoreCase value needle = true) :
    containsIgnoreCase (before ++ value ++ after) needle = true := by
  rw [containsIgnoreCase_iff] at h ⊢
  obtain ⟨hne, hfound⟩ := h
  refine ⟨hne, ?_⟩
  have hsame : (lowercase value).toList.map foldSigma =
      (lowerBetween (casedAfter false before.toList) (startsCased after.toList)
        value.toList).map foldSigma := by
    rw [toList_lowercase, lowerFrom_eq_lowerBetween, map_foldSigma_lowerBetween,
      map_foldSigma_lowerBetween]
  have hplace := infix_of_map_foldSigma (hn.not_mem_lowercase (.inl rfl))
    (hn.not_mem_lowercase (.inr rfl)) hsame hfound
  exact hplace.trans (lowerBetween_infix_lowercase before value after)

/-- The bytes of the value no longer decide once something that is not ASCII stands before it. -/
theorem containsIgnoreCase_surrounded_street :
    SigmaFree "THERE" ∧ containsIgnoreCase "Hey There!" "THERE" = true ∧
    isAscii (utf8 "Hey There!") = true ∧ isAscii (utf8 ("ΟΔΟΣ: " ++ "Hey There!" ++ "")) = false ∧
    containsIgnoreCase ("ΟΔΟΣ: " ++ "Hey There!" ++ "") "THERE" = true := by
  have hfree : SigmaFree "THERE" := by simp [SigmaFree]
  have hfound : containsIgnoreCase "Hey There!" "THERE" = true := by decide +kernel
  exact ⟨hfree, hfound, by decide +kernel, by decide +kernel,
    containsIgnoreCase_surrounded "ΟΔΟΣ: " "Hey There!" "" "THERE" hfree hfound⟩

/-- A needle that ends in a sigma can be lost to the letter after it. -/
example : containsIgnoreCase "ΟΔΟΣ" "ΟΔΟΣ" = true ∧
    containsIgnoreCase ("ΟΔΟΣ" ++ "Α") "ΟΔΟΣ" = false := by decide +kernel

end FormRules.Text
