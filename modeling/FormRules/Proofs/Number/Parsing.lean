import FormRules.Proofs.Number.Reading
import FormRules.Proofs.Number.Rounding

namespace FormRules.Number.Binary64

theorem ofText?_nearest (d : Decimal) :
    ∃ rank h, ofText? d.text = some (.number d.sign.negative rank h) ∧
      Nearest d.magnitude rank := by
  refine ⟨decimalRank (wholeValue (d.whole ++ d.fraction.getD []))
    (d.exponent - (d.fraction.getD []).length), decimalRank_le _ _, ?_, ?_⟩
  · rw [ofText?, Numeral.ofText?_text]
    rfl
  · rw [Decimal.magnitude_eq]
    exact decimalRank_nearest _ _

/-- Every text that is read as a finite decimal is rounded once and correctly, whatever its
number of digits and the size of its power; texts of one signed value have the same bits. -/
theorem ofText?_correctly_rounded :
    (∀ text, (∃ negative c e, Numeral.ofText? text = some (.decimal negative c e)) ↔
        ∃ d : Decimal, d.text = text) ∧
      (∀ d : Decimal, ∃ rank h, ofText? d.text = some (.number d.sign.negative rank h) ∧
        Nearest d.magnitude rank) ∧
      ∀ d d' : Decimal, d.sign.negative = d'.sign.negative → d.magnitude = d'.magnitude →
        (ofText? d.text).map bits = (ofText? d'.text).map bits := by
  refine ⟨Numeral.ofText?_decimal_iff, ofText?_nearest, ?_⟩
  intro d d' hsign hmagnitude
  obtain ⟨rank, h, htext, hnear⟩ := ofText?_nearest d
  obtain ⟨rank', h', htext', hnear'⟩ := ofText?_nearest d'
  have hrank : rank = rank' := by
    rw [← hmagnitude] at hnear'
    exact hnear.unique hnear'
  subst hrank
  rw [htext, htext', hsign]

end FormRules.Number.Binary64
