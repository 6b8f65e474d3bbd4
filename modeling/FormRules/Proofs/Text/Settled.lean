import FormRules.Proofs.Text.Context
import Mathlib.Logic.Basic

namespace FormRules.Text

/-- Every capital sigma of the text has its form fixed by the text itself: a cased character comes
next, or an uncased one stands before, or a cased one stands before and an uncased one comes
next. Case-ignorable characters count for neither. -/
def Settled (cs : List Char) : Prop :=
  ∀ pre post, cs = pre ++ 'Σ' :: post →
    casedBefore false post = true ∨ casedAfter true pre = false ∨
      (casedAfter false pre = true ∧ casedBefore true post = false)

/-- The form of a sigma between `pre` and `post`, with `before` and `after` around them. -/
def endsWord (before after : Bool) (pre post : List Char) : Bool :=
  casedAfter before pre && !casedBefore after post

theorem endsWord_fixed_iff (pre post : List Char) :
    (casedBefore false post = true ∨ casedAfter true pre = false ∨
      (casedAfter false pre = true ∧ casedBefore true post = false)) ↔
    ∀ before after, endsWord before after pre post = endsWord false false pre post := by
  simp only [endsWord]
  cases casedAfter_cases pre with
  | inl hp =>
    cases casedBefore_cases post with
    | inl hq =>
      simp only [hp, hq]
      decide
    | inr hq =>
      simp only [hp, hq]
      cases casedBefore false post <;> decide
  | inr hp =>
    cases casedBefore_cases post with
    | inl hq =>
      simp only [hp, hq]
      cases casedAfter false pre <;> decide
    | inr hq =>
      simp only [hp, hq]
      cases casedAfter false pre <;> cases casedBefore false post <;> decide

/-- A settled text has one lower case, whatever stands around it, and no other text has. -/
theorem settled_iff (cs : List Char) :
    Settled cs ↔ ∀ before after, lowerBetween before after cs = lowerFrom false cs := by
  constructor
  · intro hs before after
    rw [lowerFrom_eq_lowerBetween]
    have tail (rest : List Char) : ∀ pre, cs = pre ++ rest →
        lowerBetween (casedAfter before pre) after rest =
          lowerBetween (casedAfter false pre) false rest := by
      induction rest with
      | nil => exact fun _ _ => rfl
      | cons c rest ih =>
        intro pre hcs
        have next := ih (pre ++ [c]) (by rw [hcs, List.append_assoc]; rfl)
        rw [casedAfter_append, casedAfter_append] at next
        rw [lowerBetween, lowerBetween]
        refine congrArg₂ (· ++ ·) ?_ next
        by_cases hc : c = 'Σ'
        · subst hc
          have form := (endsWord_fixed_iff pre rest).mp (hs pre rest hcs) before after
          simp only [endsWord] at form
          rw [if_pos rfl, if_pos rfl, form]
        · rw [if_neg hc, if_neg hc]
    exact tail cs [] rfl
  · intro hl pre post hcs
    subst hcs
    rw [endsWord_fixed_iff]
    intro before after
    have h := (hl before after).trans (lowerFrom_eq_lowerBetween false _)
    rw [lowerBetween_append, lowerBetween_append] at h
    have rest := List.append_inj_right h (by rw [length_lowerBetween, length_lowerBetween])
    rw [lowerBetween, lowerBetween, if_pos rfl, if_pos rfl] at rest
    have form : (if endsWord before after pre post then 'ς' else 'σ') =
        if endsWord false false pre post then 'ς' else 'σ' := (List.cons.inj rest).1
    cases hb : endsWord before after pre post <;> cases hf : endsWord false false pre post <;>
      simp [hb, hf] at form ⊢

end FormRules.Text
