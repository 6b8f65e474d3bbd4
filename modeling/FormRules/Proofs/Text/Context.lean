import FormRules.Proofs.Text.Lowercase
import Mathlib.Tactic.SplitIfs

namespace FormRules.Text

/-- Whether the last character that is not case-ignorable is a cased one; `before` answers where
there is none. -/
def casedAfter (before : Bool) (cs : List Char) : Bool :=
  cs.foldl (fun cased c => if isCaseIgnorable c then cased else isCased c) before

/-- Whether the first character that is not case-ignorable is a cased one; `after` answers where
there is none. -/
def casedBefore (after : Bool) (cs : List Char) : Bool :=
  match cs.dropWhile isCaseIgnorable with
  | [] => after
  | c :: _ => isCased c

/-- Lower case of a text that stands between two others, of which it matters only whether a cased
character comes before and after. -/
def lowerBetween (before after : Bool) : List Char → List Char
  | [] => []
  | c :: cs =>
    (if c = 'Σ' then [if before && !casedBefore after cs then 'ς' else 'σ'] else lowerChar c) ++
      lowerBetween (if isCaseIgnorable c then before else isCased c) after cs

theorem startsCased_eq (cs : List Char) : startsCased cs = casedBefore false cs := by
  rfl

theorem casedBefore_append (after : Bool) (xs ys : List Char) :
    casedBefore after (xs ++ ys) = casedBefore (casedBefore after ys) xs := by
  simp only [casedBefore, List.dropWhile_append]
  cases xs.dropWhile isCaseIgnorable with
  | nil => rfl
  | cons c cs => rfl

theorem startsCased_append (xs ys : List Char) :
    startsCased (xs ++ ys) = casedBefore (startsCased ys) xs := by
  simp only [startsCased_eq, casedBefore_append]

theorem lowerFrom_eq_lowerBetween (before : Bool) (cs : List Char) :
    lowerFrom before cs = lowerBetween before false cs := by
  induction cs generalizing before with
  | nil => rfl
  | cons c cs ih => rw [lowerFrom, ih, lowerBetween, lowerSigma, startsCased_eq]

theorem lowerBetween_append (before after : Bool) (xs ys : List Char) :
    lowerBetween before after (xs ++ ys) =
      lowerBetween before (casedBefore after ys) xs ++
        lowerBetween (casedAfter before xs) after ys := by
  induction xs generalizing before with
  | nil => rfl
  | cons c cs ih =>
    rw [List.cons_append, lowerBetween, ih, lowerBetween, List.append_assoc, casedBefore_append]
    rfl

theorem lowerFrom_append (before : Bool) (xs ys : List Char) :
    lowerFrom before (xs ++ ys) =
      lowerBetween before (startsCased ys) xs ++ lowerFrom (casedAfter before xs) ys := by
  rw [lowerFrom_eq_lowerBetween, lowerBetween_append, lowerFrom_eq_lowerBetween, startsCased_eq]

theorem casedAfter_append (before : Bool) (xs ys : List Char) :
    casedAfter before (xs ++ ys) = casedAfter (casedAfter before xs) ys := List.foldl_append

/-- Only case-ignorable characters let what stands before them through. -/
theorem casedAfter_cases (xs : List Char) :
    (∀ before, casedAfter before xs = before) ∨
      ∀ before, casedAfter before xs = casedAfter false xs := by
  induction xs with
  | nil => exact Or.inl fun _ => rfl
  | cons c cs ih =>
    by_cases hc : isCaseIgnorable c = true
    · have pass (before : Bool) : casedAfter before (c :: cs) = casedAfter before cs := by
        simp [casedAfter, hc]
      simpa only [pass] using ih
    · right
      intro before
      simp [casedAfter, hc]

theorem casedBefore_cases (xs : List Char) :
    (∀ after, casedBefore after xs = after) ∨
      ∀ after, casedBefore after xs = casedBefore false xs := by
  simp only [casedBefore]
  cases xs.dropWhile isCaseIgnorable with
  | nil => exact Or.inl fun _ => rfl
  | cons c _ => exact Or.inr fun _ => rfl

/-- A text between two others keeps a place of its own in the lower case of the whole. -/
theorem lowerFrom_between (before : Bool) (xs cs ys : List Char) :
    lowerFrom before (xs ++ cs ++ ys) =
      lowerBetween before (casedBefore (startsCased ys) cs) xs ++
        lowerBetween (casedAfter before xs) (startsCased ys) cs ++
          lowerFrom (casedAfter before (xs ++ cs)) ys := by
  rw [List.append_assoc, lowerFrom_append, lowerFrom_append, startsCased_append,
    casedAfter_append, List.append_assoc]

theorem lowerBetween_infix_lowercase (before part after : String) :
    lowerBetween (casedAfter false before.toList) (startsCased after.toList) part.toList <:+:
      (lowercase (before ++ part ++ after)).toList := by
  rw [toList_lowercase, String.toList_append, String.toList_append, lowerFrom_between]
  exact ⟨_, _, rfl⟩

/-- The two small sigmas taken as one letter. -/
def foldSigma (c : Char) : Char := if c = 'ς' then 'σ' else c

/-- Up to the form of its sigmas a text has one lower case, whatever stands around it. -/
theorem map_foldSigma_lowerBetween (before after : Bool) (cs : List Char) :
    (lowerBetween before after cs).map foldSigma = (cs.flatMap lowerChar).map foldSigma := by
  induction cs generalizing before with
  | nil => rfl
  | cons c cs ih =>
    rw [lowerBetween, List.flatMap_cons, List.map_append, List.map_append, ih]
    congr 1
    by_cases hs : c = 'Σ'
    · subst hs
      rw [if_pos rfl, lowerChar_sigma]
      split_ifs <;> rfl
    · rw [if_neg hs]

theorem length_lowerBetween (before after : Bool) (cs : List Char) :
    (lowerBetween before after cs).length = (cs.flatMap lowerChar).length := by
  have h := congrArg List.length (map_foldSigma_lowerBetween before after cs)
  rwa [List.length_map, List.length_map] at h

theorem casedBefore_map_toLower (after : Bool) (cs : List Char) :
    casedBefore after (cs.map Char.toLower) = casedBefore after cs := by
  have same : isCaseIgnorable ∘ Char.toLower = isCaseIgnorable := funext isCaseIgnorable_toLower
  simp only [casedBefore, List.dropWhile_map, same]
  cases cs.dropWhile isCaseIgnorable with
  | nil => rfl
  | cons c _ => exact isCased_toLower c

/-- The case of ASCII letters leaves no trace in the lower case. -/
theorem lowerBetween_map_toLower (before after : Bool) (cs : List Char) :
    lowerBetween before after (cs.map Char.toLower) = lowerBetween before after cs := by
  induction cs generalizing before with
  | nil => rfl
  | cons c cs ih =>
    have sigma : c.toLower = 'Σ' ↔ c = 'Σ' := toLower_eq_sigma_iff c
    rw [List.map_cons, lowerBetween, lowerBetween, ih, casedBefore_map_toLower, lowerChar_toLower,
      isCaseIgnorable_toLower, isCased_toLower]
    simp only [sigma]

end FormRules.Text
