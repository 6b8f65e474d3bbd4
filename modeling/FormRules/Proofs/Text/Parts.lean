import FormRules.Proofs.Text.Search
import FormRules.Proofs.Text.Settled
import FormRules.Proofs.Validation.Single

namespace FormRules.Text

/-- The texts are equal up to the case of ASCII letters. -/
def SameLetters (part needle : String) : Prop :=
  part.toList.map Char.toLower = needle.toList.map Char.toLower

/-- The needle has the same lower case between the two texts as it has alone. -/
def UnchangedBetween (before after needle : String) : Prop :=
  lowerBetween (casedAfter false before.toList) (startsCased after.toList) needle.toList =
    lowerFrom false needle.toList

theorem containsIgnoreCase_part {before part after needle : String} (hn : needle ≠ "")
    (hp : SameLetters part needle) (hu : UnchangedBetween before after needle) :
    containsIgnoreCase (before ++ part ++ after) needle = true := by
  have place : lowerBetween (casedAfter false before.toList) (startsCased after.toList)
      part.toList = lowerFrom false needle.toList := by
    rw [← lowerBetween_map_toLower, hp, lowerBetween_map_toLower]
    exact hu
  rw [containsIgnoreCase_iff, toList_lowercase needle, ← place]
  exact ⟨hn, lowerBetween_infix_lowercase before part after⟩

theorem all_eq_of_prefix_cons {a : Char} {w : List Char} (h : w <+: a :: w) : ∀ x ∈ w, x = a := by
  induction w with
  | nil => simp
  | cons b w ih =>
    obtain ⟨rfl, ht⟩ := List.cons_prefix_cons.mp h
    intro x hx
    cases List.mem_cons.mp hx with
    | inl heq => exact heq
    | inr hx => exact ih ht x hx

/-- A cased letter, or nothing. -/
def letterIf (cased : Bool) : List Char := if cased then ['a'] else []

theorem lowerFrom_letters (before after : Bool) (cs : List Char) :
    lowerFrom false (letterIf before ++ cs ++ letterIf after) =
      letterIf before ++ lowerBetween before after cs ++ letterIf after := by
  have lower : lowerChar 'a' = ['a'] := lowerChar_of_ascii (by decide)
  have cased : isCased 'a' = true := isCased_of_letter (Or.inr (by decide))
  have seen : isCaseIgnorable 'a' = false := isCaseIgnorable_of_letter (Or.inr (by decide))
  have letter : 'a' ≠ 'Σ' := by decide
  have starts : startsCased (letterIf after) = after := by
    cases after <;> simp [startsCased, letterIf, seen, cased]
  have ends : casedAfter false (letterIf before) = before := by
    cases before <;> simp [casedAfter, letterIf, seen, cased]
  have first (next : Bool) : lowerBetween false next (letterIf before) = letterIf before := by
    cases before <;> simp [lowerBetween, letterIf, letter, lower]
  have last (cased : Bool) : lowerFrom cased (letterIf after) = letterIf after := by
    cases after <;> simp [lowerFrom, letterIf, letter, lower]
  rw [lowerFrom_between, starts, ends, first, last]

theorem eq_replicate_of_map_foldSigma {x : List Char} (h : ∀ c ∈ x.map foldSigma, c = 'a') :
    x = List.replicate x.length 'a' := by
  rw [List.eq_replicate_iff]
  refine ⟨rfl, ?_⟩
  intro c hc
  have hf := h _ (List.mem_map_of_mem hc)
  by_cases hs : c = 'ς'
  · rw [hs] at hf
    exact absurd hf (by decide)
  · simpa [foldSigma, hs] using hf

theorem map_foldSigma_letterIf (cased : Bool) :
    (letterIf cased).map foldSigma = letterIf cased := by cases cased <;> rfl

theorem eq_nil_of_shorter_letter {cased : Bool} {u : List Char}
    (h : u.length < (letterIf cased).length) : u = [] ∧ letterIf cased = ['a'] := by
  cases cased with
  | false => exact absurd h (by simp [letterIf])
  | true => exact ⟨List.length_eq_zero_iff.mp (Nat.lt_one_iff.mp h), rfl⟩

/-- A text is found in its own copy between two letters only where the copy stands, unless it is
made of that letter alone. -/
theorem eq_of_infix_letters {before after : Bool} {l x : List Char}
    (hw : l.map foldSigma = x.map foldSigma)
    (h : l <:+: letterIf before ++ x ++ letterIf after) : l = x := by
  have hl : l.length = x.length := by simpa using congrArg List.length hw
  have uniform (hx : ∀ c ∈ x.map foldSigma, c = 'a') : l = x := by
    have hx' := eq_replicate_of_map_foldSigma hx
    have hl' := eq_replicate_of_map_foldSigma (hw ▸ hx)
    rw [hl', hx', hl]
  obtain ⟨u, v, he⟩ := h
  have lens := congrArg List.length he
  have folded := congrArg (List.map foldSigma) he
  simp only [List.length_append] at lens
  simp only [List.map_append, hw, map_foldSigma_letterIf] at folded
  rcases Nat.lt_trichotomy u.length (letterIf before).length with hlt | heq | hgt
  · -- The copy has moved left, onto the letter before it.
    obtain ⟨hu, hp⟩ := eq_nil_of_shorter_letter hlt
    rw [hu, hp] at folded
    have left : x.map foldSigma <+: 'a' :: x.map foldSigma ++ letterIf after := ⟨_, folded⟩
    exact uniform (all_eq_of_prefix_cons
      (List.prefix_of_prefix_length_le left (List.prefix_append _ _) (by simp)))
  · rw [List.append_assoc, List.append_assoc] at he
    exact (List.append_inj (List.append_inj_right he heq) hl).1
  · -- The copy has moved right, onto the letter after it.
    have hlt : v.length < (letterIf after).length := by omega
    obtain ⟨hv, hs⟩ := eq_nil_of_shorter_letter hlt
    rw [hv, hs, List.map_nil, List.append_nil] at folded
    have right : x.map foldSigma <:+ letterIf before ++ x.map foldSigma ++ ['a'] := ⟨_, folded⟩
    have moved : x.map foldSigma <:+ x.map foldSigma ++ ['a'] :=
      List.suffix_of_suffix_length_le right ⟨_, (List.append_assoc _ _ _).symm⟩ (by simp)
    have reversed := List.reverse_prefix.mpr moved
    rw [List.reverse_append, List.reverse_singleton, List.singleton_append] at reversed
    exact uniform fun c hc => all_eq_of_prefix_cons reversed c (List.mem_reverse.mpr hc)

theorem settled_of_found {needle : String}
    (h : ∀ before after : Bool, containsIgnoreCase
      (String.ofList (letterIf before) ++ needle ++ String.ofList (letterIf after)) needle = true) :
    Settled needle.toList := by
  rw [settled_iff]
  intro before after
  have found := ((containsIgnoreCase_iff _ _).mp (h before after)).2
  rw [toList_lowercase, toList_lowercase, String.toList_append, String.toList_append,
    String.toList_ofList, String.toList_ofList, lowerFrom_letters] at found
  refine (eq_of_infix_letters ?_ found).symm
  rw [lowerFrom_eq_lowerBetween, map_foldSigma_lowerBetween, map_foldSigma_lowerBetween]

theorem settled_of_no_sigma {cs : List Char} (h : 'Σ' ∉ cs) : Settled cs := by
  intro pre post hcs
  exact absurd (by rw [hcs]; simp) h

theorem validate_contains {γ σ : Type} [Gated γ σ] {value needle : String}
    (h : containsIgnoreCase value needle = true) (field : String) (rule : Rule γ) (state : σ)
    (hk : rule.kind = .contains needle) :
    (validate field (.text value) rule state).value = none := by
  have passes : failureOn (.text value) rule = none := by
    simp only [failureOn, failureOnText, hk, failUnless, h, if_true]
  rw [validate_value, passes, ite_self]

/-- A needle is found wherever its lower case is not changed by what stands around it. It is
found in every text that it is a part of, up to the case of ASCII letters, exactly when it is
settled, as every needle without a capital sigma is. -/
theorem containsIgnoreCase_parts {γ σ : Type} [Gated γ σ] (needle : String) (hn : needle ≠ "") :
    (∀ before part after : String, SameLetters part needle →
      UnchangedBetween before after needle →
        containsIgnoreCase (before ++ part ++ after) needle = true) ∧
    ((∀ before part after : String, SameLetters part needle →
        containsIgnoreCase (before ++ part ++ after) needle = true ∧
        ∀ (field : String) (rule : Rule γ) (state : σ), rule.kind = .contains needle →
          (validate field (.text (before ++ part ++ after)) rule state).value = none) ↔
      Settled needle.toList) ∧
    ('Σ' ∉ needle.toList → Settled needle.toList) := by
  refine ⟨fun before part after hp hu => containsIgnoreCase_part hn hp hu, ⟨?_, ?_⟩,
    settled_of_no_sigma⟩
  · intro h
    exact settled_of_found fun before after => (h _ needle _ rfl).1
  · intro hs before part after hp
    have found : containsIgnoreCase (before ++ part ++ after) needle = true :=
      containsIgnoreCase_part hn hp ((settled_iff _).mp hs _ _)
    exact ⟨found, validate_contains found⟩

theorem containsIgnoreCase_parts_word :
    "ΟΔΟΣ!" ≠ "" ∧ Settled "ΟΔΟΣ!".toList ∧ SameLetters "ΟΔΟΣ!" "ΟΔΟΣ!" ∧
    containsIgnoreCase ("Η " ++ "ΟΔΟΣ!" ++ "Α") "ΟΔΟΣ!" = true := by
  have settled : Settled "ΟΔΟΣ!".toList := (settled_iff _).mpr (by decide +kernel)
  have parts := containsIgnoreCase_parts (γ := Gate) (σ := GateState) "ΟΔΟΣ!" (by decide)
  exact ⟨by decide, settled, rfl, (parts.2.1.mpr settled "Η " "ΟΔΟΣ!" "Α" rfl).1⟩

/-- A sigma that ends a word has lost its form when it is sought alone. -/
theorem sigma_not_found_at_word_end :
    SameLetters "Σ" "Σ" ∧ "Σ" ≠ "" ∧ containsIgnoreCase ("Α" ++ "Σ" ++ "") "Σ" = false := by
  refine ⟨rfl, by decide, ?_⟩
  decide +kernel

end FormRules.Text
