import FormRules.Proofs.Text.Search

namespace FormRules.Text

namespace CaseRun

/-- Some letter of the run's lower case may be one of the other run's capitals, by where the two
begin and end. -/
def meets (run other : CaseRun) : Bool :=
  -- The kernel computes `Nat.ble` at once, and there is a check for each two runs.
  Nat.ble run.target other.last && Nat.ble other.first (run.target + (run.last - run.first))

/-- The letters of the run's lower case and the other run's capitals take turns. -/
def alternates (run other : CaseRun) : Bool :=
  other.step == 2 && (run.step == 2 || run.first == run.last) &&
    (run.target + other.first) % 2 == 1

theorem lower_le {run : CaseRun} {code : Nat} (h : run.covers code = true) :
    run.target ≤ run.lower code ∧ run.lower code ≤ run.target + (run.last - run.first) := by
  simp only [covers, Bool.and_eq_true, decide_eq_true_eq] at h
  rw [lower]
  omega

theorem not_covers_lower {run other : CaseRun} {code : Nat} (h : run.covers code = true)
    (hclear : (!run.meets other || run.alternates other) = true) :
    other.covers (run.lower code) = false := by
  obtain ⟨hlow, hhigh⟩ := lower_le h
  rw [Bool.or_eq_true, Bool.not_eq_true'] at hclear
  rw [← Bool.not_eq_true]
  intro hcovers
  simp only [covers, Bool.and_eq_true, decide_eq_true_eq, beq_iff_eq] at h hcovers
  cases hclear with
  | inl hfar =>
    have hmeets : run.meets other = true := by
      simp only [meets, Bool.and_eq_true, Nat.ble_eq]
      omega
    rw [hmeets] at hfar
    cases hfar
  | inr hturns =>
    simp only [alternates, Bool.and_eq_true, Bool.or_eq_true, beq_iff_eq] at hturns
    obtain ⟨⟨hother, hstep⟩, hodd⟩ := hturns
    have heven : (code - run.first) % 2 = 0 := by
      cases hstep with
      | inl htwo => rw [← htwo]; exact h.2
      | inr hone => omega
    rw [hother, lower] at hcovers
    omega

end CaseRun

/-- No lower-case letter is a capital of the table. -/
theorem caseRuns_clear :
    caseRuns.all (fun run => caseRuns.all fun other => !run.meets other || run.alternates other) =
      true := by decide +kernel

/-- The letters of the lower case are characters, and the dotted capital I is none of them. -/
theorem caseRuns_letters : ∀ run ∈ caseRuns,
    run.target + (run.last - run.first) < 0x130 ∨ 0x130 < run.target ∧
      (run.target + (run.last - run.first) < 0xd800 ∨
        0xdfff < run.target ∧ run.target + (run.last - run.first) < 0x110000) := by decide +kernel

/-- Of the small sigmas only the one inside a word is a letter of the table, and the capital sigma
is its only capital. -/
theorem caseRuns_sigma : ∀ run ∈ caseRuns,
    run.first = 0x3a3 ∧ run.target = 0x3c3 ∨
      run.target + (run.last - run.first) < 0x3c2 ∨ 0x3c3 < run.target := by decide +kernel

/-- What stands in the lower case of a character: the character itself where that has no other, one
of the two that the dotted capital I becomes, or a letter of the table. -/
theorem mem_lowerChar {c d : Char} (h : d ∈ lowerChar c) :
    (lowerChar c = [c] ∧ d = c) ∨ (d = 'i' ∨ d = '\u0307') ∨
      ∃ run ∈ caseRuns, run.covers c.toNat = true ∧ d.toNat = run.lower c.toNat := by
  by_cases hi : c = 'İ'
  · rw [lowerChar, if_pos hi] at h
    simp only [List.mem_cons, List.not_mem_nil, or_false] at h
    exact .inr (.inl h)
  rw [lowerChar, if_neg hi] at h ⊢
  cases hrun : caseRuns.find? (·.covers c.toNat) with
  | none =>
    rw [hrun, List.mem_singleton] at h
    exact .inl ⟨rfl, h⟩
  | some run =>
    have hmem := List.mem_of_find?_eq_some hrun
    have hcovers : run.covers c.toNat = true := by simpa using List.find?_some hrun
    have hbounds := CaseRun.lower_le hcovers
    have hletters := caseRuns_letters run hmem
    have hvalid : (run.lower c.toNat).isValidChar := by
      rw [Nat.isValidChar]
      omega
    rw [hrun, List.mem_singleton] at h
    refine .inr (.inr ⟨run, hmem, hcovers, ?_⟩)
    rw [h, Char.ofNat, dif_pos hvalid]
    rfl

/-- What stands in a lower case stays as it is. -/
theorem lowerChar_of_mem_lowerChar {c d : Char} (h : d ∈ lowerChar c) : lowerChar d = [d] := by
  rcases mem_lowerChar h with ⟨hsame, rfl⟩ | (rfl | rfl) | ⟨run, hmem, hcovers, hd⟩
  · exact hsame
  · decide +kernel
  · decide +kernel
  apply lowerChar_of_uncovered
  · rintro rfl
    have hcode : 'İ'.toNat = 0x130 := rfl
    have hbounds := CaseRun.lower_le hcovers
    have hletters := caseRuns_letters run hmem
    omega
  · intro other hother
    have hclear := List.all_eq_true.mp (List.all_eq_true.mp caseRuns_clear run hmem) other hother
    rw [hd]
    exact CaseRun.not_covers_lower hcovers hclear

/-- Small sigmas come from sigmas only. -/
theorem sigma_of_mem_lowerChar {c d : Char} (h : d ∈ lowerChar c) (hd : d = 'σ' ∨ d = 'ς') :
    c = 'Σ' ∨ c = 'σ' ∨ c = 'ς' := by
  rcases mem_lowerChar h with ⟨-, rfl⟩ | (rfl | rfl) | ⟨run, hmem, hcovers, hcode⟩
  · exact .inr hd
  · exact absurd hd (by decide)
  · exact absurd hd (by decide)
  have hsmall : d.toNat = 0x3c3 ∨ d.toNat = 0x3c2 := by
    rcases hd with rfl | rfl
    · exact .inl rfl
    · exact .inr rfl
  have hbounds := CaseRun.lower_le hcovers
  have hsigma := caseRuns_sigma run hmem
  simp only [CaseRun.covers, Bool.and_eq_true, decide_eq_true_eq] at hcovers
  rw [CaseRun.lower] at hcode hbounds
  left
  apply Char.toNat_inj.mp
  change c.toNat = 0x3a3
  omega

/-- Every character of a lower case stands in that of one character, but for the sigma that ends a
word. -/
theorem mem_lowerFrom {before : Bool} {cs : List Char} {d : Char} (h : d ∈ lowerFrom before cs) :
    ∃ c ∈ cs, d ∈ lowerChar c ∨ c = 'Σ' ∧ d = 'ς' := by
  induction cs generalizing before with
  | nil => cases h
  | cons c cs ih =>
    rw [lowerFrom, List.mem_append] at h
    cases h with
    | inl hfirst =>
      refine ⟨c, List.mem_cons_self, ?_⟩
      by_cases hs : c = 'Σ'
      · rw [if_pos hs, lowerSigma, List.mem_singleton] at hfirst
        rw [hs, lowerChar_sigma, List.mem_singleton]
        split_ifs at hfirst
        · exact .inr ⟨rfl, hfirst⟩
        · exact .inl hfirst
      · rw [if_neg hs] at hfirst
        exact .inl hfirst
    | inr hrest =>
      obtain ⟨c', hc', hd⟩ := ih hrest
      exact ⟨c', List.mem_cons_of_mem _ hc', hd⟩

theorem lowerChar_of_mem_lowerFrom {before : Bool} {cs : List Char} {d : Char}
    (h : d ∈ lowerFrom before cs) : lowerChar d = [d] := by
  obtain ⟨c, -, hd | ⟨-, rfl⟩⟩ := mem_lowerFrom h
  · exact lowerChar_of_mem_lowerChar hd
  · decide +kernel

/-- Lower case leaves no capital sigma, and what it leaves it leaves alone. -/
theorem lowerFrom_lowerFrom (before before' : Bool) (cs : List Char) :
    lowerFrom before (lowerFrom before' cs) = lowerFrom before' cs := by
  have hs : 'Σ' ∉ lowerFrom before' cs := by
    intro hmem
    have hfixed := lowerChar_of_mem_lowerFrom hmem
    rw [lowerChar_sigma] at hfixed
    exact absurd hfixed (by decide)
  rw [lowerFrom_of_no_sigma hs, List.flatMap_congr fun d hd => lowerChar_of_mem_lowerFrom hd,
    List.flatMap_singleton']

theorem lowercase_lowercase (text : String) : lowercase (lowercase text) = lowercase text := by
  rw [lowercase, toList_lowercase, lowerFrom_lowerFrom, lowercase]

theorem lowerChar_ne_nil (c : Char) : lowerChar c ≠ [] := by
  rw [lowerChar]
  split_ifs
  · exact List.cons_ne_nil _ _
  · cases caseRuns.find? (·.covers c.toNat) <;> exact List.cons_ne_nil _ _

theorem lowercase_eq_empty_iff (text : String) : lowercase text = "" ↔ text = "" := by
  rw [← String.toList_eq_nil_iff, toList_lowercase, ← String.toList_eq_nil_iff]
  cases text.toList with
  | nil => exact Iff.rfl
  | cons c cs =>
    refine iff_of_false ?_ (List.cons_ne_nil c cs)
    rw [lowerFrom]
    apply List.append_ne_nil_of_left_ne_nil
    by_cases hs : c = 'Σ'
    · rw [if_pos hs]
      exact List.cons_ne_nil _ _
    · rw [if_neg hs]
      exact lowerChar_ne_nil c

/-- The search sees of its two texts only their lower case. -/
theorem containsIgnoreCase_lowercase (value needle : String) :
    containsIgnoreCase value needle = containsIgnoreCase (lowercase value) needle ∧
    containsIgnoreCase (lowercase value) needle = containsIgnoreCase value (lowercase needle) ∧
    containsIgnoreCase value (lowercase needle) =
      containsIgnoreCase (lowercase value) (lowercase needle) := by
  have hvalue (needle : String) :
      containsIgnoreCase value needle = containsIgnoreCase (lowercase value) needle := by
    rw [Bool.eq_iff_iff, containsIgnoreCase_iff, containsIgnoreCase_iff, lowercase_lowercase]
  have hneedle (value : String) :
      containsIgnoreCase value needle = containsIgnoreCase value (lowercase needle) := by
    rw [Bool.eq_iff_iff, containsIgnoreCase_iff, containsIgnoreCase_iff, lowercase_lowercase,
      ne_eq, ne_eq, lowercase_eq_empty_iff]
  exact ⟨hvalue needle, (hvalue needle).symm.trans (hneedle value), hvalue (lowercase needle)⟩

/-- The Kelvin sign is no ASCII character, and its lower case is one. -/
example : isAscii (utf8 "300 \u212a") = false ∧ isAscii (utf8 (lowercase "300 \u212a")) = true ∧
    containsIgnoreCase "300 \u212a" "K" = true := by decide +kernel

end FormRules.Text
