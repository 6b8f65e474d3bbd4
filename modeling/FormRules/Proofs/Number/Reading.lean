import FormRules.Proofs.Number.Written

namespace FormRules.Number

theorem isDigit_digitChar (d : Fin 10) : (Nat.digitChar d.val).isDigit = true := by
  revert d
  decide

theorem exists_digit {c : Char} (h : c.isDigit = true) : ∃ d : Fin 10, Nat.digitChar d.val = c := by
  have hchar : ∀ n < 58, 48 ≤ n → Nat.digitChar (n - 48) = Char.ofNat n := by decide
  have hrange : 48 ≤ c.toNat ∧ c.toNat ≤ 57 := Char.isDigit_iff_toNat.mp h
  refine ⟨⟨c.toNat - 48, by omega⟩, ?_⟩
  change Nat.digitChar (c.toNat - 48) = c
  rw [hchar c.toNat (by omega) hrange.1, Char.ofNat_toNat]

theorem digitChars_append (a b : List (Fin 10)) :
    digitChars (a ++ b) = digitChars a ++ digitChars b := by
  simp only [digitChars, List.map_append]

theorem length_digitChars (ds : List (Fin 10)) : (digitChars ds).length = ds.length := by
  simp only [digitChars, List.length_map]

theorem digitChars_ne_nil {ds : List (Fin 10)} (h : ds ≠ []) : digitChars ds ≠ [] := by
  intro hnil
  exact h (List.map_eq_nil_iff.mp hnil)

theorem all_digitChars (ds : List (Fin 10)) : (digitChars ds).all Char.isDigit = true := by
  rw [List.all_eq_true]
  intro c hc
  obtain ⟨d, hd, hdc⟩ := List.mem_map.mp hc
  rw [← hdc]
  exact isDigit_digitChar d

theorem exists_digits {cs : List Char} (h : cs.all Char.isDigit = true) :
    ∃ ds, digitChars ds = cs := by
  induction cs with
  | nil => exact ⟨[], rfl⟩
  | cons c cs ih =>
    rw [List.all_cons, Bool.and_eq_true] at h
    obtain ⟨d, hd⟩ := exists_digit h.1
    obtain ⟨ds, hds⟩ := ih h.2
    refine ⟨d :: ds, ?_⟩
    rw [digitChars, List.map_cons, hd, ← digitChars, hds]

namespace Numeral

theorem splitDigits_append (ds : List (Fin 10)) (rest : List Char)
    (hrest : ∀ c ∈ rest.head?, c.isDigit = false) :
    splitDigits (digitChars ds ++ rest) = (digitChars ds, rest) := by
  rw [splitDigits, List.takeWhile_append_of_pos, List.dropWhile_append_of_pos]
  · cases rest with
    | nil => simp
    | cons c rest =>
      have hc : c.isDigit = false := hrest c rfl
      simp [hc]
  · exact List.all_eq_true.mp (all_digitChars ds)
  · exact List.all_eq_true.mp (all_digitChars ds)

theorem splitSign_append (s : Sign) (body : List Char)
    (hbody : ∀ c ∈ body.head?, c ≠ '+' ∧ c ≠ '-') :
    splitSign (s.chars ++ body) = (s.negative, body) := by
  cases s with
  | plus => rfl
  | minus => rfl
  | absent =>
    cases body with
    | nil => rfl
    | cons c body =>
      obtain ⟨hplus, hminus⟩ := hbody c rfl
      change splitSign (c :: body) = (false, c :: body)
      rw [splitSign]
      · intro cs heq
        exact hplus (List.cons.inj heq).1
      · intro cs heq
        exact hminus (List.cons.inj heq).1

theorem head_digitChars {ds : List (Fin 10)} (hne : ds ≠ []) {c : Char} {rest : List Char}
    (hc : c ∈ (digitChars ds ++ rest).head?) : c.isDigit = true := by
  cases ds with
  | nil => exact absurd rfl hne
  | cons d ds =>
    have heq : Nat.digitChar d.val = c := Option.some.inj hc
    rw [← heq]
    exact isDigit_digitChar d

theorem ne_sign_of_isDigit {c : Char} (h : c.isDigit = true) : c ≠ '+' ∧ c ≠ '-' := by
  constructor
  · intro heq
    rw [heq] at h
    exact absurd h (by decide)
  · intro heq
    rw [heq] at h
    exact absurd h (by decide)

theorem exponent?_chars (p : Power) : exponent? p.chars = some p.value := by
  have hsplit : splitSign (p.sign.chars ++ digitChars p.digits) =
      (p.sign.negative, digitChars p.digits) := by
    apply splitSign_append
    intro c hc
    rw [← List.append_nil (digitChars p.digits)] at hc
    exact ne_sign_of_isDigit (head_digitChars p.digits_ne hc)
  have hmark : (if p.capital then 'E' else 'e') = 'e' ∨ (if p.capital then 'E' else 'e') = 'E' := by
    cases p.capital with
    | false => exact Or.inl rfl
    | true => exact Or.inr rfl
  simp only [Power.chars, exponent?, hsplit, digitsValue_digitChars]
  exact if_pos ⟨hmark, digitChars_ne_nil p.digits_ne, all_digitChars p.digits⟩

theorem exponent?_powerChars (d : Decimal) : exponent? d.powerChars = some d.exponent := by
  rw [Decimal.powerChars, Decimal.exponent]
  cases d.power with
  | none => rfl
  | some p => exact exponent?_chars p

/-- What can follow the digits after a point. -/
theorem head_powerChars (d : Decimal) {c : Char} (hc : c ∈ d.powerChars.head?) :
    c.isDigit = false ∧ c ≠ '.' := by
  rw [Decimal.powerChars] at hc
  cases hp : d.power with
  | none =>
    rw [hp] at hc
    exact absurd hc (Option.not_mem_none c)
  | some p =>
    rw [hp] at hc
    have heq : (if p.capital then 'E' else 'e') = c := Option.some.inj hc
    rw [← heq]
    cases p.capital with
    | false => decide
    | true => decide

theorem splitFraction_append (d : Decimal) :
    splitFraction (d.fractionChars ++ d.powerChars) =
      (digitChars (d.fraction.getD []), d.powerChars) := by
  rw [Decimal.fractionChars]
  cases d.fraction with
  | none =>
    change splitFraction d.powerChars = ([], d.powerChars)
    rw [splitFraction]
    intro cs heq
    have hpoint : '.' ∈ d.powerChars.head? := by
      rw [heq]
      rfl
    exact (head_powerChars d hpoint).2 rfl
  | some digits =>
    change splitDigits (digitChars digits ++ d.powerChars) = (digitChars digits, d.powerChars)
    apply splitDigits_append
    intro c hc
    exact (head_powerChars d hc).1

theorem head_fractionChars (d : Decimal) {c : Char}
    (hc : c ∈ (d.fractionChars ++ d.powerChars).head?) : c.isDigit = false := by
  rw [Decimal.fractionChars] at hc
  cases hf : d.fraction with
  | none =>
    rw [hf] at hc
    exact (head_powerChars d hc).1
  | some digits =>
    rw [hf] at hc
    have heq : '.' = c := Option.some.inj hc
    rw [← heq]
    decide

theorem decimal?_body (negative : Bool) (d : Decimal) :
    decimal? negative d.body =
      some (.decimal negative (wholeValue (d.whole ++ d.fraction.getD []))
        (d.exponent - (d.fraction.getD []).length)) := by
  have hsplit : splitDigits d.body = (digitChars d.whole, d.fractionChars ++ d.powerChars) :=
    splitDigits_append d.whole _ fun _ hc => head_fractionChars d hc
  simp only [decimal?, hsplit, splitFraction_append, ← digitChars_append, exponent?_powerChars,
    digitsValue_digitChars, length_digitChars, Option.map_some]
  exact if_neg (digitChars_ne_nil d.digits_ne)

theorem head_body (d : Decimal) :
    ∃ c cs, d.body = c :: cs ∧ (c.isDigit = true ∨ c = '.') := by
  rw [Decimal.body]
  cases hw : d.whole with
  | cons digit digits =>
    exact ⟨_, _, rfl, Or.inl (isDigit_digitChar digit)⟩
  | nil =>
    rw [Decimal.fractionChars]
    cases hf : d.fraction with
    | none =>
      have hempty : d.whole ++ d.fraction.getD [] = [] := by
        rw [hw, hf]
        rfl
      exact absurd hempty d.digits_ne
    | some digits => exact ⟨_, _, rfl, Or.inr rfl⟩

theorem word?_eq_none (negative : Bool) {c : Char} (cs : List Char) (hi : c.toLower ≠ 'i')
    (hn : c.toLower ≠ 'n') : word? negative (c :: cs) = none := by
  have hinf : (c :: cs).map Char.toLower ≠ "inf".toList := by
    intro heq
    exact hi (List.cons.inj heq).1
  have hinfinity : (c :: cs).map Char.toLower ≠ "infinity".toList := by
    intro heq
    exact hi (List.cons.inj heq).1
  have hnan : (c :: cs).map Char.toLower ≠ "nan".toList := by
    intro heq
    exact hn (List.cons.inj heq).1
  rw [word?, if_neg (not_or.mpr ⟨hinf, hinfinity⟩), if_neg hnan]

theorem word?_body (negative : Bool) (d : Decimal) : word? negative d.body = none := by
  obtain ⟨c, cs, hbody, hc⟩ := head_body d
  have hlower : c.toLower ≠ 'i' ∧ c.toLower ≠ 'n' := by
    cases hc with
    | inl hdigit =>
      obtain ⟨digit, hd⟩ := exists_digit hdigit
      rw [← hd]
      clear hd
      revert digit
      decide
    | inr hpoint =>
      rw [hpoint]
      decide
  rw [hbody]
  exact word?_eq_none negative cs hlower.1 hlower.2

theorem ofText?_text (d : Decimal) :
    ofText? d.text = some (.decimal d.sign.negative
      (wholeValue (d.whole ++ d.fraction.getD []))
      (d.exponent - (d.fraction.getD []).length)) := by
  have hsign : splitSign (d.sign.chars ++ d.body) = (d.sign.negative, d.body) := by
    apply splitSign_append
    obtain ⟨first, cs, hbody, hfirst⟩ := head_body d
    intro c hc
    rw [hbody] at hc
    have heq : first = c := Option.some.inj hc
    rw [← heq]
    cases hfirst with
    | inl hdigit => exact ne_sign_of_isDigit hdigit
    | inr hpoint =>
      rw [hpoint]
      decide
  rw [ofText?, Decimal.text, String.toList_ofList, ofChars?, hsign]
  change (word? _ _).or (decimal? _ _) = _
  rw [word?_body, Option.none_or, decimal?_body]

theorem exists_sign (cs : List Char) :
    ∃ s : Sign, s.negative = (splitSign cs).1 ∧ s.chars ++ (splitSign cs).2 = cs := by
  cases cs with
  | nil => exact ⟨.absent, rfl, rfl⟩
  | cons c cs =>
    by_cases hplus : c = '+'
    · rw [hplus]
      exact ⟨.plus, rfl, rfl⟩
    by_cases hminus : c = '-'
    · rw [hminus]
      exact ⟨.minus, rfl, rfl⟩
    have hsplit : splitSign (Sign.absent.chars ++ c :: cs) = (false, c :: cs) := by
      apply splitSign_append
      intro c' hc'
      have heq : c = c' := Option.some.inj hc'
      rw [← heq]
      exact ⟨hplus, hminus⟩
    change splitSign (c :: cs) = (false, c :: cs) at hsplit
    rw [hsplit]
    exact ⟨.absent, rfl, rfl⟩

theorem exists_splitDigits (cs : List Char) :
    ∃ ds, (splitDigits cs).1 = digitChars ds ∧ digitChars ds ++ (splitDigits cs).2 = cs := by
  obtain ⟨ds, hds⟩ := exists_digits (List.all_takeWhile (p := Char.isDigit) (l := cs))
  refine ⟨ds, hds.symm, ?_⟩
  rw [hds]
  exact List.takeWhile_append_dropWhile

theorem exists_splitFraction (cs : List Char) :
    ∃ fraction : Option (List (Fin 10)),
      (splitFraction cs).1 = digitChars (fraction.getD []) ∧
      (fraction.map fun ds => '.' :: digitChars ds).getD [] ++ (splitFraction cs).2 = cs := by
  cases cs with
  | nil => exact ⟨none, rfl, rfl⟩
  | cons c cs =>
    by_cases hpoint : c = '.'
    · obtain ⟨ds, hds, hcs⟩ := exists_splitDigits cs
      refine ⟨some ds, ?_, ?_⟩
      · rw [hpoint]
        exact hds
      · rw [hpoint]
        exact congrArg ('.' :: ·) hcs
    · have hsplit : splitFraction (c :: cs) = ([], c :: cs) := by
        rw [splitFraction]
        intro cs' heq
        exact hpoint (List.cons.inj heq).1
      rw [hsplit]
      exact ⟨none, rfl, rfl⟩

theorem exists_power {cs : List Char} {e : Int} (h : exponent? cs = some e) :
    ∃ p : Option Power, (p.map Power.chars).getD [] = cs := by
  cases cs with
  | nil => exact ⟨none, rfl⟩
  | cons mark cs =>
    change (if (mark = 'e' ∨ mark = 'E') ∧ (splitSign cs).2 ≠ [] ∧
      (splitSign cs).2.all Char.isDigit then some _ else none) = some e at h
    by_cases hread : (mark = 'e' ∨ mark = 'E') ∧ (splitSign cs).2 ≠ [] ∧
        (splitSign cs).2.all Char.isDigit
    · obtain ⟨hmark, hne, hall⟩ := hread
      obtain ⟨s, hneg, hcs⟩ := exists_sign cs
      obtain ⟨ds, hds⟩ := exists_digits hall
      have hdigits : ds ≠ [] := by
        intro hnil
        rw [← hds, hnil] at hne
        exact hne rfl
      rw [← hds] at hcs
      refine ⟨some ⟨mark == 'E', s, ds, hdigits⟩, ?_⟩
      change (if mark == 'E' then 'E' else 'e') :: (s.chars ++ digitChars ds) = mark :: cs
      rw [hcs]
      cases hmark with
      | inl he => rw [he]; rfl
      | inr hE => rw [hE]; rfl
    · rw [if_neg hread] at h
      cases h

theorem exists_body {negative : Bool} {cs : List Char} {n : Numeral} (s : Sign)
    (h : decimal? negative cs = some n) : ∃ d : Decimal, d.sign = s ∧ d.body = cs := by
  obtain ⟨whole, hwhole, hcs⟩ := exists_splitDigits cs
  obtain ⟨fraction, hfraction, hrest⟩ := exists_splitFraction (splitDigits cs).2
  change (if (splitDigits cs).1 ++ (splitFraction (splitDigits cs).2).1 = [] then none
    else (exponent? (splitFraction (splitDigits cs).2).2).map _) = some n at h
  rw [hwhole, hfraction, ← digitChars_append] at h
  by_cases hnil : digitChars (whole ++ fraction.getD []) = []
  · rw [if_pos hnil] at h
    cases h
  rw [if_neg hnil] at h
  obtain ⟨e, he, hn⟩ := Option.map_eq_some_iff.mp h
  obtain ⟨power, hpower⟩ := exists_power he
  have hne : whole ++ fraction.getD [] ≠ [] := by
    intro heq
    rw [heq] at hnil
    exact hnil rfl
  refine ⟨⟨s, whole, fraction, power, hne⟩, rfl, ?_⟩
  rw [Decimal.body, Decimal.powerChars, Decimal.fractionChars, hpower]
  cases fraction with
  | none =>
    change digitChars whole ++ (splitFraction (splitDigits cs).2).2 = cs
    change (splitFraction (splitDigits cs).2).2 = (splitDigits cs).2 at hrest
    rw [hrest, hcs]
  | some ds =>
    change '.' :: digitChars ds ++ (splitFraction (splitDigits cs).2).2 =
      (splitDigits cs).2 at hrest
    change digitChars whole ++ ('.' :: digitChars ds ++ (splitFraction (splitDigits cs).2).2) = cs
    rw [hrest, hcs]

theorem word?_ne_decimal (negative negative' : Bool) (cs : List Char) (c : Nat) (e : Int) :
    word? negative cs ≠ some (.decimal negative' c e) := by
  rw [word?]
  intro h
  by_cases hinf : cs.map Char.toLower = "inf".toList ∨ cs.map Char.toLower = "infinity".toList
  · rw [if_pos hinf] at h
    cases h
  by_cases hnan : cs.map Char.toLower = "nan".toList
  · rw [if_neg hinf, if_pos hnan] at h
    cases h
  · rw [if_neg hinf, if_neg hnan] at h
    cases h

/-- What is read by its digits is a decimal, with whichever sign stands before it. -/
theorem exists_text {text : String} {n : Numeral}
    (h : decimal? (splitSign text.toList).1 (splitSign text.toList).2 = some n) :
    ∃ d : Decimal, d.text = text := by
  obtain ⟨s, -, hcs⟩ := exists_sign text.toList
  obtain ⟨d, hsign, hbody⟩ := exists_body s h
  refine ⟨d, ?_⟩
  rw [Decimal.text, hsign, hbody, hcs, String.ofList_toList]

/-- The texts read as finite decimals are exactly the ones that can be written as such. -/
theorem ofText?_decimal_iff (text : String) :
    (∃ negative c e, ofText? text = some (.decimal negative c e)) ↔
      ∃ d : Decimal, d.text = text := by
  constructor
  · intro h
    obtain ⟨negative, c, e, h⟩ := h
    change (word? (splitSign text.toList).1 (splitSign text.toList).2).or
      (decimal? (splitSign text.toList).1 (splitSign text.toList).2) = _ at h
    cases Option.or_eq_some_iff.mp h with
    | inl hword => exact absurd hword (word?_ne_decimal _ _ _ _ _)
    | inr hdecimal => exact exists_text hdecimal.2
  · intro h
    obtain ⟨d, htext⟩ := h
    rw [← htext]
    exact ⟨_, _, _, ofText?_text d⟩

end Numeral

end FormRules.Number
