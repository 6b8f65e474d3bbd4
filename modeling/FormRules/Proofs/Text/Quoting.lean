import FormRules.Proofs.Text.Search
import FormRules.Text.Quoted
import Mathlib.Data.List.Forall2
import Mathlib.Tactic.SplitIfs

namespace FormRules.Text

section SelfDelimiting

variable {α : Type} {R : α → α → Prop} {write : α → String}

/-- Of two values that `R` relates, the written forms show where they end and which value they are
of, whatever is written after them. -/
def SelfDelimiting (R : α → α → Prop) (write : α → String) : Prop :=
  ∀ a b, R a b → ∀ x y, write a ++ x = write b ++ y → a = b ∧ x = y

/-- Forms of which none begins another are self-delimiting: of two beginnings of one text, one begins
the other. -/
theorem SelfDelimiting.of_words {words : List α}
    (h : ∀ a ∈ words, ∀ b ∈ words, (write a).toList <+: (write b).toList → a = b) :
    SelfDelimiting (fun a b => a ∈ words ∧ b ∈ words) write := by
  intro a b hab x y hsame
  obtain ⟨ha, hb⟩ := hab
  have hlists : (write a).toList ++ x.toList = (write b).toList ++ y.toList := by
    rw [← String.toList_append, ← String.toList_append, hsame]
  have hbegins : (write a).toList <+: (write b).toList ∨ (write b).toList <+: (write a).toList :=
    List.prefix_or_prefix_of_prefix ⟨x.toList, hlists⟩ (List.prefix_append _ _)
  have heq : a = b := by
    rcases hbegins with hfirst | hsecond
    · exact h a ha b hb hfirst
    · exact (h b hb a ha hsecond).symm
  subst heq
  exact ⟨rfl, (String.append_right_inj _).mp hsame⟩

/-- Lists of one length are told apart element by element; the separators need not be looked for. -/
theorem SelfDelimiting.intercalate (h : SelfDelimiting R write) (separator : String) :
    SelfDelimiting (List.Forall₂ R) fun list => separator.intercalate (list.map write) := by
  intro as bs hall
  induction hall with
  | nil =>
    intro x y hsame
    exact ⟨rfl, (String.append_right_inj _).mp hsame⟩
  | cons hab htail ih =>
    intro x y hsame
    -- a separator comes next only if the element is not the last one
    cases htail with
    | nil =>
      obtain ⟨rfl, hxy⟩ := h _ _ hab x y hsame
      exact ⟨rfl, hxy⟩
    | cons hnext hrest =>
      simp only [List.map_cons, String.intercalate_cons_cons, String.append_assoc] at hsame
      obtain ⟨rfl, hafter⟩ := h _ _ hab _ _ hsame
      obtain ⟨hrests, hxy⟩ := ih x y ((String.append_right_inj separator).mp hafter)
      exact ⟨congrArg _ hrests, hxy⟩

end SelfDelimiting

/-- The value of digits in base 16, the ones above nine in small letters. -/
def hexValue (digits : List Char) : Nat :=
  digits.foldl (fun value c => 16 * value +
    if c.isDigit then c.toNat - '0'.toNat else c.toNat - 'a'.toNat + 10) 0

/-- The character whose escape has this letter after the backslash. -/
def namedEscape? : Char → Option Char
  | '"' => some '"'
  | '\\' => some '\\'
  | 'n' => some '\n'
  | 't' => some '\t'
  | 'r' => some '\r'
  | '0' => some '\x00'
  | _ => none

/-- Reads the first character of what stands between quotes, and hands back the rest. A closing quote
is no character, and one beyond ASCII is not read as it stands. -/
def readChar? : List Char → Option (Char × List Char)
  | '\\' :: 'u' :: '\x7b' :: rest =>
    some (Char.ofNat (hexValue (rest.takeWhile (· ≠ '\x7d'))),
      (rest.dropWhile (· ≠ '\x7d')).tail)
  | '\\' :: letter :: rest => (namedEscape? letter).map fun c => (c, rest)
  | c :: rest => if c ≠ '"' ∧ c.toNat < 128 then some (c, rest) else none
  | [] => none

/-- The code of an ASCII character is read back from its digits, and none of them is the brace that
closes them. -/
theorem toDigits_code {c : Char} (hc : c.toNat < 128) :
    Char.ofNat (hexValue (Nat.toDigits 16 c.toNat)) = c ∧ '\x7d' ∉ Nat.toDigits 16 c.toNat :=
  forall_ascii (P := fun c => Char.ofNat (hexValue (Nat.toDigits 16 c.toNat)) = c ∧
    '\x7d' ∉ Nat.toDigits 16 c.toNat) (by decide +kernel) c hc

theorem readChar?_code {c : Char} (hc : c.toNat < 128) (rest : List Char) :
    readChar? (['\\', 'u', '\x7b'] ++ Nat.toDigits 16 c.toNat ++ ['\x7d'] ++ rest) =
      some (c, rest) := by
  obtain ⟨hvalue, hbrace⟩ := toDigits_code hc
  have hdigits : ∀ d ∈ Nat.toDigits 16 c.toNat, decide (d ≠ '\x7d') = true := fun d hd =>
    decide_eq_true (ne_of_mem_of_not_mem hd hbrace)
  have htake : (Nat.toDigits 16 c.toNat ++ '\x7d' :: rest).takeWhile (· ≠ '\x7d') =
      Nat.toDigits 16 c.toNat := by
    rw [List.takeWhile_append_of_pos hdigits]
    exact List.append_nil _
  have hdrop : (Nat.toDigits 16 c.toNat ++ '\x7d' :: rest).dropWhile (· ≠ '\x7d') =
      '\x7d' :: rest := by
    rw [List.dropWhile_append_of_pos hdigits]
    rfl
  simp only [List.append_assoc, List.cons_append, List.nil_append]
  rw [readChar?, htake, hdrop, hvalue]
  rfl

theorem readChar?_self {c : Char} (hc : c.toNat < 128) (hquote : c ≠ '"') (hback : c ≠ '\\')
    (rest : List Char) : readChar? (c :: rest) = some (c, rest) := by
  rw [readChar?]
  · exact if_pos ⟨hquote, hc⟩
  · intro _ h
    exact absurd h hback
  · intro _ _ h
    exact absurd h hback

/-- However long its escape is, a character is read back from it whatever comes next. -/
theorem readChar?_escapeChar {c : Char} (hc : c.toNat < 128) (rest : List Char) :
    readChar? (escapeChar c ++ rest) = some (c, rest) := by
  rw [escapeChar]
  split_ifs with hquote hback hline htab hreturn hnull hcontrol
  · rw [hquote]
    rfl
  · rw [hback]
    rfl
  · rw [hline]
    rfl
  · rw [htab]
    rfl
  · rw [hreturn]
    rfl
  · rw [hnull]
    rfl
  · exact readChar?_code hc rest
  · exact readChar?_self hc hquote hback rest

theorem readChar?_escaped {c : Char} {cs : List Char} (h : AllAscii (c :: cs)) (rest : List Char) :
    readChar? ((c :: cs).flatMap escapeChar ++ rest) = some (c, cs.flatMap escapeChar ++ rest) := by
  rw [List.flatMap_cons, List.append_assoc]
  exact readChar?_escapeChar (h c List.mem_cons_self) _

/-- The first quote that is no part of an escape is the closing one. -/
theorem escaped_closed {as bs : List Char} (ha : AllAscii as) (hb : AllAscii bs) {x y : List Char}
    (h : as.flatMap escapeChar ++ '"' :: x = bs.flatMap escapeChar ++ '"' :: y) :
    as = bs ∧ x = y := by
  -- where a closing quote comes next no character can be read, so both texts end there or neither does
  induction as generalizing bs with
  | nil =>
    cases bs with
    | nil => exact ⟨rfl, (List.cons.inj h).2⟩
    | cons b bs =>
      have hread : none = some _ := (congrArg readChar? h).trans (readChar?_escaped hb _)
      cases hread
  | cons a as ih =>
    have hread := (readChar?_escaped ha _).symm.trans (congrArg readChar? h)
    cases bs with
    | nil => cases hread
    | cons b bs =>
      rw [readChar?_escaped hb] at hread
      obtain ⟨rfl, hrest⟩ := Prod.mk.inj (Option.some.inj hread)
      obtain ⟨rfl, hxy⟩ := ih (List.forall_mem_of_forall_mem_cons ha)
        (List.forall_mem_of_forall_mem_cons hb) hrest
      exact ⟨rfl, hxy⟩

theorem quoted_selfDelimiting :
    SelfDelimiting (fun a b => AllAscii a.toList ∧ AllAscii b.toList) quoted := by
  intro a b hascii x y hsame
  have hlists : a.toList.flatMap escapeChar ++ '"' :: x.toList =
      b.toList.flatMap escapeChar ++ '"' :: y.toList := by
    have h := congrArg String.toList hsame
    simpa only [quoted, String.toList_append, String.toList_ofList, List.append_assoc,
      List.cons_append, List.nil_append, List.cons.injEq, true_and] using h
  obtain ⟨hab, hxy⟩ := escaped_closed hascii.1 hascii.2 hlists
  exact ⟨String.toList_injective hab, String.toList_injective hxy⟩

end FormRules.Text
