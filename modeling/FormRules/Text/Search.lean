import FormRules.Text.Lowercase

namespace FormRules.Text

def isNonEmpty (value : String) : Bool := !value.isEmpty

/-- The bytes of a text in UTF-8. -/
def utf8 (text : String) : List UInt8 := text.toList.flatMap String.utf8EncodeChar

def isAscii (bytes : List UInt8) : Bool := bytes.all (· < 128)

/-- Lower case of an ASCII capital; every other byte is its own. -/
def lowerByte (b : UInt8) : UInt8 := if 65 ≤ b ∧ b ≤ 90 then b + 32 else b

/-- Whether the pattern stands somewhere in the text as it is. -/
def occursIn (pattern : List Char) : List Char → Bool
  | [] => pattern.isEmpty
  | c :: cs => pattern.isPrefixOf (c :: cs) || occursIn pattern cs

theorem occursIn_iff (pattern text : List Char) :
    occursIn pattern text = true ↔ pattern <:+: text := by
  induction text with
  | nil => simp [occursIn]
  | cons c cs ih => simp [occursIn, List.infix_cons_iff, ih]

/-- Equality of bytes up to the case of ASCII letters. -/
def sameIgnoringCase : List UInt8 → List UInt8 → Bool
  | [], [] => true
  | a :: as, b :: bs => lowerByte a == lowerByte b && sameIgnoringCase as bs
  | _, _ => false

theorem sameIgnoringCase_iff (as bs : List UInt8) :
    sameIgnoringCase as bs = true ↔ as.map lowerByte = bs.map lowerByte := by
  induction as generalizing bs with
  | nil => cases bs <;> simp [sameIgnoringCase]
  | cons a as ih => cases bs <;> simp [sameIgnoringCase, ih]

/-- Whether some run of `size` elements passes the test. -/
def anyWindow {α : Type} (size : Nat) (test : List α → Bool) : List α → Bool
  | [] => false
  | a :: as => size ≤ as.length + 1 && (test ((a :: as).take size) || anyWindow size test as)

theorem anyWindow_iff {α : Type} (size : Nat) (test : List α → Bool) (list : List α)
    (hs : 0 < size) :
    anyWindow size test list = true ↔
      ∃ window, window <:+: list ∧ window.length = size ∧ test window = true := by
  induction list with
  | nil =>
    constructor
    · simp [anyWindow]
    · intro h
      obtain ⟨window, hw, hlen, htest⟩ := h
      rw [List.infix_nil.mp hw, List.length_nil] at hlen
      omega
  | cons a as ih =>
    simp only [anyWindow, Bool.and_eq_true, Bool.or_eq_true, decide_eq_true_eq, ih]
    constructor
    · intro h
      obtain ⟨hl, hfound⟩ := h
      cases hfound with
      | inl ht =>
        exact ⟨(a :: as).take size, (List.take_prefix _ _).isInfix,
          List.length_take_of_le (by simpa using hl), ht⟩
      | inr hlater =>
        obtain ⟨window, hw, hlen, ht⟩ := hlater
        exact ⟨window, List.infix_cons hw, hlen, ht⟩
    · intro h
      obtain ⟨window, hw, hlen, ht⟩ := h
      have hl := hw.length_le
      rw [hlen] at hl
      refine ⟨hl, ?_⟩
      cases List.infix_cons_iff.mp hw with
      | inl hp =>
        rw [List.prefix_iff_eq_take.mp hp, hlen] at ht
        exact Or.inl ht
      | inr hi => exact Or.inr ⟨window, hi, hlen, ht⟩

/-- Search without regard to case. Two ASCII texts are compared byte window by byte window;
otherwise the lower case of the one is sought in the lower case of the other. Nothing contains
the empty text. -/
def containsIgnoreCase (value needle : String) : Bool :=
  if needle.isEmpty then false
  else if isAscii (utf8 value) && isAscii (utf8 needle) then
    anyWindow (utf8 needle).length (sameIgnoringCase · (utf8 needle)) (utf8 value)
  else occursIn (lowercase needle).toList (lowercase value).toList

end FormRules.Text
