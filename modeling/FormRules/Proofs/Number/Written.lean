import FormRules.Number.Numeral
import Mathlib.Algebra.Order.Field.Rat
import Mathlib.Tactic.FieldSimp
import Mathlib.Tactic.Ring

namespace FormRules.Number

inductive Sign where
  | absent
  | plus
  | minus
  deriving DecidableEq

namespace Sign

def chars : Sign → List Char
  | .absent => []
  | .plus => ['+']
  | .minus => ['-']

def negative : Sign → Bool
  | .minus => true
  | _ => false

end Sign

/-- Digits are written most significant first. -/
def digitChars (digits : List (Fin 10)) : List Char := digits.map fun d => Nat.digitChar d.val

def wholeValue : List (Fin 10) → Nat
  | [] => 0
  | d :: ds => d.val * 10 ^ ds.length + wholeValue ds

/-- The first digit after the point counts tenths. -/
def fractionValue : List (Fin 10) → ℚ
  | [] => 0
  | d :: ds => ((d.val : ℚ) + fractionValue ds) / 10

structure Power where
  capital : Bool
  sign : Sign
  digits : List (Fin 10)
  digits_ne : digits ≠ []

namespace Power

def chars (p : Power) : List Char :=
  (if p.capital then 'E' else 'e') :: (p.sign.chars ++ digitChars p.digits)

def value (p : Power) : Int :=
  if p.sign.negative then -(wholeValue p.digits : Int) else wholeValue p.digits

end Power

/-- A finite decimal as it is written; without a point there is no fraction. -/
structure Decimal where
  sign : Sign
  whole : List (Fin 10)
  fraction : Option (List (Fin 10))
  power : Option Power
  digits_ne : whole ++ fraction.getD [] ≠ []

namespace Decimal

def fractionChars (d : Decimal) : List Char :=
  match d.fraction with
  | none => []
  | some digits => '.' :: digitChars digits

def powerChars (d : Decimal) : List Char := (d.power.map Power.chars).getD []

def body (d : Decimal) : List Char := digitChars d.whole ++ (d.fractionChars ++ d.powerChars)

def text (d : Decimal) : String := String.ofList (d.sign.chars ++ d.body)

def exponent (d : Decimal) : Int := (d.power.map Power.value).getD 0

/-- The exact value of the text, its sign apart. -/
def magnitude (d : Decimal) : ℚ :=
  (wholeValue d.whole + fractionValue (d.fraction.getD [])) * 10 ^ d.exponent

end Decimal

theorem wholeValue_append (a b : List (Fin 10)) :
    wholeValue (a ++ b) = wholeValue a * 10 ^ b.length + wholeValue b := by
  induction a with
  | nil => rw [List.nil_append, wholeValue, Nat.zero_mul, Nat.zero_add]
  | cons d a ih =>
    rw [List.cons_append, wholeValue, wholeValue, ih, List.length_append, pow_add]
    ring

theorem fractionValue_scaled (ds : List (Fin 10)) :
    fractionValue ds * 10 ^ ds.length = wholeValue ds := by
  induction ds with
  | nil => rw [fractionValue, wholeValue, zero_mul, Nat.cast_zero]
  | cons d ds ih =>
    rw [fractionValue, wholeValue, List.length_cons, pow_succ]
    push_cast
    rw [← ih]
    field_simp

/-- Reading all the digits as one integer and counting the places after the point. -/
theorem Decimal.magnitude_eq (d : Decimal) :
    d.magnitude = (wholeValue (d.whole ++ d.fraction.getD []) : ℚ) *
      10 ^ (d.exponent - (d.fraction.getD []).length) := by
  have hten : (10 : ℚ) ≠ 0 := by norm_num
  have hfraction := fractionValue_scaled (d.fraction.getD [])
  rw [magnitude, wholeValue_append, zpow_sub₀ hten, zpow_natCast]
  push_cast
  rw [← hfraction]
  field_simp

theorem digitsValue_digitChars (ds : List (Fin 10)) :
    Numeral.digitsValue (digitChars ds) = wholeValue ds := by
  induction ds with
  | nil => rfl
  | cons d ds ih =>
    rw [Numeral.digitsValue] at ih
    rw [Numeral.digitsValue, digitChars, List.map_cons,
      Nat.ofDigitChars_cons_digitChar_of_lt_ten d.isLt, Nat.ofDigitChars_eq_ofDigitChars_zero,
      ← digitChars, ih, wholeValue, digitChars, List.length_map]
    ring

end FormRules.Number
