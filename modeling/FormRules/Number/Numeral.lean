namespace FormRules.Number

/-- What a written number denotes before any rounding: `decimal s c e` is `c * 10 ^ e`,
negated when `s` holds. -/
inductive Numeral where
  | decimal (negative : Bool) (coefficient : Nat) (exponent : Int)
  | infinity (negative : Bool)
  | nan
  deriving DecidableEq, Repr

namespace Numeral

/-- An optional leading sign and what follows it; only a first sign is taken. -/
def splitSign : List Char → Bool × List Char
  | '+' :: cs => (false, cs)
  | '-' :: cs => (true, cs)
  | cs => (false, cs)

/-- The leading ASCII digits and what follows them. -/
def splitDigits (cs : List Char) : List Char × List Char :=
  (cs.takeWhile Char.isDigit, cs.dropWhile Char.isDigit)

/-- The digits after a decimal point, none when there is no point, and what follows them. -/
def splitFraction : List Char → List Char × List Char
  | '.' :: cs => splitDigits cs
  | cs => ([], cs)

/-- The value of a run of decimal digits. -/
def digitsValue (digits : List Char) : Nat := Nat.ofDigitChars 10 digits 0

/-- The power of ten written after the digits: zero for nothing at all, otherwise an `e` of
either case, an optional sign and at least one digit. -/
def exponent? : List Char → Option Int
  | [] => some 0
  | mark :: cs =>
    let (negative, digits) := splitSign cs
    if (mark = 'e' ∨ mark = 'E') ∧ digits ≠ [] ∧ digits.all Char.isDigit then
      some (if negative then -(digitsValue digits : Int) else digitsValue digits)
    else none

/-- Digits with an optional point, at least one digit on either side of it, and an optional
power of ten. Each digit after the point lowers the exponent by one. -/
def decimal? (negative : Bool) (cs : List Char) : Option Numeral :=
  let (whole, afterWhole) := splitDigits cs
  let (fraction, rest) := splitFraction afterWhole
  if whole ++ fraction = [] then none
  else (exponent? rest).map fun power =>
    .decimal negative (digitsValue (whole ++ fraction)) (power - fraction.length)

/-- The names of the values that have no digits, in any ASCII case. -/
def word? (negative : Bool) (cs : List Char) : Option Numeral :=
  let word := cs.map Char.toLower
  if word = "inf".toList ∨ word = "infinity".toList then some (.infinity negative)
  else if word = "nan".toList then some .nan
  else none

def ofChars? (cs : List Char) : Option Numeral :=
  let (negative, body) := splitSign cs
  (word? negative body).or (decimal? negative body)

/-- Reads the whole text: nothing may stand before or after the number. -/
def ofText? (text : String) : Option Numeral := ofChars? text.toList

end Numeral

end FormRules.Number
