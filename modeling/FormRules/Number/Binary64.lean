import FormRules.Number.Numeral

namespace FormRules.Number

/-- The rank of the infinities; every smaller rank is that of a finite magnitude. -/
def infinityRank : Nat := 2047 * Nat.pow 2 52

/-- A double-precision number. The rank counts the magnitudes from zero upwards, one step for
each representable one, and is also the number's bits without the sign. -/
inductive Binary64 where
  | nan
  | number (negative : Bool) (rank : Nat) (rank_le : rank ≤ infinityRank)
  deriving DecidableEq

namespace Binary64

/-- The magnitude of a rank, in units of the least positive one, `2 ^ (-1074)`. -/
def units (rank : Nat) : Nat :=
  if rank < Nat.pow 2 52 then rank
  else (Nat.pow 2 52 + rank % Nat.pow 2 52) * Nat.pow 2 (rank / Nat.pow 2 52 - 1)

/-- The integer nearest to `num / den`; a half goes to the even neighbour. -/
def roundHalfEven (num den : Nat) : Nat :=
  let whole := num / den
  let rest := num % den
  if 2 * rest < den then whole
  else if den < 2 * rest then whole + 1
  else whole + whole % 2

/-- The rank nearest to `num / den` units. From `2 ^ 53` units on only the leading 53 binary
digits are kept; a carry out of them moves to the first rank of the next power of two. -/
def nearestRank (num den : Nat) : Nat :=
  let dropped := (num / den).log2 - 52
  min (dropped * Nat.pow 2 52 + roundHalfEven num (den * Nat.pow 2 dropped)) infinityRank

/-- The rank nearest to `coefficient * 10 ^ exponent`. Powers of ten too large or too small for
any finite or positive magnitude are answered without being computed. -/
def decimalRank (coefficient : Nat) : Int → Nat
  | .ofNat exponent =>
    if coefficient = 0 then 0
    else if 309 ≤ exponent then infinityRank
    else nearestRank (coefficient * Nat.pow 10 exponent * Nat.pow 2 1074) 1
  | .negSucc exponent =>
    if coefficient.log2 + 1076 ≤ 3 * (exponent + 1) then 0
    else nearestRank (coefficient * Nat.pow 2 1074) (Nat.pow 10 (exponent + 1))

theorem nearestRank_le (num den : Nat) : nearestRank num den ≤ infinityRank :=
  Nat.min_le_right _ _

theorem decimalRank_le (coefficient : Nat) (exponent : Int) :
    decimalRank coefficient exponent ≤ infinityRank := by
  unfold decimalRank
  split
  · split
    · exact Nat.zero_le _
    split
    · exact Nat.le_refl _
    exact nearestRank_le _ _
  · split
    · exact Nat.zero_le _
    exact nearestRank_le _ _

/-- Rounds once, to the nearest number with ties to even; the sign survives a rounding to zero. -/
def ofNumeral : Numeral → Binary64
  | .decimal negative coefficient exponent =>
    .number negative (decimalRank coefficient exponent) (decimalRank_le coefficient exponent)
  | .infinity negative => .number negative infinityRank (Nat.le_refl _)
  | .nan => .nan

def ofText? (text : String) : Option Binary64 := (Numeral.ofText? text).map ofNumeral

/-- The interchange encoding; a NaN is the positive quiet one. -/
def bits : Binary64 → Nat
  | .nan => infinityRank + Nat.pow 2 51
  | .number negative rank _ => negative.toNat * Nat.pow 2 63 + rank

/-- Where a number stands in the order; the two zeros share a place and a NaN has none. -/
def place? : Binary64 → Option Int
  | .nan => none
  | .number negative rank _ => some (if negative then -(rank : Int) else rank)

/-- Strictly less. A NaN is neither less nor greater than anything. -/
def lessThan (x y : Binary64) : Bool :=
  match x.place?, y.place? with
  | some a, some b => a < b
  | _, _ => false

end Binary64

end FormRules.Number
