/-!
# Rounding

Rounding of exact numbers: to whole numbers, and to the numbers of double precision, which have 53
binary digits and whose last digit counts no less than `2 ^ -1074`. What lies halfway goes to the even
neighbour.
-/

namespace HtGate.Number

/-- The nearest whole number. -/
def roundHalfEven (x : Rat) : Int :=
  let below := x.floor
  let rest := x - below
  if rest < 1 / 2 then below
  else if 1 / 2 < rest then below + 1
  else if below % 2 = 0 then below else below + 1

/-- The whole part, without the sign's direction: rounded toward zero. -/
def truncate (x : Rat) : Int := if x < 0 then -(-x).floor else x.floor

/-- The power of two that the last of 53 binary digits of a number counts, where it is at hand; one
digit more or less is put right by `lastDigit`. -/
def lastDigitNear (x : Rat) : Int := (x.num.natAbs.log2 : Int) - (x.den.log2 : Int) - 52

/-- The power of two that the last binary digit of a number of double precision near `x` counts. -/
def lastDigit (x : Rat) : Int :=
  let e := lastDigitNear x
  let e := if (2 : Rat) ^ (e + 52) ≤ x.abs then e else e - 1
  max e (-1074)

/-- The nearest number of double precision, unless it is too large to be one. -/
def nearestDouble? (x : Rat) : Option Rat :=
  let unit := (2 : Rat) ^ lastDigit x
  let y := (roundHalfEven (x / unit) : Rat) * unit
  if (2 : Rat) ^ (1024 : Nat) ≤ y.abs then none else some y

/-- Whether `mantissa * 10 ^ exponent`, which is not negative, lies no farther from zero than half of the
smallest number of double precision, and so is zero in it. Where the mantissa has `digits` binary digits, the
number is less than `10 ^ (digits + exponent)`. -/
def vanishes (mantissa : Nat) (exponent : Int) : Bool :=
  let digits : Nat := mantissa.log2 + 1
  mantissa == 0 || digits + exponent < -1075
    || (exponent < 0 && mantissa <<< 1075 ≤ Nat.pow 10 (-exponent).toNat)

end HtGate.Number
