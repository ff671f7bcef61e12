import Remittance.Decimal.Basic
/-!
# Sums and differences of decimals

The exact result is taken at the larger of the two scales. Where its coefficient has too many bits,
the fewest digits that make it fit are dropped from its end, and a dropped half goes to the even
neighbour; where no digit behind the point is left to drop, there is no result. A zero operand gives
the other operand back with its own scale.
-/

namespace Remittance

namespace Decimal

-- powers are those of the core library, whatever other ones are in scope
attribute [local instance (high)] instPowNat

/-- The quotient `n / d` rounded to the nearest whole number, a half to the even one. -/
def roundHalfEven (n d : Nat) : Nat :=
  if 2 * (n % d) < d then n / d
  else if d < 2 * (n % d) then n / d + 1
  else n / d + n / d % 2

/-- The coefficient `c` without its last `digits` digits, rounded half to even. -/
def dropDigits (c : Int) (digits : Nat) : Int := c.sign * roundHalfEven c.natAbs (10 ^ digits)

/-- The decimal nearest to `c / 10 ^ (dropped + scale)` that keeps as many of the `scale` places as
its coefficient has room for. -/
def fitFrom? (c : Int) (dropped : Nat) : (scale : Nat) → Option Decimal
  | 0 => ofCoeff? (dropDigits c dropped) 0
  | scale + 1 =>
    (ofCoeff? (dropDigits c dropped) (scale + 1)).or (fitFrom? c (dropped + 1) scale)

/-- The decimal nearest to `c / 10 ^ scale`, with the most places that fit. -/
def fit? (c : Int) (scale : Nat) : Option Decimal := fitFrom? c 0 scale

/-- The coefficient of `a` when it is written with `scale` places. -/
def coeffAt (a : Decimal) (scale : Nat) : Int := a.widened (scale - a.scale)

/-- The decimal with the opposite sign; a zero stays as it is. -/
def neg (a : Decimal) : Decimal :=
  if a.magnitude = 0 then a else { a with negative := !a.negative }

/-- The sum of two decimals, where it fits. -/
def add? (a b : Decimal) : Option Decimal :=
  if a.coeff = 0 then some b
  else if b.coeff = 0 then some a
  else
    let scale := max a.scale b.scale
    fit? (a.coeffAt scale + b.coeffAt scale) scale

/-- The difference of two decimals, where it fits. -/
def sub? (a b : Decimal) : Option Decimal := add? a b.neg

end Decimal

end Remittance
