/-!
# What a 64-bit float holds

A float is not a number, infinite, a zero or a positive number `m · 2 ^ q` with a sign in front.
`Value.ofFloat` reads this off its bits. `Binary.readsBack` says which decimals stand for a
positive number: those between halfway to its neighbour below and halfway to its neighbour
above. All comparisons are between natural numbers, so nothing is rounded on the way.
-/

namespace DocQuery.Decimal

/-- The positive number `mantissa · 2 ^ exponent`. `narrowBelow` says that the next float below
is half as far away as the next one above, which happens at the powers of two. -/
structure Binary where
  mantissa : Nat
  exponent : Int
  narrowBelow : Bool
  deriving Repr, DecidableEq

/-- A float taken apart; the Boolean says whether a minus sign stands in front. -/
inductive Value where
  | notANumber
  | infinite (negative : Bool)
  | zero (negative : Bool)
  | finite (negative : Bool) (magnitude : Binary)
  deriving Repr, DecidableEq

/-- `2 ^ k`, or one if `k` is negative. -/
def twoTo (k : Int) : Nat :=
  Nat.pow 2 k.toNat

/-- `10 ^ k`, or one if `k` is negative. -/
def tenTo (k : Int) : Nat :=
  Nat.pow 10 k.toNat

/-- The number with exponent field `field` and fraction field `fraction`. The lowest field
belongs to the numbers without a leading one bit. -/
def Binary.ofFields (field fraction : Nat) : Binary :=
  if field = 0 then ⟨fraction, -1074, false⟩
  else ⟨0x10000000000000 + fraction, (field : Int) - 1075, fraction = 0 && 1 < field⟩

/-- The value of a float, from its sign, exponent and fraction fields, which take one, eleven and
fifty-two bits. -/
def Value.ofFloat (x : Float) : Value :=
  let bits := x.toBits.toNat
  let negative : Bool := 0x8000000000000000 ≤ bits
  let field := bits / 0x10000000000000 % 0x800
  let fraction := bits % 0x10000000000000
  if field = 0x7ff then
    if fraction = 0 then .infinite negative else .notANumber
  else if field = 0 && fraction = 0 then .zero negative
  else .finite negative (.ofFields field fraction)

namespace Binary

variable (x : Binary)

/-- The number is less than `10 ^ k`. -/
def below (k : Int) : Bool :=
  x.mantissa * twoTo x.exponent * tenTo (-k) < tenTo k * twoTo (-x.exponent)

/-- The least power of ten that exceeds the number. The binary logarithm gives a lower estimate,
and a few steps upward reach the power itself. -/
def leadingPower : Int :=
  climb 4 (((x.mantissa.log2 : Int) + x.exponent) * 30103 / 100000 - 1)
where
  climb : Nat → Int → Int
    | 0, k => k
    | steps + 1, k => if x.below k then k else climb steps (k + 1)

/-- The largest `d` for which `d · 10 ^ k` does not exceed the number. -/
def floorAt (k : Int) : Nat :=
  x.mantissa * twoTo x.exponent * tenTo (-k) / (tenTo k * twoTo (-x.exponent))

/-- The decimal `d · 10 ^ k` is nearer to the number than to any other float. The two points
halfway between neighbours belong to the float with the even mantissa. -/
def readsBack (d : Nat) (k : Int) : Bool :=
  let point := 4 * (d * tenTo k * twoTo (-x.exponent))
  let unit := twoTo x.exponent * tenTo (-k)
  let low := (4 * x.mantissa - if x.narrowBelow then 1 else 2) * unit
  let high := (4 * x.mantissa + 2) * unit
  if x.mantissa % 2 = 0 then low ≤ point && point ≤ high else low < point && point < high

/-- How twice the number compares with `(2 d + 1) · 10 ^ k`, the middle between `d` and `d + 1`
on the grid of `10 ^ k`. -/
def compareMiddle (d : Nat) (k : Int) : Ordering :=
  compare (2 * x.mantissa * twoTo x.exponent * tenTo (-k))
    ((2 * d + 1) * tenTo k * twoTo (-x.exponent))

end Binary

end DocQuery.Decimal
