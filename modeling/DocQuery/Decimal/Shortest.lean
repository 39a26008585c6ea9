import DocQuery.Decimal.Binary

/-!
# The fewest digits that read back

`Decimal.shortest` writes a positive float with as few digits as still tell it apart from every
other float. Among the decimals of that length it takes the one nearest to the float; where two
are equally near, the caller's `Tie` decides.
-/

namespace DocQuery.Decimal

/-- Which of two equally near decimals is taken. -/
inductive Tie where
  /-- The one further from zero. -/
  | away
  /-- The one whose last digit is even. -/
  | even
  deriving Repr, DecidableEq

/-- The decimal number `digits · 10 ^ exponent`. -/
structure Digits where
  digits : Nat
  exponent : Int
  deriving Repr, DecidableEq

/-- Moves zeros at the end of the digits into the exponent, at most `zeros` of them. -/
def Digits.stripped : (zeros d : Nat) → (k : Int) → Digits
  | 0, d, k => ⟨d, k⟩
  | zeros + 1, d, k => if d % 10 = 0 then stripped zeros (d / 10) (k + 1) else ⟨d, k⟩

/-- Of `d` and `d + 1` on the grid of `10 ^ k`, the one nearer to `x`. -/
def Binary.nearer (x : Binary) (tie : Tie) (d : Nat) (k : Int) : Nat :=
  match x.compareMiddle d k, tie with
  | .lt, _ => d
  | .gt, _ => d + 1
  | .eq, .away => d + 1
  | .eq, .even => if d % 2 = 0 then d else d + 1

/-- The multiple of `10 ^ k` that reads back as `x`, if there is one. Only the two neighbours of
`x` on the grid have to be tried. -/
def Binary.onGrid? (x : Binary) (tie : Tie) (k : Int) : Option Nat :=
  let d := x.floorAt k
  match x.readsBack d k, x.readsBack (d + 1) k with
  | true, true => some (x.nearer tie d k)
  | true, false => some d
  | false, true => some (d + 1)
  | false, false => none

/-- The number of digits that always suffice to tell a float apart. -/
def mostDigits : Nat := 17

/-- The shortest decimal that reads back as `x`: the grids of one, two, … digits are tried in
turn. -/
def Binary.shortest (x : Binary) (tie : Tie) : Digits :=
  let top := x.leadingPower
  let found := (List.range mostDigits).findSome? fun n =>
    let k := top - (n + 1 : Nat)
    (x.onGrid? tie k).map fun d => Digits.stripped mostDigits d k
  found.getD ⟨x.floorAt (top - mostDigits), top - mostDigits⟩

end DocQuery.Decimal
