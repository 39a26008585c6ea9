import DocQuery.Decimal.Shortest

/-!
# How a decimal is written down

A format settles where positional writing ends, whether a whole number keeps a point, and what
stands for the values that are no numbers. `Layout` holds these decisions and `Layout.write`
carries them out.
-/

namespace DocQuery.Decimal

/-- The decisions of a number format. -/
structure Layout where
  /-- Which of two equally near decimals is written. -/
  tie : Tie
  /-- Whether a number is written without an exponent if its leading digit counts tens to this
  power. -/
  positional : Int → Bool
  /-- Whether a whole number in positional form ends in `.0`. -/
  pointZero : Bool
  notANumber : String
  infinity : String

/-- The decimal digits of a number, first to last. -/
def digitsOf (n : Nat) : List Char :=
  Nat.toDigits 10 n

/-- Positional form of the digits `ds`, the last of which counts tens to the power `k`. -/
def positional (pointZero : Bool) (ds : List Char) (k : Int) : List Char :=
  if 0 ≤ k then
    ds ++ List.replicate k.toNat '0' ++ if pointZero then ['.', '0'] else []
  else if (-k).toNat < ds.length then
    let whole := ds.length - (-k).toNat
    ds.take whole ++ '.' :: ds.drop whole
  else
    '0' :: '.' :: (List.replicate ((-k).toNat - ds.length) '0' ++ ds)

/-- Form with an exponent: one digit, the others behind a point, and the power of ten of the
first digit with its sign. -/
def scientific (ds : List Char) (power : Int) : List Char :=
  let fraction := match ds.drop 1 with
    | [] => []
    | rest => '.' :: rest
  ds.take 1 ++ fraction ++ 'e' :: (if power < 0 then '-' else '+') :: digitsOf power.natAbs

namespace Layout

variable (layout : Layout)

/-- A decimal without sign. -/
def magnitude (x : Digits) : List Char :=
  let ds := digitsOf x.digits
  let power := x.exponent + ds.length - 1
  if layout.positional power then Decimal.positional layout.pointZero ds x.exponent
  else scientific ds power

/-- The text of a float's value. -/
def ofValue : Value → List Char
  | .notANumber => layout.notANumber.toList
  | .infinite negative => sign negative ++ layout.infinity.toList
  | .zero negative => sign negative ++ layout.magnitude ⟨0, 0⟩
  | .finite negative x => sign negative ++ layout.magnitude (x.shortest layout.tie)
where
  sign (negative : Bool) : List Char := if negative then ['-'] else []

/-- The text of a float: the fewest digits that read back, laid out as the format says. -/
def write (x : Float) : String :=
  String.ofList (layout.ofValue (.ofFloat x))

end Layout

end DocQuery.Decimal
