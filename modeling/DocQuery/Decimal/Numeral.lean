/-!
# Reading decimals

A `Numeral` is what the characters of a decimal say: a sign, digits and a power of ten.
`Numeral.toFloat` gives the float nearest to it, of two equally near the one with the even
mantissa. The formats that contain numbers differ in what they accept, so each has its own
grammar; they meet in `Numeral.ofParts`.
-/

namespace DocQuery.Decimal

/-- The number `± digits · 10 ^ power`. -/
structure Numeral where
  negative : Bool
  digits : Nat
  power : Int
  deriving Repr, DecidableEq

/-- The character is a digit in base sixteen, in either case. -/
def isHexDigit (c : Char) : Bool :=
  c.isDigit || ('a' ≤ c && c ≤ 'f') || ('A' ≤ c && c ≤ 'F')

/-- The value of a digit in a base up to sixteen. -/
def digitValue (c : Char) : Nat :=
  if c.isDigit then c.toNat - '0'.toNat
  else if c.isLower then c.toNat - 'a'.toNat + 10
  else c.toNat - 'A'.toNat + 10

/-- The number that digits stand for in the given base, first digit highest. -/
def natOfDigits (base : Nat) (ds : List Char) : Nat :=
  ds.foldl (fun n c => base * n + digitValue c) 0

namespace Numeral

/-- The numeral with the digits `whole` before the point, `fraction` behind it, and a power of
ten to multiply with. -/
def ofParts (negative : Bool) (whole fraction : List Char) (power : Int) : Numeral :=
  ⟨negative, natOfDigits 10 (whole ++ fraction), power - fraction.length⟩

/-- The nearest float. Numbers beyond every float become infinite, and numbers below half of the
least positive float become zero; both keep their sign. Powers far outside the range of floats
are settled before anything is multiplied out. -/
def toFloat (x : Numeral) : Float :=
  let top := x.power + (x.digits.log2 : Int) * 30103 / 100000
  let magnitude : Float :=
    if x.digits = 0 || top < -400 then 0
    else if 400 < top then 1 / 0
    else Float.ofScientific x.digits (x.power < 0) x.power.natAbs
  if x.negative then -magnitude else magnitude

end Numeral

/-- A sign in front of the text, if there is one, and the rest. Only a minus sign is negative. -/
def splitSign : List Char → Bool × List Char
  | '-' :: rest => (true, rest)
  | '+' :: rest => (false, rest)
  | text => (false, text)

/-- The power of ten behind an exponent mark. -/
def readPower? (text : List Char) : Option Int :=
  let (negative, digits) := splitSign text
  if digits.isEmpty || !digits.all Char.isDigit then none
  else
    let n : Int := natOfDigits 10 digits
    some (if negative then -n else n)

/-- A free-standing number: an optional sign and then `inf`, `infinity`, `nan` in any case, or
digits around an optional point with an optional power of ten. -/
def readFloat? (text : List Char) : Option Float :=
  let (negative, body) := splitSign text
  let signed (x : Float) : Float := if negative then -x else x
  match String.ofList (body.map Char.toLower) with
  | "inf" | "infinity" => some (signed (1 / 0))
  | "nan" => some (0 / 0)
  | _ =>
    let whole := body.takeWhile Char.isDigit
    let (fraction, rest) := match body.dropWhile Char.isDigit with
      | '.' :: rest => (rest.takeWhile Char.isDigit, rest.dropWhile Char.isDigit)
      | rest => ([], rest)
    let power := match rest with
      | [] => some 0
      | mark :: rest => if mark = 'e' || mark = 'E' then readPower? rest else none
    if whole.isEmpty && fraction.isEmpty then none
    else power.map fun p => (Numeral.ofParts negative whole fraction p).toFloat

end DocQuery.Decimal
