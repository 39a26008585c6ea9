import DocQuery.Decimal.Numeral
import DocQuery.Toml.Gap

/-!
# Numbers, truth values and dates in TOML

These values are written without quotation marks. `plain?` says of a run of characters whether it
has the form of such a value, and if so, whether it can be represented. The form of a whole number
is loose: of its characters only those beside an underscore have to be digits, and in another base
than ten there may be none. A number that misses digits is a value that cannot be represented.
-/

namespace DocQuery.Toml

open Decimal

/-! ### Numbers -/

/-- The digits of a number without the underscores between them. There has to be a digit on both
sides of each underscore. -/
def digits? (isDigit : Char → Bool) : List Char → Option (List Char)
  | [] => none
  | [c] => if isDigit c then some [c] else none
  | c :: '_' :: rest =>
    if isDigit c then (digits? isDigit rest).map (c :: ·) else none
  | c :: rest => if isDigit c then (digits? isDigit rest).map (c :: ·) else none

/-- Digits in base ten of a number that is not padded with zeros. -/
def decimalDigits? (text : List Char) : Option (List Char) :=
  match digits? Char.isDigit text with
  | some ('0' :: _ :: _) => none
  | digits => digits

/-- There is a digit in base sixteen on both sides of each underscore. -/
def isGrouped : List Char → Bool
  | [] => true
  | c :: '_' :: rest => isHexDigit c && rest.head?.any isHexDigit && isGrouped rest
  | c :: rest => c != '_' && isGrouped rest

/-- The whole number fits 128 bits, with sign if it is negative and without sign if not. -/
def fits (negative : Bool) (magnitude : Nat) : Bool :=
  if negative then magnitude ≤ 0x80000000000000000000000000000000
  else magnitude < 0x100000000000000000000000000000000

/-- The digits of a whole number in the given base, of which there may be none. -/
def basedDigits? (base : Nat) (isDigit : Char → Bool) : List Char → Option Bool
  | [] => some false
  | text => (digits? isDigit text).map fun ds => fits false (natOfDigits base ds)

/-- A whole number in base sixteen, eight or two, which takes no sign. -/
def based? : List Char → Option Bool
  | '0' :: 'x' :: rest => basedDigits? 16 isHexDigit rest
  | '0' :: 'o' :: rest => basedDigits? 8 (fun c => '0' ≤ c && c ≤ '7') rest
  | '0' :: 'b' :: rest => basedDigits? 2 (fun c => c = '0' || c = '1') rest
  | _ => none

/-- The text has the form of a whole number in groups: digits that do not begin with zero, an
underscore, and whatever else keeps the form, blanks excepted. -/
def isLoose (text : List Char) : Bool :=
  isGrouped text && !text.contains ' ' && text.head? != some '0' &&
    (text.dropWhile Char.isDigit).head? == some '_'

/-- A whole number in base ten behind its sign. -/
def whole? (negative : Bool) (text : List Char) : Option Bool :=
  match decimalDigits? text with
  | some ds => some (fits negative (natOfDigits 10 ds))
  | none => if isLoose text then some false else none

/-- The mark of a power of ten. -/
def isPowerMark (c : Char) : Bool :=
  c = 'e' || c = 'E'

/-- The power of ten behind its mark. It may be padded with zeros. -/
def power? (text : List Char) : Option Int :=
  let (negative, body) := splitSign text
  (digits? Char.isDigit body).map fun ds =>
    let n : Int := natOfDigits 10 ds
    if negative then -n else n

/-- A number with a point or a power of ten behind its sign. It is representable if it is not
rounded to an infinite one. -/
def float? (negative : Bool) (text : List Char) : Option Bool := do
  let mantissa := text.takeWhile fun c => !isPowerMark c
  let whole ← decimalDigits? (mantissa.takeWhile (· != '.'))
  let fraction ← match mantissa.dropWhile (· != '.') with
    | [] => some []
    | _ :: rest => digits? Char.isDigit rest
  let power ← match text.dropWhile fun c => !isPowerMark c with
    | [] => some 0
    | _ :: rest => power? rest
  return (Numeral.ofParts negative whole fraction power).toFloat.isFinite

/-- A number in base ten behind its sign. -/
def decimal? (negative : Bool) (text : List Char) : Option Bool :=
  if text.any fun c => c = '.' || isPowerMark c then float? negative text
  else whole? negative text

/-- A number. -/
def number? (text : List Char) : Option Bool :=
  let (negative, body) := splitSign text
  if body = ['i', 'n', 'f'] || body = ['n', 'a', 'n'] then some true
  else (based? text).orElse fun _ => decimal? negative body

/-! ### Dates and times -/

/-- Two digits as a number. -/
def pair? (a b : Char) : Option Nat :=
  if a.isDigit && b.isDigit then some (natOfDigits 10 [a, b]) else none

/-- The number of days in a month. -/
def daysIn (year month : Nat) : Nat :=
  let isLeap := year % 4 = 0 && (year % 100 != 0 || year % 400 = 0)
  if month = 2 then if isLeap then 29 else 28
  else if month = 4 || month = 6 || month = 9 || month = 11 then 30
  else 31

/-- A day of the calendar, at the front of the text, and the rest. -/
def date? : List Char → Option (List Char)
  | y₁ :: y₂ :: y₃ :: y₄ :: '-' :: m₁ :: m₂ :: '-' :: d₁ :: d₂ :: rest => do
    let century ← pair? y₁ y₂
    let year := 100 * century + (← pair? y₃ y₄)
    let month ← pair? m₁ m₂
    let day ← pair? d₁ d₂
    let inCalendar := 1 ≤ month && month ≤ 12 && 1 ≤ day && day ≤ daysIn year month
    if inCalendar then some rest else none
  | _ => none

/-- Hours and minutes at the front of the text, and the rest. -/
def hourMinute? : List Char → Option (List Char)
  | h₁ :: h₂ :: ':' :: m₁ :: m₂ :: rest => do
    let hour ← pair? h₁ h₂
    let minute ← pair? m₁ m₂
    if hour ≤ 23 && minute ≤ 59 then some rest else none
  | _ => none

/-- A time of day at the front of the text, and the rest. Seconds may be left out, and only behind
seconds there may be a fraction. -/
def time? (text : List Char) : Option (List Char) := do
  match ← hourMinute? text with
  | ':' :: s₁ :: s₂ :: rest =>
    let second ← pair? s₁ s₂
    if 60 < second then none
    else
      match rest with
      | '.' :: rest =>
        if (rest.takeWhile Char.isDigit).isEmpty then none
        else some (rest.dropWhile Char.isDigit)
      | rest => some rest
  | ':' :: _ => none
  | rest => some rest

/-- The text is the distance from universal time, or empty. -/
def isOffset : List Char → Bool
  | [] => true
  | ['Z'] => true
  | ['z'] => true
  | '+' :: rest => hourMinute? rest == some []
  | '-' :: rest => hourMinute? rest == some []
  | _ => false

/-- The text is a day, a time of day, or both with or without an offset. -/
def isDateTime (text : List Char) : Bool :=
  match date? text with
  | some [] => true
  | some (mark :: rest) =>
    (mark = 'T' || mark = 't' || mark = ' ') &&
      match time? rest with
      | some rest => isOffset rest
      | none => false
  | none => time? text == some []

/-! ### All of them -/

/-- Whether a run of characters is a value without quotation marks, and if so, whether it can be
represented. -/
def plain? (text : List Char) : Option Bool :=
  if text = ['t', 'r', 'u', 'e'] || text = ['f', 'a', 'l', 's', 'e'] then some true
  else if isDateTime text then some true
  else number? text

/-- The character may stand inside a run of characters without quotation marks. -/
def isRunChar (c : Char) : Bool :=
  let stops := ['.', '=', ',', '[', ']', '\x7b', '\x7d', '#', '\r', '\n']
  !stops.contains c && !isGap c

/-- The character may begin such a run. Quotation marks and apostrophes begin a text, but inside a
run they are like other characters. -/
def isRunStart (c : Char) : Bool :=
  isRunChar c && c != '"' && c != '\''

/-- The longest value without quotation marks at the front of the text, and the rest: runs of
characters with points between them, and with blanks between them where the next run does not
begin with a point. -/
def splitPlain : (inRun : Bool) → List Char → List Char × List Char
  | _, [] => ([], [])
  | inRun, c :: rest =>
    let continues (inRun : Bool) : List Char × List Char :=
      let (value, rest) := splitPlain inRun rest
      (c :: value, rest)
    if (if inRun then isRunChar c else isRunStart c) then continues true
    else if c = '.' then continues false
    else if isGap c && (skipGap rest).head?.any isRunStart then continues false
    else ([], c :: rest)

/-- A value without quotation marks at the front of the text, and the rest. -/
def scanPlain? (text : List Char) : Option (Bool × List Char) :=
  let (value, rest) := splitPlain false text
  (plain? value).map fun ok => (ok, rest)

end DocQuery.Toml
