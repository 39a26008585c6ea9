import DocQuery.Json.Basic
import DocQuery.Decimal.Numeral

/-!
# Reading JSON text

`Json.read?` reads one value that fills the whole text. A number without point and exponent is a
whole number if it lies between `-2^63` and `2^64 - 1`; any other number is a double, and so is
`-0`. Entries keep their order.
-/

namespace DocQuery.Json

open Decimal

/-- The blanks that may stand between tokens. -/
def isGap (c : Char) : Bool :=
  c = ' ' || c = '\t' || c = '\n' || c = '\r'

def skipGap (text : List Char) : List Char :=
  text.dropWhile isGap

/-- The characters that may stand in a number. -/
def isNumeric (c : Char) : Bool :=
  c.isDigit || c = '-' || c = '+' || c = '.' || c = 'e' || c = 'E'

/-- The whole number of these digits if it fits 64 bits with or without a sign, else the nearest
double. -/
def ofDigits (negative : Bool) (ds : List Char) : Json :=
  let n := natOfDigits 10 ds
  if negative then
    if n = 0 || 0x8000000000000000 < n then .double (Numeral.ofParts true ds [] 0).toFloat
    else .int (-n)
  else if n < 0x10000000000000000 then .int n
  else .double (Numeral.ofParts false ds [] 0).toFloat

/-- A number from its characters: no plus sign in front, no zero in front of other digits, and
digits on both sides of a point. -/
def readNumber? (chars : List Char) : Option Json :=
  let (negative, body) := match chars with
    | '-' :: rest => (true, rest)
    | rest => (false, rest)
  let whole := body.takeWhile Char.isDigit
  let wellFormed := match whole with
    | [] => false
    | '0' :: _ :: _ => false
    | _ => true
  if !wellFormed then none
  else
    let double (fraction : List Char) (power : Int) : Option Json :=
      some (.double (Numeral.ofParts negative whole fraction power).toFloat)
    let power? : List Char → Option Int
      | [] => some 0
      | mark :: rest => if mark = 'e' || mark = 'E' then readPower? rest else none
    match body.dropWhile Char.isDigit with
    | [] => some (ofDigits negative whole)
    | '.' :: rest =>
      let fraction := rest.takeWhile Char.isDigit
      if fraction.isEmpty then none
      else (power? (rest.dropWhile Char.isDigit)).bind (double fraction)
    | rest => (power? rest).bind (double [])

/-- The number that four hexadecimal digits stand for. -/
def readUnit? (a b c d : Char) : Option Nat :=
  if [a, b, c, d].all isHexDigit then some (natOfDigits 16 [a, b, c, d]) else none

/-- The rest of a string behind its opening quotation mark: its characters and what follows the
closing mark. Two escaped surrogates make one character. -/
def readString? : List Char → Option (List Char × List Char)
  | [] => none
  | '"' :: rest => some ([], rest)
  | '\\' :: 'u' :: a :: b :: c :: d :: rest =>
    match readUnit? a b c d with
    | none => none
    | some n =>
      if 0xd800 ≤ n && n < 0xdc00 then
        match rest with
        | '\\' :: 'u' :: a' :: b' :: c' :: d' :: rest' =>
          match readUnit? a' b' c' d' with
          | none => none
          | some m =>
            if 0xdc00 ≤ m && m < 0xe000 then
              (readString? rest').map fun (s, r) =>
                (Char.ofNat (0x10000 + (n - 0xd800) * 0x400 + (m - 0xdc00)) :: s, r)
            else none
        | _ => none
      else if 0xdc00 ≤ n && n < 0xe000 then none
      else (readString? rest).map fun (s, r) => (Char.ofNat n :: s, r)
  | '\\' :: c :: rest =>
    let plain? : Option Char := match c with
      | '"' => some '"'
      | '\\' => some '\\'
      | '/' => some '/'
      | 'b' => some '\x08'
      | 'f' => some '\x0c'
      | 'n' => some '\n'
      | 'r' => some '\r'
      | 't' => some '\t'
      | _ => none
    match plain? with
    | none => none
    | some p => (readString? rest).map fun (s, r) => (p :: s, r)
  | c :: rest =>
    if c.toNat < 0x20 then none else (readString? rest).map fun (s, r) => (c :: s, r)

mutual

/-- One value and what follows it. The first argument bounds the number of steps; any two steps
take at least one character, so twice the length of the text is enough. -/
def readValue? : Nat → List Char → Option (Json × List Char)
  | 0, _ => none
  | steps + 1, text =>
    match skipGap text with
    | 'n' :: 'u' :: 'l' :: 'l' :: rest => some (.null, rest)
    | 't' :: 'r' :: 'u' :: 'e' :: rest => some (.bool true, rest)
    | 'f' :: 'a' :: 'l' :: 's' :: 'e' :: rest => some (.bool false, rest)
    | '"' :: rest => (readString? rest).map fun (s, r) => (.str (String.ofList s), r)
    | '[' :: rest =>
      match skipGap rest with
      | ']' :: rest => some (.arr [], rest)
      | rest => (readItems? steps rest).map fun (items, r) => (.arr items, r)
    | '\x7b' :: rest =>
      match skipGap rest with
      | '\x7d' :: rest => some (.obj [], rest)
      | rest => (readEntries? steps rest).map fun (entries, r) => (.obj entries, r)
    | text =>
      (readNumber? (text.takeWhile isNumeric)).map fun n => (n, text.dropWhile isNumeric)

/-- The items of a list up to its closing bracket. -/
def readItems? : Nat → List Char → Option (List Json × List Char)
  | 0, _ => none
  | steps + 1, text =>
    match readValue? steps text with
    | none => none
    | some (item, rest) =>
      match skipGap rest with
      | ',' :: rest => (readItems? steps rest).map fun (items, r) => (item :: items, r)
      | ']' :: rest => some ([item], rest)
      | _ => none

/-- The entries of an object up to its closing brace. -/
def readEntries? : Nat → List Char → Option (List (String × Json) × List Char)
  | 0, _ => none
  | steps + 1, text =>
    match skipGap text with
    | '"' :: rest =>
      match readString? rest with
      | none => none
      | some (key, rest) =>
        match skipGap rest with
        | ':' :: rest =>
          match readValue? steps rest with
          | none => none
          | some (value, rest) =>
            let entry := (String.ofList key, value)
            match skipGap rest with
            | ',' :: rest =>
              (readEntries? steps rest).map fun (entries, r) => (entry :: entries, r)
            | '\x7d' :: rest => some ([entry], rest)
            | _ => none
        | _ => none
    | _ => none

end

/-- The value that a text spells, if it spells one. -/
def read? (s : String) : Option Json :=
  match readValue? (2 * s.length + 2) s.toList with
  | some (value, rest) => if (skipGap rest).isEmpty then some value else none
  | none => none

end DocQuery.Json
