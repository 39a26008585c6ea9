import DocQuery.Json.Basic
import DocQuery.Decimal.Layout

/-!
# JSON text

Values are written without blanks and with their entries in order. Strings escape the quotation
mark, the backslash and the control characters below the blank; all else stands for itself.
Doubles have the fewest digits that read back, positionally from `1e-5` up to `1e16`.
-/

namespace DocQuery.Json

open Decimal

/-- Doubles always show a point or an exponent, so that they never read as whole numbers. -/
def doubleLayout : Layout where
  tie := .even
  positional power := -5 ≤ power && power < 16
  pointZero := true
  notANumber := "null"
  infinity := "null"

/-- A hexadecimal digit, in lower case. -/
def hexDigit (n : Nat) : Char :=
  Nat.digitChar (n % 16)

/-- A character inside quotation marks. -/
def escapeChar (c : Char) : List Char :=
  if c = '"' then ['\\', '"']
  else if c = '\\' then ['\\', '\\']
  else if 0x20 ≤ c.toNat then [c]
  else
    match c.toNat with
    | 0x08 => ['\\', 'b']
    | 0x09 => ['\\', 't']
    | 0x0a => ['\\', 'n']
    | 0x0c => ['\\', 'f']
    | 0x0d => ['\\', 'r']
    | n => ['\\', 'u', '0', '0', hexDigit (n / 16), hexDigit n]

/-- A string in quotation marks. -/
def quote (s : String) : String :=
  String.ofList ('"' :: (s.toList.flatMap escapeChar ++ ['"']))

mutual

/-- The text of a value. -/
def text : Json → String
  | .null => "null"
  | .bool b => if b then "true" else "false"
  | .int n => n.repr
  | .double x => doubleLayout.write x
  | .str s => quote s
  | .arr items => "[" ++ String.intercalate "," (itemTexts items) ++ "]"
  | .obj entries => "\x7b" ++ String.intercalate "," (entryTexts entries) ++ "\x7d"

def itemTexts : List Json → List String
  | [] => []
  | item :: rest => text item :: itemTexts rest

def entryTexts : List (String × Json) → List String
  | [] => []
  | (key, value) :: rest => (quote key ++ ":" ++ text value) :: entryTexts rest

end

end DocQuery.Json
