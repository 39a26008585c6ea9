import DocQuery.Decimal.Numeral
import DocQuery.Toml.Gap

/-!
# Text in TOML

Text stands between quotation marks or apostrophes, on one line or, with the mark written three
times, on several. Escapes exist between quotation marks only. Each reader gets the characters
behind the opening mark and gives the text and what follows the closing mark.
-/

namespace DocQuery.Toml

open Decimal

/-- A text and what follows it. -/
abbrev Scanned := Option (List Char × List Char)

/-- The character with this code point in hexadecimal digits. -/
def scalarValue? (digits : List Char) : Option Char :=
  if digits.all isHexDigit then
    let n := natOfDigits 16 digits
    if n.isValidChar then some (Char.ofNat n) else none
  else none

/-- The escapes that are one letter long. -/
def escape? : Char → Option Char
  | 'b' => some '\x08'
  | 't' => some '\t'
  | 'n' => some '\n'
  | 'f' => some '\x0c'
  | 'r' => some '\r'
  | 'e' => some '\x1b'
  | '"' => some '"'
  | '\\' => some '\\'
  | _ => none

/-- One more character in front of a text. -/
def Scanned.cons? (c : Option Char) (rest : Scanned) : Scanned :=
  match c, rest with
  | some c, some (text, rest) => some (c :: text, rest)
  | _, _ => none

/-- Text between quotation marks on one line. -/
def basicText : List Char → Scanned
  | [] => none
  | '"' :: rest => some ([], rest)
  | '\\' :: 'x' :: a :: b :: rest => .cons? (scalarValue? [a, b]) (basicText rest)
  | '\\' :: 'u' :: a :: b :: c :: d :: rest =>
    .cons? (scalarValue? [a, b, c, d]) (basicText rest)
  | '\\' :: 'U' :: a :: b :: c :: d :: e :: f :: g :: h :: rest =>
    .cons? (scalarValue? [a, b, c, d, e, f, g, h]) (basicText rest)
  | '\\' :: c :: rest => .cons? (escape? c) (basicText rest)
  | c :: rest => if isPrintable c then .cons? (some c) (basicText rest) else none

/-- Text between apostrophes on one line. -/
def literalText : List Char → Scanned
  | [] => none
  | '\'' :: rest => some ([], rest)
  | c :: rest => if isPrintable c then .cons? (some c) (literalText rest) else none

/-- Where a reader of text on several lines stands. -/
inductive Place where
  | inText
  /-- Behind a backslash that hides a line end: only blanks may come before the line end. -/
  | beforeLineEnd
  /-- Behind the hidden line end: blanks and further line ends are passed over. -/
  | behindLineEnd
  deriving DecidableEq

/-- Text between triple quotation marks. One or two further marks directly before the closing ones
belong to the text. -/
def basicLines : Place → List Char → Scanned
  | _, [] => none
  | .beforeLineEnd, '\n' :: rest => basicLines .behindLineEnd rest
  | .beforeLineEnd, '\r' :: '\n' :: rest => basicLines .behindLineEnd rest
  | .beforeLineEnd, c :: rest =>
    if c = ' ' || c = '\t' then basicLines .beforeLineEnd rest else none
  | .behindLineEnd, '\n' :: rest => basicLines .behindLineEnd rest
  | .behindLineEnd, '\r' :: '\n' :: rest => basicLines .behindLineEnd rest
  | .behindLineEnd, ' ' :: rest => basicLines .behindLineEnd rest
  | .behindLineEnd, '\t' :: rest => basicLines .behindLineEnd rest
  | _, '"' :: '"' :: '"' :: '"' :: '"' :: rest => some (['"', '"'], rest)
  | _, '"' :: '"' :: '"' :: '"' :: rest => some (['"'], rest)
  | _, '"' :: '"' :: '"' :: rest => some ([], rest)
  | _, '\\' :: 'x' :: a :: b :: rest => .cons? (scalarValue? [a, b]) (basicLines .inText rest)
  | _, '\\' :: 'u' :: a :: b :: c :: d :: rest =>
    .cons? (scalarValue? [a, b, c, d]) (basicLines .inText rest)
  | _, '\\' :: 'U' :: a :: b :: c :: d :: e :: f :: g :: h :: rest =>
    .cons? (scalarValue? [a, b, c, d, e, f, g, h]) (basicLines .inText rest)
  | _, '\\' :: ' ' :: rest => basicLines .beforeLineEnd rest
  | _, '\\' :: '\t' :: rest => basicLines .beforeLineEnd rest
  | _, '\\' :: '\n' :: rest => basicLines .behindLineEnd rest
  | _, '\\' :: '\r' :: '\n' :: rest => basicLines .behindLineEnd rest
  | _, '\\' :: c :: rest => .cons? (escape? c) (basicLines .inText rest)
  | _, '\n' :: rest => .cons? (some '\n') (basicLines .inText rest)
  | _, '\r' :: '\n' :: rest => .cons? (some '\r') (.cons? (some '\n') (basicLines .inText rest))
  | _, c :: rest => if isPrintable c then .cons? (some c) (basicLines .inText rest) else none

/-- Text between triple apostrophes. One or two further ones directly before the closing ones
belong to the text. -/
def literalLines : List Char → Scanned
  | [] => none
  | '\'' :: '\'' :: '\'' :: '\'' :: '\'' :: rest => some (['\'', '\''], rest)
  | '\'' :: '\'' :: '\'' :: '\'' :: rest => some (['\''], rest)
  | '\'' :: '\'' :: '\'' :: rest => some ([], rest)
  | '\n' :: rest => .cons? (some '\n') (literalLines rest)
  | '\r' :: '\n' :: rest => .cons? (some '\r') (.cons? (some '\n') (literalLines rest))
  | c :: rest => if isPrintable c then .cons? (some c) (literalLines rest) else none

/-- A line end directly behind the opening marks is no part of the text. -/
def dropLineEnd (text : List Char) : List Char :=
  (lineEnd? text).getD text

/-- A text on one line, as keys are written. -/
def lineText? : List Char → Scanned
  | '"' :: rest => basicText rest
  | '\'' :: rest => literalText rest
  | _ => none

/-- A text of any of the four forms. -/
def text? : List Char → Scanned
  | '"' :: '"' :: '"' :: rest => basicLines .inText (dropLineEnd rest)
  | '\'' :: '\'' :: '\'' :: rest => literalLines (dropLineEnd rest)
  | rest => lineText? rest

end DocQuery.Toml
