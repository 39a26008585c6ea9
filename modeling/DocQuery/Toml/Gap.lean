/-!
# Blanks, comments and line ends in TOML

What stands between the parts of a document. Inside a line only blanks do; in lists and tables
comments and line ends may, too. Each reader gives what follows.
-/

namespace DocQuery.Toml

/-- A blank inside a line. -/
def isGap (c : Char) : Bool :=
  c = ' ' || c = '\t'

/-- Passes over blanks. -/
def skipGap (text : List Char) : List Char :=
  text.dropWhile isGap

/-- The character may stand in text and comments: tabs may, and other control characters may not. -/
def isPrintable (c : Char) : Bool :=
  c = '\t' || (0x20 ≤ c.toNat && c.toNat != 0x7f)

/-- A line end at the front of the text, and the rest. A carriage return counts only with the line
feed behind it. -/
def lineEnd? : List Char → Option (List Char)
  | '\n' :: rest => some rest
  | '\r' :: '\n' :: rest => some rest
  | _ => none

/-- The rest of a line behind a comment, if there is one. -/
def skipComment : List Char → List Char
  | '#' :: rest => rest.dropWhile isPrintable
  | rest => rest

/-- The lines behind a statement, which ends where its line ends. -/
def endLine? (text : List Char) : Option (List Char) :=
  match skipComment (skipGap text) with
  | [] => some []
  | rest => lineEnd? rest

/-- Passes over this many lines at most that hold nothing but blanks and comments. -/
def skipBlankLines : (rounds : Nat) → List Char → List Char
  | 0, text => text
  | rounds + 1, text =>
    let text := skipComment (skipGap text)
    match lineEnd? text with
    | some rest => skipBlankLines rounds rest
    | none => text

/-- Passes over blanks, comments and line ends. Each line takes at least one character, so that as
many rounds as there are characters are enough. -/
def skipLines (text : List Char) : List Char :=
  skipBlankLines text.length text

end DocQuery.Toml
