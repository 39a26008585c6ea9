import DocQuery.Toml.Table
import DocQuery.Toml.Text
import DocQuery.Toml.Plain

/-!
# Reading TOML

A document is a sequence of statements, one a line: the header of a table, the repeated header of
one more table in a list, or a value under a key. `Statement.readAll?` reads them, and `read?`
builds the table that they describe. Values stand in one another to a depth of `deepest` at most,
and keys have that many dots at most.
-/

namespace DocQuery.Toml

/-- How deep lists and tables may stand in one another. -/
def deepest : Nat := 80

/-! ### Keys -/

/-- The characters of a key without quotation marks. -/
def isBareChar (c : Char) : Bool :=
  c.isAlphanum || c = '_' || c = '-'

/-- A key without dots, and the rest. -/
def simpleKey? (text : List Char) : Option (String × List Char) :=
  match text.takeWhile isBareChar with
  | [] => (lineText? text).map fun (key, rest) => (String.ofList key, rest)
  | bare => some (String.ofList bare, text.dropWhile isBareChar)

/-- A dotted key: the keys in front of the dots, the last key, and the rest. -/
def dottedKey? : (dots : Nat) → List Char → Option (List String × String × List Char)
  | 0, _ => none
  | dots + 1, text =>
    match simpleKey? (skipGap text) with
    | none => none
    | some (key, rest) =>
      match skipGap rest with
      | '.' :: rest =>
        (dottedKey? dots rest).map fun (path, last, rest) => (key :: path, last, rest)
      | rest => some ([], key, rest)

/-- A dotted key and the equals sign behind it, with what `skip` passes over on both sides of the
sign. -/
def keyEquals? (skip : List Char → List Char) (text : List Char) :
    Option (List String × String × List Char) :=
  match dottedKey? deepest text with
  | none => none
  | some (path, key, rest) =>
    match skip rest with
    | '=' :: rest => some (path, key, skip rest)
    | _ => none

/-! ### Values -/

mutual

/-- A value and the rest. `room` says how many lists and tables may still stand in one another,
and `steps` bounds the number of steps; any two steps take at least one character. -/
def value? : (steps room : Nat) → List Char → Option (Value × List Char)
  | 0, _, _ => none
  | steps + 1, room, text =>
    match text with
    | '"' :: _ => (text? text).map fun (s, rest) => (.text (String.ofList s), rest)
    | '\'' :: _ => (text? text).map fun (s, rest) => (.text (String.ofList s), rest)
    | '[' :: rest =>
      match room with
      | 0 => none
      | room + 1 =>
        (listItems? steps room (skipLines rest)).map fun (items, rest) =>
          (.list items, rest)
    | '\x7b' :: rest =>
      match room with
      | 0 => none
      | room + 1 =>
        (tableEntries? steps room [] (skipLines rest)).map fun (items, rest) =>
          (.table (Items.toEntries items), rest)
    | text => (scanPlain? text).map fun (ok, rest) => (.plain ok, rest)

/-- The items of a list up to its closing bracket. A comma may stand behind the last one. -/
def listItems? : (steps room : Nat) → List Char → Option (List Value × List Char)
  | 0, _, _ => none
  | steps + 1, room, text =>
    match text with
    | ']' :: rest => some ([], rest)
    | text =>
      match value? steps room text with
      | none => none
      | some (v, rest) =>
        match skipLines rest with
        | ',' :: rest =>
          (listItems? steps room (skipLines rest)).map fun (items, rest) =>
            (v :: items, rest)
        | ']' :: rest => some ([v], rest)
        | _ => none

/-- The entries of a table up to its closing brace, after those in `items`. A comma may stand
behind the last one. -/
def tableEntries? : (steps room : Nat) → Items → List Char → Option (Items × List Char)
  | 0, _, _, _ => none
  | steps + 1, room, items, text =>
    match text with
    | '\x7d' :: rest => some (items, rest)
    | text =>
      match keyEquals? skipLines text with
      | none => none
      | some (path, key, rest) =>
        match value? steps room rest with
        | none => none
        | some (v, rest) =>
          match items.assign v key path with
          | none => none
          | some items =>
            match skipLines rest with
            | ',' :: rest => tableEntries? steps room items (skipLines rest)
            | '\x7d' :: rest => some (items, rest)
            | _ => none

end

/-! ### Statements -/

/-- A line of a document. -/
inductive Statement where
  /-- The header of a table. -/
  | header (path : List String) (key : String)
  /-- A repeated header, for one more table in a list. -/
  | element (path : List String) (key : String)
  /-- A value in the table of the last header. -/
  | assign (path : List String) (key : String) (v : Value)
  deriving Repr

/-- A statement and the rest of its line. -/
def Statement.read? (text : List Char) : Option (Statement × List Char) :=
  match text with
  | '[' :: '[' :: rest =>
    match dottedKey? deepest rest with
    | some (path, key, ']' :: ']' :: rest) => some (.element path key, rest)
    | _ => none
  | '[' :: rest =>
    match dottedKey? deepest rest with
    | some (path, key, ']' :: rest) => some (.header path key, rest)
    | _ => none
  | text => do
    let (path, key, rest) ← keyEquals? skipGap text
    let (v, rest) ← value? (2 * rest.length + 2) deepest rest
    return (.assign path key v, rest)

/-- All statements of a document, each on a line of its own. -/
def Statement.readAll? : (steps : Nat) → List Char → Option (List Statement)
  | 0, _ => none
  | steps + 1, text =>
    match skipGap (skipLines text) with
    | [] => some []
    | text => do
      let (statement, rest) ← Statement.read? text
      let rest ← endLine? rest
      let statements ← readAll? steps rest
      return statement :: statements

/-- A document under construction: the root table, and the table that values go to. -/
structure Draft where
  root : Items := []
  current : List String := []

/-- Adds what a statement says. -/
def Draft.add? (draft : Draft) : Statement → Option Draft
  | .header path key =>
    (draft.root.inTable (·.define key) path).map fun root => ⟨root, path ++ [key]⟩
  | .element path key =>
    (draft.root.inTable (·.addElement key) path).map fun root => ⟨root, path ++ [key]⟩
  | .assign path key v =>
    (draft.root.inTable (·.assign v key path) draft.current).map fun root => { draft with root }

/-- The table that a text describes, if it is a TOML document. A byte order mark at its front is
passed over. -/
def read? (s : String) : Option Value := do
  let text := match s.toList with
    | '\ufeff' :: rest => rest
    | text => text
  let statements ← Statement.readAll? (text.length + 1) text
  let draft ← statements.foldlM Draft.add? {}
  return .table (Items.toEntries draft.root)

end DocQuery.Toml
