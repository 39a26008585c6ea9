/-!
# Settings documents

A settings document is a tree of text, lists and tables, whatever format it is written in. Values
of other kinds never hold a setting. What the formats do not agree on is collected in `Dialect`.
-/

namespace DocQuery.Config

/-- The content of a settings document. -/
inductive Tree where
  | null
  /-- A number, truth value or date; `readable` says that it can be represented. -/
  | plain (readable : Bool)
  | text (s : String)
  | list (items : List Tree)
  | table (entries : List (String × Tree))
  deriving Inhabited, Repr

/-- What depends on the format of a document. -/
structure Dialect where
  /-- A record given by position may not have more items than the record has fields. -/
  refusesExtra : Bool
  /-- The value that stands under a word when the word alone is meant. -/
  isUnit : Tree → Bool

namespace Tree

/-- The value under a key. -/
def lookup (key : String) : List (String × Tree) → Option Tree
  | [] => none
  | (k, t) :: rest => if k = key then some t else lookup key rest

mutual

/-- All numbers and dates in the tree can be represented. -/
def isReadable : Tree → Bool
  | .null => true
  | .plain readable => readable
  | .text _ => true
  | .list items => areReadable items
  | .table entries => entriesReadable entries

def areReadable : List Tree → Bool
  | [] => true
  | t :: rest => t.isReadable && areReadable rest

def entriesReadable : List (String × Tree) → Bool
  | [] => true
  | (_, t) :: rest => t.isReadable && entriesReadable rest

end

/-- The fields of a record, in the order of their keys. A table may have other entries, which only
have to be readable. A list gives the fields by position. -/
def fields? (dialect : Dialect) (keys : List String) : Tree → Option (List (Option Tree))
  | .table entries =>
    if entries.all fun entry => keys.contains entry.1 || entry.2.isReadable then
      some (keys.map (lookup · entries))
    else none
  | .list items =>
    if dialect.refusesExtra && keys.length < items.length then none
    else some ((List.range keys.length).map (items[·]?))
  | _ => none

/-- A text. -/
def text? : Tree → Option String
  | .text s => some s
  | _ => none

/-- A list whose items are read by `read`. -/
def list? {α : Type} (read : Tree → Option α) : Tree → Option (List α)
  | .list items => items.mapM read
  | _ => none

/-- A field that has a default. A field that is there has to be right. -/
def orDefault {α : Type} (read : Tree → Option α) (default : α) : Option Tree → Option α
  | some t => read t
  | none => some default

end Tree

end DocQuery.Config
