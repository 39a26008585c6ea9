/-!
# Sort keys and settings

Documents are ordered by a list of keys, the first one first. A key is a field of the document or
an expression of the query language, which is trusted and written as it is.

Settings are the words that a query uses for a document and for the number of documents, and the
orders that apply when a request names none.
-/

namespace DocQuery

/-- Whether small values come first or last. -/
inductive Direction where
  | asc
  | desc
  deriving DecidableEq, Inhabited, Repr

/-- The word in the query. -/
def Direction.word : Direction → String
  | .asc => "ASC"
  | .desc => "DESC"

/-- What documents are ordered by. -/
inductive SortTarget where
  | field (name : String)
  | expression (text : String)
  deriving DecidableEq, Inhabited, Repr

/-- One key of an order. -/
structure SortKey where
  target : SortTarget
  direction : Direction := .asc
  deriving DecidableEq, Inhabited, Repr

namespace SortKey

/-- Small values of a field first. -/
def asc (name : String) : SortKey :=
  ⟨.field name, .asc⟩

/-- Large values of a field first. -/
def desc (name : String) : SortKey :=
  ⟨.field name, .desc⟩

/-- The key in the query; fields belong to the document called `root`. -/
def text (root : String) (key : SortKey) : String :=
  match key.target with
  | .field name => root ++ "." ++ name ++ " " ++ key.direction.word
  | .expression text => text ++ " " ++ key.direction.word

/-- A list of keys in the query, separated by commas. -/
def listText (root : String) (keys : List SortKey) : String :=
  String.intercalate ", " (keys.map (·.text root))

end SortKey

/-- Settings of a collection; each has a default. -/
structure Config where
  /-- What a query calls a document. -/
  rootAlias : String := "i"
  /-- What a query calls the number of documents. -/
  countAlias : String := "n"
  /-- The order in which the first document is looked for. -/
  findSort : List SortKey := [.asc "_key"]
  /-- The order of the documents of a search. -/
  searchSort : List SortKey := [.asc "_rev"]
  deriving DecidableEq, Inhabited, Repr

end DocQuery
