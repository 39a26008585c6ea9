import DocQuery.Config.OfTree
import DocQuery.Json.Basic

/-!
# Settings in JSON

Settings and sort keys as JSON values, in both directions. What is written holds every field, and
what is read may leave fields out.
-/

namespace DocQuery

namespace Config

mutual

/-- A JSON value as a settings document. All its numbers are representable. -/
def Tree.ofJson : Json → Tree
  | .null => .null
  | .bool _ => .plain true
  | .int _ => .plain true
  | .double _ => .plain true
  | .str s => .text s
  | .arr items => .list (Tree.ofItems items)
  | .obj entries => .table (Tree.ofEntries entries)

def Tree.ofItems : List Json → List Tree
  | [] => []
  | v :: rest => Tree.ofJson v :: Tree.ofItems rest

def Tree.ofEntries : List (String × Json) → List (String × Tree)
  | [] => []
  | (key, v) :: rest => (key, Tree.ofJson v) :: Tree.ofEntries rest

end

/-- Records by position have no extra items, and `null` stands under a word that is meant alone. -/
def jsonDialect : Dialect where
  refusesExtra := true
  isUnit
    | .null => true
    | _ => false

/-- The settings of a JSON value. -/
def ofJson? (v : Json) : Option Config :=
  ofTree? jsonDialect (Tree.ofJson v)

end Config

/-- The target of a sort key under the key that says what it is. -/
def SortTarget.toJson : SortTarget → Json
  | .field name => .obj [("field", .str name)]
  | .expression text => .obj [("expression", .str text)]

namespace SortKey

/-- A sort key with both its fields. -/
def toJson (key : SortKey) : Json :=
  .obj [("field", key.target.toJson), ("direction", .str key.direction.word)]

/-- A list of sort keys. -/
def listOfJson? (v : Json) : Option (List SortKey) :=
  (Config.Tree.ofJson v).list? (ofTree? Config.jsonDialect)

end SortKey

/-- The settings with all their fields. -/
def Config.toJson (config : Config) : Json :=
  .obj
    [("root_alias", .str config.rootAlias),
      ("count_alias", .str config.countAlias),
      ("find_sort", .arr (config.findSort.map SortKey.toJson)),
      ("search_sort", .arr (config.searchSort.map SortKey.toJson))]

end DocQuery
