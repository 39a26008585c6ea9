import DocQuery.Config.Basic
import DocQuery.Config.Tree

/-!
# Settings in a document

Settings and sort keys are records. Each setting has a default; a sort key has to name its target
and is ascending unless it says otherwise.
-/

namespace DocQuery

open Config (Tree Dialect)

/-- The direction that a word spells. -/
def Direction.ofWord? (word : String) : Option Direction :=
  if word = "ASC" then some .asc
  else if word = "DESC" then some .desc
  else none

/-- A direction is a word, alone or as the only key of a table. -/
def Direction.ofTree? (dialect : Dialect) : Tree → Option Direction
  | .text word => ofWord? word
  | .table [(word, t)] => if dialect.isUnit t then ofWord? word else none
  | _ => none

/-- A target is a text under the key that says what it is. -/
def SortTarget.ofTree? : Tree → Option SortTarget
  | .table [(key, .text s)] =>
    if key = "field" then some (.field s)
    else if key = "expression" then some (.expression s)
    else none
  | _ => none

/-- A sort key is a record of its target and its direction. -/
def SortKey.ofTree? (dialect : Dialect) (t : Tree) : Option SortKey := do
  match ← t.fields? dialect ["field", "direction"] with
  | [target, direction] =>
    let target ← SortTarget.ofTree? (← target)
    let direction ← Tree.orDefault (Direction.ofTree? dialect) .asc direction
    return ⟨target, direction⟩
  | _ => none

/-- The settings of a document. -/
def Config.ofTree? (dialect : Dialect) (t : Tree) : Option Config := do
  match ← t.fields? dialect ["root_alias", "count_alias", "find_sort", "search_sort"] with
  | [root, count, find, search] =>
    let keys := Tree.list? (SortKey.ofTree? dialect)
    let defaults : Config := {}
    let rootAlias ← Tree.orDefault Tree.text? defaults.rootAlias root
    let countAlias ← Tree.orDefault Tree.text? defaults.countAlias count
    let findSort ← Tree.orDefault keys defaults.findSort find
    let searchSort ← Tree.orDefault keys defaults.searchSort search
    return { rootAlias, countAlias, findSort, searchSort }
  | _ => none

end DocQuery
