import DocQuery.Collection.Basic
import DocQuery.Fragment.Basic
import DocQuery.Terms.Basic

/-!
# Requests and their queries

A request says what to look for in a collection, in which order, how much of it, and what else to
put into the query.

A query names the collection, filters its documents, and counts or returns them. Its clauses are
joined as fragments, so a clause that says nothing leaves no trace, and injected fragments keep
their values out of the text.
-/

namespace DocQuery

/-! ### Requests -/

/-- At most `count` documents are wanted, after `offset` documents have been passed over. -/
structure Limit where
  count : UInt64
  offset : Option UInt64 := none
  deriving DecidableEq, Inhabited, Repr

/-- The limit in the query: the offset, if there is one, comes first. -/
def Limit.text (limit : Limit) : String :=
  match limit.offset with
  | some offset => offset.toNat.repr ++ ", " ++ limit.count.toNat.repr
  | none => limit.count.toNat.repr

/-- Fragments that go into a query at fixed places. Their text is trusted. -/
structure Injection where
  beforeFilter : Option Fragment := none
  /-- Counting passes this one over. -/
  beforeSort : Option Fragment := none
  beforeLimit : Option Fragment := none
  after : Option Fragment := none
  deriving BEq, Inhabited, Repr

/-- What a run is asked for. Counting uses the terms and the fragments only, and looking for one
document has no use for the limit. -/
structure Request where
  terms : Option Terms := none
  /-- The order of the documents; without one the settings decide, and an empty one is none. -/
  sort : Option (List SortKey) := none
  limit : Option Limit := none
  inject : Option Injection := none
  deriving BEq, Inhabited, Repr

/-- What is injected. A request that says nothing about it leaves all places empty. -/
def Request.injection (r : Request) : Injection :=
  r.inject.getD {}

/-! ### Clauses -/

/-- The clause that names the documents of a collection. -/
def forClause (root : String) : String :=
  "FOR " ++ root ++ " IN"

/-- One clause for each predicate of the terms. -/
def filterClause (root : String) (terms : Option Terms) : String :=
  String.intercalate " " (((terms.getD []).predicates root).map ("FILTER " ++ ·))

/-- The clause that orders documents; without keys there is none. -/
def sortClause (root : String) : List SortKey → String
  | [] => ""
  | keys => "SORT " ++ SortKey.listText root keys

/-- The clause that limits the number of documents. -/
def limitClause : Option Limit → String
  | some limit => "LIMIT " ++ limit.text
  | none => ""

/-! ### Queries -/

namespace Collection

variable {α : Type} (c : Collection α) (r : Request)

/-- What all queries begin with: the documents of the collection that match the terms. -/
def matching : Fragment :=
  ((({} : Fragment).literal (forClause c.config.rootAlias)).collection c.name
    |>.appendOption r.injection.beforeFilter)
    |>.literal (filterClause c.config.rootAlias r.terms)

/-- The query for the number of matching documents. -/
def countQuery : Query :=
  (((c.matching r).appendOption r.injection.beforeLimit).appendOption r.injection.after
    |>.literal
      ("COLLECT WITH COUNT INTO " ++ c.config.countAlias ++ " RETURN " ++ c.config.countAlias))
    |>.query

/-- Leaving it to the query to fill in what is injected makes no difference. -/
@[simp]
theorem countQuery_some_injection :
    c.countQuery { r with inject := some r.injection } = c.countQuery r := rfl

/-- The query for matching documents in the order of `keys`, within the limit of a clause. -/
def fetchQuery (keys : List SortKey) (limit : String) : Query :=
  ((((c.matching r).appendOption r.injection.beforeSort).literal
      (sortClause c.config.rootAlias keys)).appendOption r.injection.beforeLimit
    |>.literal limit
    |>.appendOption r.injection.after
    |>.literal ("RETURN " ++ c.config.rootAlias))
    |>.query

/-- The query for the first matching document. -/
def findQuery : Query :=
  c.fetchQuery r (r.sort.getD c.config.findSort) "LIMIT 1"

/-- The query for the documents of a search. -/
def searchQuery : Query :=
  c.fetchQuery r (r.sort.getD c.config.searchSort) (limitClause r.limit)

end Collection

end DocQuery
