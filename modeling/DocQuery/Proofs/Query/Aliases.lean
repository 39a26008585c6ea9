import DocQuery.Proofs.Query.Assembly

/-!
# Where a query names its documents

A template is a text with places for two aliases: what a query calls a document, and what it calls
the number of documents (`Template.fill`). The predicates and the order of a request are written
into templates that do not mention any alias by themselves (`Leaf.template`, `SortKey.template`),
and so are the clauses at both ends of a query.

The pieces of a query fill the pieces of a layout, which only depends on the request and on the
orders that apply without one (`Request.layouts`). So all places of a query name the same two
aliases, those of the settings (`Collection.map_text_assembly`).
-/

namespace DocQuery

open Text

/-! ### Templates -/

/-- A text, or a place for an alias. -/
inductive Chunk where
  | text (s : String)
  /-- What the query calls a document. -/
  | root
  /-- What the query calls the number of documents. -/
  | count

def Chunk.fill (root count : String) : Chunk → String
  | .text s => s
  | .root => root
  | .count => count

/-- A text with places for aliases. -/
abbrev Template := List Chunk

/-- The text with an alias in each place. -/
def Template.fill (root count : String) (t : Template) : String :=
  String.join (t.map (·.fill root count))

namespace Template

variable (root count : String)

theorem fill_nil : fill root count [] = "" := rfl

theorem fill_cons (chunk : Chunk) (t : Template) :
    fill root count (chunk :: t) = chunk.fill root count ++ fill root count t := by
  rw [fill, List.map_cons, String.join_cons]
  rfl

theorem fill_append (t u : Template) :
    fill root count (t ++ u) = fill root count t ++ fill root count u := by
  rw [fill, List.map_append, String.join_append]
  rfl

theorem fill_singleton (chunk : Chunk) : fill root count [chunk] = chunk.fill root count := by
  rw [fill_cons, fill_nil, String.append_empty]

/-- What stands between templates stands between their texts. -/
theorem fill_intercalate (s : String) (ts : List Template) :
    fill root count ([Chunk.text s].intercalate ts) = s.intercalate (ts.map (fill root count)) := by
  induction ts with
  | nil => rfl
  | cons t ts ih =>
    rcases ts with - | ⟨u, ts⟩
    · simp
    · rw [List.intercalate_cons_cons, fill_append, fill_append, ih, fill_singleton]
      simp only [List.map_cons, String.intercalate_cons_cons, Chunk.fill]

end Template

/-! ### Clauses of a request -/

/-- A path stands behind the document it begins at. -/
theorem pathText_eq_append (root : String) (path : List String) :
    pathText root path = root ++ pathText "" path := by
  have hfold (s t : String) : path.foldl fieldPath (s ++ t) = s ++ path.foldl fieldPath t := by
    induction path generalizing t with
    | nil => rfl
    | cons field path ih =>
      rw [List.foldl_cons, List.foldl_cons, ← ih]
      simp only [fieldPath, String.append_assoc]
  rw [pathText, pathText, ← hfold, String.append_empty]

/-- The predicate of a leaf. Each comparison has a place of its own. -/
def Leaf.template (leaf : Leaf) : Template :=
  [Chunk.text (" " ++ leaf.filter.mode.word ++ " ")].intercalate
    (leaf.filter.comparisons.map fun c => [.root, .text (c.text (pathText "" leaf.path))])

/-- The key of an order. An expression is written as it is, and only a field has a place. -/
def SortKey.template (key : SortKey) : Template :=
  match key.target with
  | .field name => [.root, .text ("." ++ name ++ " " ++ key.direction.word)]
  | .expression text => [.text (text ++ " " ++ key.direction.word)]

theorem Leaf.fill_template (root count : String) (leaf : Leaf) :
    leaf.template.fill root count = leaf.text root := by
  have hcomparison (c : Comparison) :
      Template.fill root count [.root, .text (c.text (pathText "" leaf.path))] =
        c.text (pathText root leaf.path) := by
    rw [Template.fill_cons, Template.fill_singleton, pathText_eq_append root]
    simp only [Chunk.fill, Comparison.text, String.append_assoc]
  rw [template, Template.fill_intercalate, List.map_map, text, Filter.text_eq]
  exact congrArg _ (List.map_congr_left fun c _ => hcomparison c)

theorem SortKey.fill_template (root count : String) (key : SortKey) :
    key.template.fill root count = key.text root := by
  rw [template, text]
  rcases key.target with name | text
  · simp only [Template.fill_cons, Template.fill_nil, Chunk.fill, String.append_empty,
      String.append_assoc]
  · exact Template.fill_singleton root count _

/-- The clauses that filter. -/
def filterTemplates (terms : Option Terms) : List Template :=
  ((terms.getD []).leaves.filter Leaf.isDefined).map fun leaf => .text "FILTER " :: leaf.template

/-- The clause that orders, if there is anything to order by. -/
def sortTemplates (keys : List SortKey) : List Template :=
  if keys = [] then []
  else [.text "SORT " :: [Chunk.text ", "].intercalate (keys.map SortKey.template)]

theorem filterPieces_eq_fill (root count : String) (terms : Option Terms) :
    filterPieces root terms = (filterTemplates terms).map (Template.fill root count) := by
  rw [filterPieces, Terms.predicates_eq_leaves, leafTexts, filterTemplates, List.map_map,
    List.map_map]
  refine List.map_congr_left fun leaf _ => ?_
  rw [Function.comp_apply, Function.comp_apply, Template.fill_cons, leaf.fill_template]
  rfl

theorem sortPieces_eq_fill (root count : String) (keys : List SortKey) :
    sortPieces root keys = (sortTemplates keys).map (Template.fill root count) := by
  rw [sortPieces, sortTemplates]
  split_ifs
  · rfl
  · rw [List.map_singleton, Template.fill_cons, Template.fill_intercalate, List.map_map]
    simp only [Function.comp_def, SortKey.fill_template]
    rfl

/-! ### Layouts -/

/-- A piece of a query before it is known what the query calls its documents. -/
inductive Piece where
  /-- A text without places. -/
  | fixed (text : String)
  /-- A clause, which is trimmed. -/
  | clause (t : Template)

def Piece.text (root count : String) : Piece → String
  | .fixed text => text
  | .clause t => trim (t.fill root count)

@[simp]
theorem Piece.text_fixed (root count text : String) :
    Piece.text root count (.fixed text) = text := rfl

@[simp]
theorem Piece.text_clause (root count : String) (t : Template) :
    Piece.text root count (.clause t) = trim (t.fill root count) := rfl

/-- The text of a query that is laid out in pieces, with the aliases in their places. -/
def layoutText (root count : String) (layout : List Piece) : String :=
  joined ((layout.map (·.text root count)).filter (· ≠ ""))

namespace Request

variable (r : Request)

/-- What all queries begin with. -/
def matchingLayout : List Piece :=
  [.clause [.text "FOR ", .root, .text " IN"], .fixed "@@value0",
    .fixed (slotText [] r.injection.beforeFilter)] ++ (filterTemplates r.terms).map .clause

def countLayout : List Piece :=
  [r.matchingLayout, [.fixed (slotText [r.injection.beforeFilter] r.injection.beforeLimit)],
    [.fixed (slotText [r.injection.beforeFilter, r.injection.beforeLimit] r.injection.after)],
    [.clause [.text "COLLECT WITH COUNT INTO ", .count, .text " RETURN ", .count]]].flatten

def fetchLayout (keys : List SortKey) (limit : List String) : List Piece :=
  let inject := r.injection
  [r.matchingLayout, [.fixed (slotText [inject.beforeFilter] inject.beforeSort)],
    (sortTemplates keys).map .clause,
    [.fixed (slotText [inject.beforeFilter, inject.beforeSort] inject.beforeLimit)],
    limit.map .fixed,
    [.fixed (slotText [inject.beforeFilter, inject.beforeSort, inject.beforeLimit] inject.after)],
    [.clause [.text "RETURN ", .root]]].flatten

/-- The layouts of the queries that a run may send, where these orders apply if the request has
none. -/
def layouts (findSort searchSort : List SortKey) : Purpose → List (List Piece)
  | .count => [r.countLayout]
  | .find => [r.fetchLayout (r.sort.getD findSort) ["LIMIT 1"]]
  | .search => (if r.limit.isSome then [r.countLayout] else []) ++
      [r.fetchLayout (r.sort.getD searchSort) (limitPieces r.limit)]

end Request

/-- Trimming does not touch solid clauses. -/
private theorem eq_map_text_clause {root count : String} {pieces : List String}
    {ts : List Template} (hfill : pieces = ts.map (Template.fill root count))
    (hsolid : ∀ t ∈ pieces, isSolid t.toList) :
    pieces = (ts.map Piece.clause).map (·.text root count) := by
  rw [hfill] at hsolid ⊢
  rw [List.map_map]
  exact List.map_congr_left fun t ht => (trim_of_isSolid (hsolid _ (List.mem_map_of_mem ht))).symm

namespace Collection

variable {α : Type} (c : Collection α) (r : Request)

private theorem matchingPieces_eq_layout (count : String) :
    c.matchingPieces r = r.matchingLayout.map (·.text c.config.rootAlias count) := by
  let root := c.config.rootAlias
  have hfor : Template.fill root count [.text "FOR ", .root, .text " IN"] = forClause root := by
    simp only [Template.fill_cons, Template.fill_nil, Chunk.fill, String.append_empty, forClause,
      String.append_assoc]
  have hfilters : filterPieces root r.terms =
      ((filterTemplates r.terms).map Piece.clause).map (·.text root count) :=
    eq_map_text_clause (filterPieces_eq_fill root count r.terms)
      (isSolid_of_mem_filterPieces root r.terms)
  rw [matchingPieces, Request.matchingLayout, List.map_append, ← hfilters]
  simp only [List.map_cons, List.map_nil, Piece.text_fixed, Piece.text_clause]
  rw [hfor, trim_of_isSolid (isSolid_forClause root)]
  rfl

private theorem countPieces_eq_layout :
    c.countPieces r = r.countLayout.map (·.text c.config.rootAlias c.config.countAlias) := by
  let count := c.config.countAlias
  have hend : Template.fill c.config.rootAlias count
      [.text "COLLECT WITH COUNT INTO ", .count, .text " RETURN ", .count] =
        "COLLECT WITH COUNT INTO " ++ count ++ " RETURN " ++ count := by
    simp only [Template.fill_cons, Template.fill_nil, Chunk.fill, String.append_empty,
      String.append_assoc]
  rw [countPieces, Request.countLayout, c.matchingPieces_eq_layout r count]
  simp only [List.flatten_cons, List.flatten_nil, List.map_append, List.map_cons, List.map_nil,
    Piece.text_fixed, Piece.text_clause, hend, count]

private theorem fetchPieces_eq_layout (keys : List SortKey) (limit : List String) :
    c.fetchPieces r keys limit =
      (r.fetchLayout keys limit).map (·.text c.config.rootAlias c.config.countAlias) := by
  let root := c.config.rootAlias
  let count := c.config.countAlias
  have hend : Template.fill root count [.text "RETURN ", .root] = "RETURN " ++ root := by
    rw [Template.fill_cons, Template.fill_singleton]
    rfl
  have hsort : sortPieces root keys =
      ((sortTemplates keys).map Piece.clause).map (·.text root count) :=
    eq_map_text_clause (sortPieces_eq_fill root count keys) (isSolid_of_mem_sortPieces root keys)
  have hlimit : (limit.map Piece.fixed).map (·.text root count) = limit := by
    rw [List.map_map]
    exact List.map_id limit
  rw [fetchPieces, Request.fetchLayout, c.matchingPieces_eq_layout r count, hsort]
  simp only [List.flatten_cons, List.flatten_nil, List.map_append, List.map_cons, List.map_nil,
    Piece.text_fixed, Piece.text_clause, hend, hlimit, root, count]

/-- **All places of a query name the same aliases.** The queries that a run may send have the texts
of layouts that mention no alias, with what the settings call a document, and the number of
documents, in all places. -/
theorem map_text_assembly (purpose : Purpose) :
    (c.assembly r purpose).map Query.text =
      (r.layouts c.config.findSort c.config.searchSort purpose).map
        (layoutText c.config.rootAlias c.config.countAlias) := by
  have hcount : (c.countAssembly r).text =
      layoutText c.config.rootAlias c.config.countAlias r.countLayout := by
    rw [layoutText, ← c.countPieces_eq_layout r]
    rfl
  have hfetch (keys : List SortKey) (limit : List String) : (c.fetchAssembly r keys limit).text =
      layoutText c.config.rootAlias c.config.countAlias (r.fetchLayout keys limit) := by
    rw [layoutText, ← c.fetchPieces_eq_layout r]
    rfl
  rcases purpose with - | - | -
  · rw [assembly, Request.layouts, List.map_singleton, List.map_singleton, hcount]
  · rw [assembly, Request.layouts, List.map_singleton, List.map_singleton, hfetch]
  · rw [assembly, Request.layouts]
    split_ifs
    · simp only [List.singleton_append, List.map_cons, List.map_nil, hcount, hfetch]
    · simp only [List.nil_append, List.map_cons, List.map_nil, hfetch]

end Collection

end DocQuery
