import DocQuery.Proofs.Fragment.Variables
import DocQuery.Proofs.Query.SearchText
import DocQuery.Proofs.Run.Plan

/-!
# The pieces of a query

A query is assembled from pieces: clauses that the request fills in, and injected fragments.
`Collection.countPieces` and `Collection.fetchPieces` list them in order, as texts, some of which
may be empty. The query joins those that are not by single blanks, and binds the name of the
collection and what the fragments bind, numbered through from one fragment to the next
(`Query.ofPieces`, `bindVarsOf`).

Building a query adds one piece at a time, and each step keeps what is there: the words so far join
like the pieces so far (`Fragment.Assembles`). Trimming does not touch what a request fills in,
because a predicate and a key to order by end in a solid text, whatever their field is called
(`Terms.endsSolid_of_mem_predicates`, `SortKey.endsSolid_text`).

`Collection.answer_run_assembled` puts this together for all runs: what they send is assembled.
-/

namespace DocQuery

open Text

/-! ### Clauses that trimming leaves alone -/

theorem Comparison.endsSolid_text (param : String) (c : Comparison) : EndsSolid (c.text param) :=
  endsSolid_append _ c.operand.isSolid_text

/-- A predicate ends in an operand. -/
theorem Terms.endsSolid_of_mem_predicates {parent : String} {terms : Terms} {p : String}
    (h : p ∈ terms.predicates parent) : EndsSolid p := by
  rw [predicates_eq_leaves, leafTexts] at h
  obtain ⟨leaf, hleaf, rfl⟩ := List.mem_map.mp h
  have hdefined : leaf.filter.comparisons ≠ [] := by
    simpa [Leaf.isDefined] using (List.mem_filter.mp hleaf).2
  rw [Leaf.text, Filter.text_eq]
  refine endsSolid_intercalate _ (by simpa using hdefined) fun t ht => ?_
  obtain ⟨c, -, rfl⟩ := List.mem_map.mp ht
  exact c.endsSolid_text _

/-- A key ends in the word for its direction. -/
theorem SortKey.endsSolid_text (root : String) (key : SortKey) : EndsSolid (key.text root) := by
  have hword : isSolid key.direction.word.toList := key.direction.isWord_word.solid
  obtain ⟨target, direction⟩ := key
  rcases target with name | text
  · exact endsSolid_append _ hword
  · exact endsSolid_append _ hword

/-- A keyword with a solid end behind it. -/
private theorem isSolid_keyword_append {keyword s : String} (hkeyword : isSolid keyword.toList)
    (hs : EndsSolid s) : isSolid (keyword ++ " " ++ s).toList := by
  rw [String.append_assoc]
  exact (hs.append " ").isSolid_append hkeyword

theorem isSolid_forClause (root : String) : isSolid (forClause root).toList := by
  have hend : EndsSolid (root ++ " " ++ "IN") := endsSolid_append _ (by decide)
  have hclause : forClause root = "FOR" ++ " " ++ (root ++ " " ++ "IN") := by
    have hin : " IN" = " " ++ "IN" := rfl
    rw [forClause, hin, ← String.append_assoc, ← String.append_assoc]
    rfl
  rw [hclause]
  exact isSolid_keyword_append (by decide) hend

/-- The clauses of a request that filter. -/
def filterPieces (root : String) (terms : Option Terms) : List String :=
  ((terms.getD []).predicates root).map ("FILTER " ++ ·)

/-- The clause that orders, if there is anything to order by. -/
def sortPieces (root : String) (keys : List SortKey) : List String :=
  if keys = [] then [] else ["SORT " ++ ", ".intercalate (keys.map (·.text root))]

/-- The clause that limits, if there is a limit. -/
def limitPieces (limit : Option Limit) : List String :=
  limit.toList.map ("LIMIT " ++ ·.text)

theorem filterClause_eq (root : String) (terms : Option Terms) :
    filterClause root terms = joined (filterPieces root terms) := rfl

theorem sortClause_eq (root : String) (keys : List SortKey) :
    sortClause root keys = joined (sortPieces root keys) := by
  rcases keys with - | ⟨key, keys⟩
  · rfl
  · exact (joined_singleton _).symm

theorem limitClause_eq (limit : Option Limit) : limitClause limit = joined (limitPieces limit) := by
  rcases limit with - | limit
  · rfl
  · exact (joined_singleton _).symm

theorem isSolid_of_mem_filterPieces (root : String) (terms : Option Terms) :
    ∀ t ∈ filterPieces root terms, isSolid t.toList := by
  intro t ht
  obtain ⟨p, hp, rfl⟩ := List.mem_map.mp ht
  have hkeyword : "FILTER " = "FILTER" ++ " " := rfl
  rw [hkeyword]
  exact isSolid_keyword_append (by decide) (Terms.endsSolid_of_mem_predicates hp)

theorem isSolid_of_mem_sortPieces (root : String) (keys : List SortKey) :
    ∀ t ∈ sortPieces root keys, isSolid t.toList := by
  intro t ht
  rw [sortPieces] at ht
  split_ifs at ht with hkeys
  · exact absurd ht List.not_mem_nil
  · obtain rfl := List.mem_singleton.mp ht
    have hkeyword : "SORT " = "SORT" ++ " " := rfl
    rw [hkeyword]
    refine isSolid_keyword_append (by decide) (endsSolid_intercalate _ (by simpa using hkeys) ?_)
    intro t ht
    obtain ⟨key, -, rfl⟩ := List.mem_map.mp ht
    exact key.endsSolid_text root

theorem isSolid_of_mem_limitPieces (limit : Option Limit) :
    ∀ t ∈ limitPieces limit, isSolid t.toList := by
  intro t ht
  obtain ⟨l, hl, rfl⟩ := List.mem_map.mp ht
  obtain rfl : limit = some l := Option.mem_toList.mp hl
  have hwords : "LIMIT " ++ l.text = joined (limitClauseWords (some l)) :=
    limitClause_eq_joined (some l)
  have hne : limitClauseWords (some l) ≠ [] := by
    rcases l with ⟨count, - | offset⟩ <;> simp [limitClauseWords]
  rw [hwords]
  exact isSolid_intercalate " " hne fun w hw => (isWord_of_mem_limitClauseWords _ w hw).solid

/-! ### Fragments in a query -/

/-- The parts of a fragment, if there is one. -/
def slotParts (slot : Option Fragment) : List Part :=
  (slot.map Fragment.parts).getD []

/-- What a query binds: the name of the collection, and what fragments bind. -/
def bindVarsOf (name : String) (slots : List (Option Fragment)) : List (String × Json) :=
  ("@value0", .str name) :: Fragment.bindingsFrom 1 (slots.flatMap slotParts)

/-- The text of a fragment in a query, where other fragments stand in front of it. Its variables are
counted on from theirs. -/
def slotText (before : List (Option Fragment)) (slot : Option Fragment) : String :=
  joined (Fragment.wordsFrom (1 + (before.flatMap slotParts).countP Part.isBound) (slotParts slot))

/-- The query of some pieces. -/
def Query.ofPieces (pieces : List String) (bindVars : List (String × Json)) : Query :=
  ⟨joined (pieces.filter (· ≠ "")), bindVars⟩

namespace Fragment

/-! ### Adding pieces -/

/-- The words of the fragment join like the pieces that are not empty, and it binds the name of a
collection and what the fragments in these slots bind. -/
structure Assembles (f : Fragment) (name : String) (slots : List (Option Fragment))
    (pieces : List String) : Prop where
  words : JoinsAlike (wordsFrom 0 f.parts) (pieces.filter (· ≠ ""))
  vars : bindingsFrom 0 f.parts = bindVarsOf name slots

namespace Assembles

variable {f : Fragment} {name : String} {slots : List (Option Fragment)} {pieces : List String}

/-- A query begins with its documents. -/
theorem start (name root : String) :
    Assembles ((({} : Fragment).literal (forClause root)).collection name) name []
      [forClause root, "@@value0"] := by
  have hsolid := isSolid_forClause root
  have hne : forClause root ≠ "" := ne_empty_of_isSolid hsolid
  have hparts : ((({} : Fragment).literal (forClause root)).collection name).parts =
      [.literal (forClause root), .collection name] := by
    rw [parts_collection, parts_literal, trim_of_isSolid hsolid, if_neg hne]
    rfl
  have hname : Part.variableName 0 = "value0" := rfl
  constructor
  · let pieces := [forClause root, "@@value0"]
    have hpieces : pieces.filter (· ≠ "") = pieces := by simp [pieces, hne]
    have hwords : wordsFrom 0 [.literal (forClause root), .collection name] = pieces := by
      simp [pieces, wordsFrom, Part.word, Part.next, Part.isBound, hname]
    rw [hparts, hpieces, hwords]
    exact .refl _
  · rw [hparts]
    simp [bindingsFrom, bindVarsOf, Part.binding?, Part.next, Part.isBound, hname]

/-- The variables so far are those of the slots, and one more. -/
theorem countFrom_eq (h : Assembles f name slots pieces) :
    countFrom 0 f.parts = 1 + (slots.flatMap slotParts).countP Part.isBound := by
  rw [Fragment.countFrom_eq, h.vars, bindVarsOf, List.length_cons, length_bindingsFrom]
  omega

/-- Texts that trimming leaves alone are pieces as they are. -/
theorem texts (h : Assembles f name slots pieces) {ts : List String}
    (hts : ∀ t ∈ ts, isSolid t.toList) :
    Assembles (f.literal (joined ts)) name slots (pieces ++ ts) := by
  constructor
  · have hne : ts.filter (· ≠ "") = ts := by
      rw [List.filter_eq_self]
      exact fun t ht => decide_eq_true (ne_empty_of_isSolid (hts t ht))
    rw [wordsFrom_literal 0 f hts, List.filter_append, hne]
    exact h.words.append (joinsAlike_clause ts)
  · rw [bindingsFrom_literal]
    exact h.vars

/-- Any other text is trimmed. -/
theorem literal (h : Assembles f name slots pieces) (text : String) :
    Assembles (f.literal text) name slots (pieces ++ [trim text]) := by
  constructor
  · have hwords : wordsFrom 0 (f.literal text).parts =
        wordsFrom 0 f.parts ++ [trim text].filter (· ≠ "") := by
      rw [parts_literal, wordsFrom_append]
      split_ifs with hempty
      · simp [hempty, wordsFrom]
      · simp [hempty, wordsFrom, Part.word]
    rw [hwords, List.filter_append]
    exact h.words.append (.refl _)
  · rw [bindingsFrom_literal]
    exact h.vars

/-- The text of a fragment is a piece. Its variables go on from those in front of it. -/
theorem appendOption (h : Assembles f name slots pieces) {slot : Option Fragment}
    (hslot : ∀ g ∈ slot, g.IsBuilt) :
    Assembles (f.appendOption slot) name (slots ++ [slot])
      (pieces ++ [slotText slots slot]) := by
  have hparts : (f.appendOption slot).parts = f.parts ++ slotParts slot := by
    rcases slot with - | g
    · exact (List.append_nil _).symm
    · rfl
  let n := 1 + (slots.flatMap slotParts).countP Part.isBound
  have hne : ∀ w ∈ wordsFrom n (slotParts slot), w ≠ "" := by
    rcases slot with - | g
    · exact fun w hw => absurd hw List.not_mem_nil
    · exact (hslot g rfl).ne_empty n
  constructor
  · rw [hparts, wordsFrom_append, h.countFrom_eq, List.filter_append]
    exact h.words.append (joinsAlike_singleton_joined hne)
  · have hslots : (slots ++ [slot]).flatMap slotParts =
        slots.flatMap slotParts ++ slotParts slot := by simp
    rw [hparts, bindingsFrom_append, h.countFrom_eq, h.vars, bindVarsOf, bindVarsOf, hslots,
      bindingsFrom_append, countFrom_eq_countP]
    rfl

/-- **A query is assembled from its pieces.** -/
theorem query_eq (h : Assembles f name slots pieces) :
    f.query = .ofPieces pieces (bindVarsOf name slots) := by
  rw [query, h.vars]
  exact congrArg (Query.mk · _) h.words.joined_eq

end Assembles

end Fragment

/-! ### The queries of a request -/

/-- Injected fragments are built step by step. -/
structure Injection.IsBuilt (inject : Injection) : Prop where
  beforeFilter : ∀ f ∈ inject.beforeFilter, f.IsBuilt
  beforeSort : ∀ f ∈ inject.beforeSort, f.IsBuilt
  beforeLimit : ∀ f ∈ inject.beforeLimit, f.IsBuilt
  after : ∀ f ∈ inject.after, f.IsBuilt

namespace Collection

variable {ε α : Type} (c : Collection α) (r : Request)

/-- The pieces that all queries begin with. -/
def matchingPieces : List String :=
  ["FOR " ++ c.config.rootAlias ++ " IN", "@@value0", slotText [] r.injection.beforeFilter] ++
    filterPieces c.config.rootAlias r.terms

/-- The pieces of a query that counts. The fragment before the order is not among them. -/
def countPieces : List String :=
  let count := c.config.countAlias
  [c.matchingPieces r, [slotText [r.injection.beforeFilter] r.injection.beforeLimit],
    [slotText [r.injection.beforeFilter, r.injection.beforeLimit] r.injection.after],
    [trim ("COLLECT WITH COUNT INTO " ++ count ++ " RETURN " ++ count)]].flatten

/-- The pieces of a query that fetches documents. -/
def fetchPieces (keys : List SortKey) (limit : List String) : List String :=
  let root := c.config.rootAlias
  let inject := r.injection
  [c.matchingPieces r, [slotText [inject.beforeFilter] inject.beforeSort], sortPieces root keys,
    [slotText [inject.beforeFilter, inject.beforeSort] inject.beforeLimit], limit,
    [slotText [inject.beforeFilter, inject.beforeSort, inject.beforeLimit] inject.after],
    [trim ("RETURN " ++ root)]].flatten

/-- The query that counts, from its pieces. -/
def countAssembly : Query :=
  .ofPieces (c.countPieces r)
    (bindVarsOf c.name [r.injection.beforeFilter, r.injection.beforeLimit, r.injection.after])

/-- The query that fetches documents, from its pieces. -/
def fetchAssembly (keys : List SortKey) (limit : List String) : Query :=
  .ofPieces (c.fetchPieces r keys limit) (bindVarsOf c.name
    [r.injection.beforeFilter, r.injection.beforeSort, r.injection.beforeLimit, r.injection.after])

/-- The queries that a run may send, from their pieces. -/
def assembly : Purpose → List Query
  | .count => [c.countAssembly r]
  | .find => [c.fetchAssembly r (r.sort.getD c.config.findSort) ["LIMIT 1"]]
  | .search => (if r.limit.isSome then [c.countAssembly r] else []) ++
      [c.fetchAssembly r (r.sort.getD c.config.searchSort) (limitPieces r.limit)]

variable {c r}

theorem assembles_matching (h : r.injection.IsBuilt) :
    (c.matching r).Assembles c.name [r.injection.beforeFilter] (c.matchingPieces r) := by
  have hstart := (Fragment.Assembles.start c.name c.config.rootAlias).appendOption h.beforeFilter
  rw [matching, filterClause_eq]
  exact hstart.texts (isSolid_of_mem_filterPieces _ _)

theorem countQuery_eq_assembly (h : r.injection.IsBuilt) : c.countQuery r = c.countAssembly r := by
  have hpieces := (((assembles_matching (c := c) h).appendOption h.beforeLimit).appendOption
    h.after).literal
      ("COLLECT WITH COUNT INTO " ++ c.config.countAlias ++ " RETURN " ++ c.config.countAlias)
  rw [countQuery, hpieces.query_eq, countAssembly, countPieces]
  simp

theorem fetchQuery_eq_assembly (h : r.injection.IsBuilt) (keys : List SortKey) {limit : List String}
    (hlimit : ∀ t ∈ limit, isSolid t.toList) :
    c.fetchQuery r keys (joined limit) = c.fetchAssembly r keys limit := by
  have hsort := ((assembles_matching (c := c) h).appendOption h.beforeSort).texts
    (isSolid_of_mem_sortPieces c.config.rootAlias keys)
  have hpieces := (((hsort.appendOption h.beforeLimit).texts hlimit).appendOption h.after).literal
    ("RETURN " ++ c.config.rootAlias)
  rw [fetchQuery, sortClause_eq, hpieces.query_eq, fetchAssembly, fetchPieces]
  simp

/-- What a run plans to send is assembled from pieces. -/
theorem plan_eq_assembly (h : r.injection.IsBuilt) (purpose : Purpose) :
    c.plan r purpose = c.assembly r purpose := by
  have hcount := countQuery_eq_assembly (c := c) h
  rcases purpose with - | - | -
  · rw [plan, assembly, hcount]
  · have hlimit : ∀ t ∈ ["LIMIT 1"], isSolid t.toList := by decide
    rw [plan, assembly, findQuery, ← fetchQuery_eq_assembly h _ hlimit, joined_singleton]
  · rw [plan, assembly, searchQuery, limitClause_eq,
      fetchQuery_eq_assembly h _ (isSolid_of_mem_limitPieces _), hcount]
    split_ifs <;> rfl

/-- **Runs send assembled queries.** Each query is assembled from its pieces, with one that filters
for each predicate; a run begins to send what is assembled for it, and sends it all if it succeeds.
No predicate is empty, and trimming leaves the clauses that filter and order as they are written. -/
theorem answer_run_assembled (c : Collection α) {r : Request} (h : r.injection.IsBuilt)
    (purpose : Purpose) (exhausted : ε) (replies : List (Reply ε)) :
    let root := c.config.rootAlias
    let x := (c.run r purpose : Run ε _).answer exhausted replies
    (x.queries ≠ [] ∧ x.queries <+: c.assembly r purpose ∧
      (x.result.isOk → x.queries = c.assembly r purpose)) ∧
    (∀ p ∈ (r.terms.getD []).predicates root, p ≠ "" ∧ trim ("FILTER " ++ p) = "FILTER " ++ p) ∧
    trim (filterClause root r.terms) = filterClause root r.terms ∧
    ∀ keys, trim (sortClause root keys) = sortClause root keys := by
  intro root x
  have hrun : Run.KeepsTo (c.plan r purpose) (c.run r purpose : Run ε _) := c.run_keepsTo r purpose
  rw [plan_eq_assembly h] at hrun
  refine ⟨⟨?_, hrun.queries_prefix exhausted replies, hrun.queries_eq exhausted⟩, ?_, ?_, ?_⟩
  · exact c.queries_run_ne_nil r purpose exhausted replies
  · intro p hp
    refine ⟨(Terms.endsSolid_of_mem_predicates hp).ne_empty, trim_of_isSolid ?_⟩
    exact isSolid_of_mem_filterPieces root r.terms _ (List.mem_map_of_mem hp)
  · exact trim_joined (isSolid_of_mem_filterPieces root r.terms)
  · intro keys
    rw [sortClause_eq]
    exact trim_joined (isSolid_of_mem_sortPieces root keys)

/-- Clauses without predicates and blank fragments leave no trace, and variables are numbered
through. Counting passes over the fragment before the order. -/
theorem answer_run_assembled_of_many_fragments :
    let inject : Injection :=
      { beforeFilter := some (.ofSteps [.literal " LET least =", .value (.int 3)])
        beforeSort := some (.ofSteps [.literal "LET none =", .value .null])
        beforeLimit := some (.ofSteps [.literal "  ", .absent])
        after := some (.ofSteps [.literal "FOR o IN", .collection "owners"]) }
    let undefined : Filter := .undefined {} .eq
    let name : Filter := .compare {} .neq (.scalar (.str " "))
    let terms : Terms := [("age", .filter undefined), (" full name", .filter name)]
    let r : Request := { terms := some terms, limit := some ⟨5, some 10⟩, inject := some inject }
    let x := ((named "pets").run r .search : Run Unit _).answer () [.ok [], .ok []]
    inject.IsBuilt ∧
      x.queries.map Query.text =
        ["FOR i IN @@value0 LET least = @value1 FILTER i. full name != \" \" FOR o IN @@value2" ++
            " COLLECT WITH COUNT INTO n RETURN n",
          "FOR i IN @@value0 LET least = @value1 FILTER i. full name != \" \" LET none = @value2" ++
            " SORT i._rev ASC LIMIT 10, 5 FOR o IN @@value3 RETURN i"] ∧
      x.queries.map (·.bindVars.map Prod.fst) =
        [["@value0", "value1", "@value2"], ["@value0", "value1", "value2", "@value3"]] := by
  intro inject undefined name terms r x
  have hinject : inject.IsBuilt := by
    constructor <;> simp [inject, Fragment.isBuilt_ofSteps]
  obtain ⟨⟨-, -, hqueries⟩, -⟩ :=
    answer_run_assembled (named "pets") (r := r) hinject .search () [.ok [], .ok []]
  refine ⟨hinject, ?_⟩
  rw [hqueries rfl]
  decide

end Collection

end DocQuery
