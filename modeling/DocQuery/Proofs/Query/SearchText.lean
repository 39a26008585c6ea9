import DocQuery.Proofs.Query.Outline

/-!
# The query of a search joins the words of its outline

Each clause of the query is a text that joins words: predicates (`Leaf.text_eq_joined`), the
clause of filters, the order and the limit. A clause of words passes trimming and adds no part if
it has no words (`Fragment.wordsFrom_literal`), so the query of a plain search is the join of all
its words (`Collection.searchQuery_text`).
-/

namespace DocQuery

open Text

/-! ### Predicates -/

theorem Operator.joined_words (op : Operator) : joined op.words = op.symbol := by
  cases op <;> rfl

theorem Operator.words_ne_nil (op : Operator) : op.words ≠ [] := by
  cases op <;> simp [words]

private theorem comparisonWords_ne_nil (param : String) (c : Operator × Operand.Form) :
    comparisonWords param c ≠ [] := by
  simp [comparisonWords]

/-- A comparison joins its words. -/
theorem Comparison.text_eq_joined (param : String) (c : Comparison) :
    c.text param = joined (comparisonWords param (c.operator, c.operand.form)) := by
  have hwords : c.operator.words ++ [c.operand.form.text] ≠ [] := by simp
  rw [comparisonWords, List.cons_append, joined_cons param hwords,
    joined_append c.operator.words_ne_nil (by simp), c.operator.joined_words, joined_singleton,
    Operand.text_form, text]
  simp only [String.append_assoc]

/-- A connective between groups of words is a word between them. -/
private theorem joined_intercalate (w : String) {groups : List (List String)}
    (hgroups : ∀ g ∈ groups, g ≠ []) :
    joined ([w].intercalate groups) = (" " ++ w ++ " ").intercalate (groups.map joined) := by
  induction groups with
  | nil => rfl
  | cons g groups ih =>
    obtain ⟨hg, hrest⟩ := List.forall_mem_cons.mp hgroups
    cases groups with
    | nil => simp
    | cons g' groups =>
      have htail : [w].intercalate (g' :: groups) ≠ [] := by
        have hg' : g' ≠ [] := hrest g' List.mem_cons_self
        cases groups <;> simp [hg', List.intercalate_cons_cons]
      have hmap : (g :: g' :: groups).map joined = joined g :: (g' :: groups).map joined := rfl
      rw [List.intercalate_cons_cons, List.append_assoc, joined_append hg (by simp),
        List.singleton_append, joined_cons w htail, ih hrest, hmap,
        String.intercalate_cons_of_ne_nil (by simp)]
      simp only [String.append_assoc]

/-- A connective does not show unless there are texts on both of its sides. -/
private theorem intercalate_of_length_le_one (joint : String) {ts : List String}
    (h : ts.length ≤ 1) : joint.intercalate ts = String.join ts := by
  obtain rfl | ⟨t, rfl⟩ : ts = [] ∨ ∃ t, ts = [t] := by
    cases ts with
    | nil => exact .inl rfl
    | cons t ts => exact .inr ⟨t, by simpa using h⟩
  · rfl
  · simp

/-- **A predicate joins its words.** Without anything to join, the connective does not matter. -/
theorem Leaf.text_eq_joined (root : String) (leaf : Leaf) :
    leaf.text root = joined (leaf.predicate.words root) := by
  let param := pathText root leaf.path
  let cs := leaf.filter.comparisons
  let connective := (leaf.predicate.mode?.getD .and).word
  have hwords : joined (leaf.predicate.words root) =
      (" " ++ connective ++ " ").intercalate (cs.map (·.text param)) := by
    have htexts : (leaf.predicate.comparisons.map (comparisonWords param)).map joined =
        cs.map (·.text param) := by
      simp [predicate, cs, Function.comp_def, Comparison.text_eq_joined]
    rw [Predicate.words, joined_intercalate, ← htexts]
    · rfl
    · intro g hg
      obtain ⟨c, -, rfl⟩ := List.mem_map.mp hg
      exact comparisonWords_ne_nil _ c
  rw [hwords, text, Filter.text_eq]
  change (" " ++ leaf.filter.mode.word ++ " ").intercalate (cs.map (·.text param)) = _
  -- the outline knows the connective only where it joins something, and elsewhere any one will do
  by_cases hjoin : 2 ≤ cs.length
  · have hmode : leaf.predicate.mode? = some leaf.filter.mode := if_pos hjoin
    simp only [connective, hmode, Option.getD_some]
  · have hfew : (cs.map (·.text param)).length ≤ 1 := by
      rw [List.length_map]
      omega
    rw [intercalate_of_length_le_one _ hfew, intercalate_of_length_le_one _ hfew]

/-! ### Clauses -/

/-- Texts that join words are joined to a text that joins all the words. -/
private theorem joined_map_joined {groups : List (List String)} (hgroups : ∀ g ∈ groups, g ≠ []) :
    joined (groups.map joined) = joined groups.flatten := by
  have hclause : ∀ g ∈ groups, clause g = [joined g] := fun g hg => if_neg (hgroups g hg)
  rw [← joined_flatMap_clause, List.flatMap_congr hclause, List.map_eq_flatMap]

/-- The clause of filters joins its words. -/
theorem filterClause_eq_joined (root : String) (terms : Option Terms) :
    filterClause root terms = joined (filterClauseWords root
      (((terms.getD []).leaves.filter Leaf.isDefined).map Leaf.predicate)) := by
  let leaves := (terms.getD []).leaves.filter Leaf.isDefined
  have hleaf : ∀ leaf ∈ leaves,
      "FILTER " ++ leaf.text root = joined ("FILTER" :: leaf.predicate.words root) := by
    intro leaf hleaf
    have hdefined : leaf.isDefined := (List.mem_filter.mp hleaf).2
    -- a defined leaf has text, so it has words for `FILTER` to be joined to
    have hne : leaf.predicate.words root ≠ [] := by
      intro hnil
      have hempty : leaf.text root = "" := by rw [leaf.text_eq_joined, hnil, joined_nil]
      rw [Leaf.text_eq_empty_iff.mp hempty] at hdefined
      exact absurd hdefined (by simp)
    rw [joined_cons "FILTER" hne, leaf.text_eq_joined]
    rfl
  calc filterClause root terms
      = joined ((leafTexts root (terms.getD []).leaves).map ("FILTER " ++ ·)) := by
        rw [filterClause, Terms.predicates_eq_leaves]
        rfl
    _ = joined ((leaves.map fun leaf => "FILTER" :: leaf.predicate.words root).map joined) := by
        rw [leafTexts, List.map_map, List.map_map]
        exact congrArg joined (List.map_congr_left hleaf)
    _ = joined (leaves.map fun leaf => "FILTER" :: leaf.predicate.words root).flatten :=
        joined_map_joined (by simp)
    _ = joined (filterClauseWords root (leaves.map Leaf.predicate)) := by
        rw [filterClauseWords, List.flatMap_map, List.flatMap_def]

private theorem sortWords_ne_nil (root : String) (key : SortKey) (keys : List SortKey) :
    sortWords root (key :: keys) ≠ [] := by
  cases keys <;> simp [sortWords]

/-- The clause that orders documents joins its words. -/
theorem sortClause_eq_joined (root : String) (keys : List SortKey) :
    sortClause root keys = joined (sortClauseWords root keys) := by
  have hkey : ∀ key : SortKey,
      key.text root = sortWords.fieldOf root key ++ " " ++ key.direction.word := by
    intro key
    rw [SortKey.text, sortWords.fieldOf]
    cases key.target <;> rfl
  have hlist : SortKey.listText root keys = joined (sortWords root keys) := by
    induction keys with
    | nil => rfl
    | cons key keys ih =>
      cases keys with
      | nil => simp [SortKey.listText, sortWords, hkey, joined_cons]
      | cons next rest =>
        -- of what stands between two keys, the comma ends a word and the blank joins
        have hcomma : ", " = "," ++ " " := rfl
        have hstep : SortKey.listText root (key :: next :: rest) =
            key.text root ++ ", " ++ SortKey.listText root (next :: rest) :=
          String.intercalate_cons_cons
        rw [hstep, ih, hkey, sortWords, joined_cons _ (by simp),
          joined_cons _ (sortWords_ne_nil root next rest), hcomma]
        simp only [String.append_assoc]
  cases keys with
  | nil => rfl
  | cons key keys =>
    rw [sortClauseWords, if_neg (by simp), joined_cons "SORT" (sortWords_ne_nil root key keys),
      ← hlist]
    rfl

/-- The clause that limits the number of documents joins its words. -/
theorem limitClause_eq_joined (limit : Option Limit) :
    limitClause limit = joined (limitClauseWords limit) := by
  rcases limit with _ | ⟨count, _ | offset⟩
  · rfl
  · simp [limitClause, limitClauseWords, Limit.text, joined_cons]
  · have hcomma : ", " = "," ++ " " := rfl
    simp [limitClause, limitClauseWords, Limit.text, joined_cons, hcomma, String.append_assoc]

/-! ### The query -/

theorem Fragment.text_query (f : Fragment) : f.query.text = joined (wordsFrom 0 f.parts) := rfl

/-- Trusted text passes no variables. -/
theorem Fragment.countFrom_literal (n : Nat) (f : Fragment) (text : String) :
    countFrom n (f.literal text).parts = countFrom n f.parts := by
  rw [parts_literal, countFrom, List.foldl_append]
  split <;> rfl

theorem Fragment.bindingsFrom_literal (n : Nat) (f : Fragment) (text : String) :
    bindingsFrom n (f.literal text).parts = bindingsFrom n f.parts := by
  rw [parts_literal, bindingsFrom_append]
  split <;> simp [bindingsFrom, Part.binding?]

/-- A clause of solid words adds itself to the words of a fragment. -/
theorem Fragment.wordsFrom_literal (n : Nat) (f : Fragment) {ws : List String}
    (hws : ∀ w ∈ ws, isSolid w.toList) :
    wordsFrom n (f.literal (joined ws)).parts = wordsFrom n f.parts ++ clause ws := by
  have hempty : joined ws = "" ↔ ws = [] :=
    joined_eq_empty_iff fun w hw => ne_empty_of_isSolid (hws w hw)
  rw [parts_literal, trim_joined hws, wordsFrom_append]
  by_cases hnil : ws = []
  · rw [if_pos (hempty.mpr hnil), clause, if_pos hnil]
    rfl
  · rw [if_neg (mt hempty.mp hnil), clause, if_neg hnil]
    rfl

/-- The text of a fragment that names a collection and has clauses of words around it. -/
private theorem Fragment.text_of_clauses (name : String) {start filters sort limit finish : List String}
    (hwords : ∀ g ∈ [start, ["@@value0"], filters, sort, limit, finish],
      ∀ w ∈ g, isSolid w.toList) :
    ((((((({} : Fragment).literal (joined start)).collection name).literal (joined filters)).literal
      (joined sort)).literal (joined limit)).literal (joined finish)).query.text =
      joined [start, ["@@value0"], filters, sort, limit, finish].flatten := by
  have hstart : countFrom 0 (({} : Fragment).literal (joined start)).parts = 0 :=
    countFrom_literal 0 {} (joined start)
  rw [text_query, wordsFrom_literal 0 _ (hwords finish (by simp)),
    wordsFrom_literal 0 _ (hwords limit (by simp)),
    wordsFrom_literal 0 _ (hwords sort (by simp)), wordsFrom_literal 0 _ (hwords filters (by simp)),
    parts_collection, wordsFrom_append, hstart, wordsFrom_literal 0 _ (hwords start (by simp)),
    ← joined_flatMap_clause]
  simp only [List.flatMap_cons, List.flatMap_nil, List.append_assoc, List.append_nil]
  rfl

/-- Nothing in a request can be mistaken for what stands around it: no fragments are injected,
documents and fields go by identifiers, documents are ordered by fields, and no string that is
compared with holds a quotation mark. -/
structure Collection.IsPlain {α : Type} (c : Collection α) (r : Request) : Prop where
  injection : r.injection = {}
  root : isIdentifier c.config.rootAlias
  fields : ∀ leaf ∈ (r.terms.getD []).leaves, ∀ field ∈ leaf.path, isIdentifier field
  strings : ∀ leaf ∈ (r.terms.getD []).leaves, ∀ comparison ∈ leaf.filter.comparisons,
    ∀ value ∈ comparison.operand.scalars, value.isQuoteFree
  sort : ∀ key ∈ r.sort.getD c.config.searchSort, key.isField

namespace Collection

variable {α : Type} {c : Collection α} {r : Request}

/-- The outline of a plain search is legible. -/
theorem IsPlain.isLegible_outline (h : c.IsPlain r) : (c.outline r).IsLegible where
  root := h.root
  sort := h.sort
  predicates p hp := by
    obtain ⟨leaf, hleaf, rfl⟩ := List.mem_map.mp hp
    obtain ⟨hmem, hdefined⟩ := List.mem_filter.mp hleaf
    refine ⟨h.fields leaf hmem, ?_, ?_, ?_⟩
    · simpa [Leaf.isDefined, Leaf.predicate] using hdefined
    · intro x hx
      obtain ⟨comparison, hcomparison, rfl⟩ := List.mem_map.mp hx
      exact Operand.isLegible_form (h.strings leaf hmem comparison hcomparison)
    · simp [Leaf.predicate]

/-- **The query of a plain search joins the words of its outline.** -/
theorem searchQuery_text (h : c.IsPlain r) : (c.searchQuery r).text = joined (c.outline r).words := by
  have hwords : ∀ g ∈ (c.outline r).clauses, ∀ w ∈ g, isSolid w.toList := fun g hg w hw =>
    (Outline.isWord_of_mem_words h.isLegible_outline w (List.mem_flatten.mpr ⟨g, hg, hw⟩)).solid
  have hfor : forClause c.config.rootAlias = joined ["FOR", c.config.rootAlias, "IN"] := by
    simp [forClause, joined_cons, String.append_assoc]
  have hreturn : "RETURN " ++ c.config.rootAlias = joined ["RETURN", c.config.rootAlias] := by
    rw [joined_cons "RETURN" (by simp), joined_singleton]
    rfl
  rw [searchQuery, fetchQuery, matching, h.injection, hfor, hreturn, filterClause_eq_joined,
    sortClause_eq_joined, limitClause_eq_joined]
  exact Fragment.text_of_clauses c.name hwords

end Collection

end DocQuery
