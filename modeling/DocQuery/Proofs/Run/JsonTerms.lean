import DocQuery.Proofs.Run.Plan
import DocQuery.Proofs.Terms.Conditions

/-!
# Runs with terms in JSON

Terms in JSON are read before a run begins. If they do not compile, nothing else happens: no query,
no note, and all replies are left. If they do, the run is that of the terms they decode to.

Terms go into queries by their predicates only, so terms without predicates and no terms at all make
the same run (`Collection.run_of_predicates_eq_nil`). In JSON these are the objects that declare
nothing but idle fields (`Terms.predicates_eq_nil_iff`).
-/

namespace DocQuery.Collection

variable {ε α : Type} (c : Collection α) (r : Request)

variable {c r} in
/-- Terms without predicates leave no trace in a query. -/
theorem queryFor_of_predicates_eq_nil {terms : Terms}
    (h : terms.predicates c.config.rootAlias = []) (purpose : Purpose) :
    c.queryFor { r with terms := some terms } purpose =
      c.queryFor { r with terms := none } purpose := by
  have hclause : filterClause c.config.rootAlias (some terms) =
      filterClause c.config.rootAlias none := by
    rw [filterClause, Option.getD_some, h]
    rfl
  have hmatching : c.matching { r with terms := some terms } =
      c.matching { r with terms := none } := by
    rw [matching, matching, hclause]
    rfl
  rcases purpose with - | - | -
  · rw [queryFor, queryFor, countQuery, countQuery, hmatching]
    rfl
  · rw [queryFor, queryFor, findQuery, findQuery, fetchQuery, fetchQuery, hmatching]
    rfl
  · rw [queryFor, queryFor, searchQuery, searchQuery, fetchQuery, fetchQuery, hmatching]
    rfl

/-- **Terms without predicates are as good as none.** -/
theorem run_of_predicates_eq_nil {terms : Terms} (h : terms.predicates c.config.rootAlias = [])
    (purpose : Purpose) :
    (c.run { r with terms := some terms } purpose : Run ε _) =
      c.run { r with terms := none } purpose :=
  run_congr (queryFor_of_predicates_eq_nil h) rfl purpose

/-- **Terms in JSON abort a run before it begins, or make it the run of what they decode to.** If
they do not compile, the error is the result, whatever else is asked for, and there is no query, no
note and no reply that is taken. Otherwise result, queries, notes and replies that are left are
those of the run with the decoded terms, and at least one query is sent. The terms filter by nothing
exactly if the JSON declares nothing but idle fields; then the run is that without terms. -/
theorem answer_withJsonTerms (c : Collection α) (r : Request) (json : Json) (purpose : Purpose)
    (exhausted : ε) (replies : List (Reply ε)) :
    let run (r : Request) : Run ε (purpose.Result α) := c.run r purpose
    let x := (withJsonTerms json r run).answer exhausted replies
    (∀ e, Terms.ofJson json = .error e → x = ⟨.error (.compile e), [], [], replies⟩) ∧
    ∀ terms, Terms.ofJson json = .ok terms →
      x = (run { r with terms := some terms }).answer exhausted replies ∧ x.queries ≠ [] ∧
      (terms.predicates c.config.rootAlias = [] ↔ json.DeclaresNothing) ∧
      (json.DeclaresNothing → x = (run { r with terms := none }).answer exhausted replies) := by
  intro run x
  refine ⟨fun e => answer_withJsonTerms_of_error r run exhausted replies, fun terms hterms => ?_⟩
  have hx : x = (run { r with terms := some terms }).answer exhausted replies :=
    congrArg (Dialogue.answer exhausted · replies) (withJsonTerms_of_ok r run hterms)
  have hnothing : terms.predicates c.config.rootAlias = [] ↔ json.DeclaresNothing :=
    Terms.predicates_eq_nil_iff c.config.rootAlias hterms
  rw [hx]
  refine ⟨rfl, c.queries_run_ne_nil _ purpose exhausted replies, hnothing, fun h => ?_⟩
  exact congrArg (Dialogue.answer exhausted · replies)
    (c.run_of_predicates_eq_nil r (hnothing.mpr h) purpose)

/-- A list is at fault that stands behind an idle field. -/
example :
    let idle : String × Json := ("age", .obj [("mode", .str "AND")])
    let r : Request := { limit := some ⟨1, none⟩ }
    let queries (json : Json) :=
      ((withJsonTerms json r (named "pets").search).answer () [.ok []]).queries.map Query.text
    queries (.obj [idle, ("name", .arr [])]) = [] ∧
      queries (.obj [idle]) = ["FOR i IN @@value0 COLLECT WITH COUNT INTO n RETURN n",
        "FOR i IN @@value0 SORT i._rev ASC LIMIT 1 RETURN i"] := by
  decide

end DocQuery.Collection
