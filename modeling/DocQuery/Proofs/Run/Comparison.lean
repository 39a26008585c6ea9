import DocQuery.Fragment.Step
import DocQuery.Proofs.Run.Search

/-!
# Runs compared with each other

A search with a limit begins like a run that counts: with the query, the line in the log and the
outcome of that run. It ends there if counting fails, and goes on with the number if it does not
(`Collection.search_begins_with_count`). What counting depends on is the same for both
(`Collection.CountsAlike`). Orders, the numbers of the limit and the fragment before the order are
not among it.

Finding reads one row, and a search reads them all. If a search for one document has a result, then
finding has the first of its documents, from the reply to the same query
(`Collection.find_agrees_with_search`).
-/

namespace DocQuery.Collection

variable {ε α β : Type} {c : Collection α} {d : Collection β} {r r' : Request}

/-! ### Counting and searching -/

/-- The collections and the requests agree in all that counting depends on. A request that injects
nothing agrees with one that leaves the places of a count empty. -/
structure CountsAlike (c : Collection α) (r : Request) (d : Collection β) (r' : Request) :
    Prop where
  name : c.name = d.name
  root : c.config.rootAlias = d.config.rootAlias
  count : c.config.countAlias = d.config.countAlias
  terms : r.terms = r'.terms
  beforeFilter : r.injection.beforeFilter = r'.injection.beforeFilter
  beforeLimit : r.injection.beforeLimit = r'.injection.beforeLimit
  after : r.injection.after = r'.injection.after

/-- What queries begin with depends on nothing else in collections and requests. -/
theorem matching_congr (hname : c.name = d.name)
    (hroot : c.config.rootAlias = d.config.rootAlias) (hterms : r.terms = r'.terms)
    (hbefore : r.injection.beforeFilter = r'.injection.beforeFilter) :
    c.matching r = d.matching r' := by
  rw [matching, matching, hname, hroot, hterms, hbefore]

theorem CountsAlike.countQuery_eq (h : CountsAlike c r d r') :
    c.countQuery r = d.countQuery r' := by
  have hmatching : c.matching r = d.matching r' :=
    matching_congr h.name h.root h.terms h.beforeFilter
  rw [countQuery, countQuery, hmatching, h.beforeLimit, h.after, h.count]

theorem CountsAlike.count_eq (h : CountsAlike c r d r') :
    (c.count r : Run ε Nat) = d.count r' := by
  rw [Collection.count, Collection.count, h.countQuery_eq]

/-- The result of fetching has the larger of two numbers as its total. -/
theorem total_of_fetch {exhausted : ε} {replies : List (Reply ε)} {counted : Nat}
    {s : SearchResult α} (h : ((c.fetch r counted).answer exhausted replies).result = .ok s) :
    s.total = max counted s.documents.length := by
  obtain ⟨rows, -, hs, htotal⟩ := (c.fetch_eq_ok_iff r exhausted replies).mp h
  rw [htotal, hs.documents.length_eq]

/-- **A search with a limit begins with a count.** Requests that agree in what counting depends on
are counted by one run. It sends one query and makes one note of it. If it fails, the search has
failed in the same way, without sending or noting anything else. If it has counted, the search goes
on to fetch documents with this number and the replies that are left, and the total is the number,
unless there are more documents. -/
theorem search_begins_with_count (h : CountsAlike c r d r') (hlimit : r'.limit.isSome)
    (exhausted : ε) (replies : List (Reply ε)) :
    let counting := (c.count r : Run ε Nat).answer exhausted replies
    let searching := (d.search r' : Run ε _).answer exhausted replies
    (d.count r' : Run ε Nat) = c.count r ∧
    (∃ q, counting.queries = [q] ∧ counting.log = [.announce .count q]) ∧
    (∀ e, counting.result = .error e →
      searching = ⟨.error e, counting.queries, counting.log, counting.remaining⟩) ∧
    ∀ n, counting.result = .ok n →
      let fetching := (d.fetch r' n).answer exhausted counting.remaining
      searching = ⟨fetching.result, counting.queries ++ fetching.queries,
        counting.log ++ fetching.log, fetching.remaining⟩ ∧
      ∀ s, searching.result = .ok s → s.total = max n s.documents.length := by
  intro counting searching
  have hcounting : counting = ⟨readCount (replyAt exhausted replies 0), [d.countQuery r'],
      [.announce .count (d.countQuery r')], replies.tail⟩ := by
    rw [← h.countQuery_eq]
    exact c.answer_count r exhausted replies
  have hsearching := d.answer_search_of_limit r' exhausted replies hlimit
  rw [hcounting]
  refine ⟨h.count_eq.symm, ⟨_, rfl, rfl⟩, fun e he => ?_, fun n hn => ?_⟩
  · have hstop : readCount (replyAt exhausted replies 0) = .error e := he
    rw [hstop] at hsearching
    exact hsearching
  · have hgo : readCount (replyAt exhausted replies 0) = .ok n := hn
    rw [hgo] at hsearching
    refine ⟨hsearching, fun s hs => ?_⟩
    have hfetched : ((d.fetch r' n).answer exhausted replies.tail).result = .ok s := by
      rw [← hs]
      exact (congrArg Exchange.result hsearching).symm
    exact total_of_fetch hfetched

/-- Collections with orders and documents of their own, and requests with different orders, one of
them without a limit. -/
theorem search_begins_with_count_of_other_orders :
    let c : Collection Json := (named "pets").withAliases "pet" "pets"
    let d : Collection Nat :=
      ⟨"pets", { rootAlias := "pet", countAlias := "pets", searchSort := [] }, .word⟩
    let before : Fragment := .ofSteps [.literal "LET now =", .value (.int 7)]
    let r : Request :=
      { sort := some [.desc "age"], inject := some { beforeFilter := some before } }
    let r' : Request :=
      { limit := some ⟨0, some 3⟩
        inject := some { beforeFilter := some before, beforeSort := some before } }
    let replies : List (Reply Unit) := [.ok (.ofRows [.int 1]), .ok (.ofRows [.int 4, .int 5])]
    let searching := (d.search r').answer () replies
    CountsAlike c r d r' ∧ r'.limit.isSome ∧
      ((c.count r).answer () replies).result = .ok 1 ∧
      (∀ s, searching.result = .ok s → s.total = max 1 s.documents.length) ∧
      searching.queries = [c.countQuery r, d.searchQuery r'] := by
  intro c d before r r' replies searching
  have hcounts : CountsAlike c r d r' := ⟨rfl, rfl, rfl, rfl, rfl, rfl, rfl⟩
  obtain ⟨-, -, -, hgo⟩ := search_begins_with_count hcounts rfl () replies
  obtain ⟨hsearching, htotal⟩ := hgo 1 rfl
  exact ⟨hcounts, rfl, rfl, htotal, congrArg Exchange.queries hsearching⟩

/-- A search that injects a fragment before the order counts as if it injected nothing. -/
example :
    let fragment : Fragment := .ofSteps [.literal "LET x =", .value (.int 1)]
    let r : Request :=
      { limit := some ⟨3, none⟩, inject := some { beforeSort := some fragment } }
    let x := ((named "pets").search r).answer () []
    let q := (named "pets").countQuery {}
    x.queries = [q] ∧ x.log = [.announce .count q] :=
  ⟨rfl, rfl⟩

/-! ### Finding and searching -/

/-- Of rows that are documents, finding takes the first. -/
theorem readFirst_ofRows {rows : List Json} {documents : List α}
    (h : List.Forall₂ (fun row document => c.decode row = .ok document) rows documents) :
    c.readFirst (.ok (.ofRows rows) : Reply ε) = .ok documents.head? := by
  rcases h with - | ⟨hrow, -⟩
  · exact readFirst_eq_iff.mpr .empty
  · exact readFirst_eq_iff.mpr (.document hrow _)

/-- With a limit, documents come from the second reply. -/
theorem Reconciles.holds_of_limit {reply : Nat → Reply ε} {queries : List Query}
    {s : SearchResult α} (h : c.Reconciles r reply queries s) (hlimit : r.limit.isSome) :
    ∃ rows, reply 1 = .ok (.ofRows rows) ∧ c.Holds r rows s := by
  rcases h with ⟨hnone, -⟩ | ⟨-, -, hrows, hs, -⟩
  · rw [hnone] at hlimit
    exact absurd hlimit Bool.false_ne_true
  · exact ⟨_, hrows, hs⟩

theorem answer_find (exhausted : ε) (replies : List (Reply ε)) :
    ((c.find r : Run ε _).answer exhausted replies) =
      ⟨c.readFirst (replyAt exhausted replies 0), [c.findQuery r],
        [.announce .find (c.findQuery r)], replies.tail⟩ :=
  Dialogue.answer_ask exhausted .find (c.findQuery r) _ replies

/-- The queries agree if an order is given, because then no settings choose it. -/
theorem findQuery_eq_searchQuery (hname : c.name = d.name)
    (hroot : c.config.rootAlias = d.config.rootAlias) (hsort : r.sort.isSome) :
    c.findQuery r = d.searchQuery { r with limit := some ⟨1, none⟩ } := by
  obtain ⟨keys, hkeys⟩ := Option.isSome_iff_exists.mp hsort
  have hmatching : c.matching r = d.matching { r with limit := some ⟨1, none⟩ } :=
    matching_congr hname hroot rfl rfl
  have hlimit : limitClause (some ⟨1, none⟩) = "LIMIT 1" := by decide
  rw [findQuery, searchQuery, hkeys, hlimit, fetchQuery, fetchQuery, hmatching, hroot]
  rfl

/-- **Finding agrees with a search for one document.** With an order that is given, finding sends
the query that the search fetches its documents by. If the search has a result, then finding has the
first of its documents, or none if there are none, when the same reply answers. -/
theorem find_agrees_with_search {c d : Collection α} {r : Request} (hname : c.name = d.name)
    (hroot : c.config.rootAlias = d.config.rootAlias) (hdecode : c.decode = d.decode)
    (hsort : r.sort.isSome) (exhausted : ε) (counting fetching : Reply ε)
    (more more' : List (Reply ε)) :
    let one : Request := { r with limit := some ⟨1, none⟩ }
    let found := (c.find r).answer exhausted (fetching :: more')
    let searched := (d.search one).answer exhausted (counting :: fetching :: more)
    ∃ q, found.queries = [q] ∧
      (∀ n, SaysCount counting (.ok n) → searched.queries = [d.countQuery one, q]) ∧
      (∀ e, SaysCount counting (.error e) → searched.queries = [d.countQuery one]) ∧
      ∀ s, searched.result = .ok s → s.query = q ∧ found.result = .ok s.documents.head? := by
  intro one found searched
  have hfound : found = ⟨c.readFirst fetching, [d.searchQuery one],
      [.announce .find (d.searchQuery one)], more'⟩ := by
    rw [← findQuery_eq_searchQuery hname hroot hsort]
    exact answer_find exhausted (fetching :: more')
  let replies := counting :: fetching :: more
  rw [hfound]
  refine ⟨d.searchQuery one, rfl, fun n hn => ?_, fun e he => ?_, fun s hs => ?_⟩
  · exact (d.answer_search_of_counted one exhausted replies rfl hn).2
  · exact (d.answer_search_of_count_error one exhausted replies rfl he).2
  · have hreconciles := (d.search_eq_ok_iff one exhausted replies).mp hs
    obtain ⟨rows, hrows, hholds⟩ := hreconciles.holds_of_limit rfl
    have hreply : fetching = .ok (.ofRows rows) := hrows
    refine ⟨hholds.query, ?_⟩
    rw [hreply]
    exact readFirst_ofRows (hdecode ▸ hholds.documents)

/-- Settings that name different orders, and a reply with more documents than were asked for. -/
theorem find_agrees_with_search_of_two_rows :
    let c : Collection Json := (named "pets").withRoot "pet"
    let d : Collection Json := c.withConfig { c.config with countAlias := "k", searchSort := [] }
    let r : Request := { sort := some [.desc "age"], limit := some ⟨9, none⟩ }
    let fetching : Reply Unit := .ok (.ofRows [.str "rex", .str "tom"])
    let searched := (d.search { r with limit := some ⟨1, none⟩ }).answer () [.ok [], fetching]
    c.name = d.name ∧ c.config.rootAlias = d.config.rootAlias ∧ c.decode = d.decode ∧
      r.sort.isSome ∧ searched.result.isOk ∧
      ∀ s, searched.result = .ok s →
        ((c.find r).answer () [fetching]).result = .ok s.documents.head? := by
  intro c d r fetching searched
  obtain ⟨q, -, -, -, hresult⟩ :=
    find_agrees_with_search (c := c) (d := d) (r := r) rfl rfl rfl rfl () (.ok []) fetching [] []
  exact ⟨rfl, rfl, rfl, rfl, rfl, fun s hs => (hresult s hs).2⟩

end DocQuery.Collection
