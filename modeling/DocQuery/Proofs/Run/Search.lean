import DocQuery.Proofs.Run.Replies

/-!
# What a search sends and returns

A search sends one query if it has no limit and two if it has one, the counting one first, and
goes on to fetch documents only if it could count (`Collection.answer_search_of_counted`,
`Collection.answer_search_of_count_error`). It succeeds exactly if the fetching query is answered
by rows alone and all of them are documents (`Collection.fetch_eq_ok_iff`); its result then holds
those documents, in order, and the query that fetched them.

`Collection.search_reconciles` puts this together for all requests and all replies.
-/

namespace DocQuery.Collection

variable {ε α : Type} (c : Collection α) (r : Request) (exhausted : ε)
  (replies : List (Reply ε))

/-- The result of a search holds the documents in these rows, in order, and the query that fetched
them. -/
structure Holds (rows : List Json) (s : SearchResult α) : Prop where
  documents : List.Forall₂ (fun row document => c.decode row = .ok document) rows s.documents
  query : s.query = c.searchQuery r

/-- How the result of a search comes about from replies to the queries it sent. -/
inductive Reconciles (reply : Nat → Reply ε) : List Query → SearchResult α → Prop
  /-- Without a limit the rows are the total. -/
  | unlimited {rows : List Json} {s : SearchResult α} (hlimit : r.limit = none)
      (hrows : reply 0 = .ok (.ofRows rows)) (hs : c.Holds r rows s)
      (htotal : s.total = rows.length) : Reconciles reply [c.searchQuery r] s
  /-- With a limit the total is the count, or the number of rows if that is larger. -/
  | limited {counted : Nat} {rows : List Json} {s : SearchResult α} (hlimit : r.limit.isSome)
      (hcount : SaysCount (reply 0) (.ok counted)) (hrows : reply 1 = .ok (.ofRows rows))
      (hs : c.Holds r rows s) (htotal : s.total = max counted rows.length) :
      Reconciles reply [c.countQuery r, c.searchQuery r] s

variable {c r} in
/-- The result names the query that was sent last. -/
theorem Reconciles.getLast?_queries {reply : Nat → Reply ε} {queries : List Query}
    {s : SearchResult α} (h : c.Reconciles r reply queries s) :
    queries.getLast? = some s.query := by
  cases h with
  | unlimited hlimit hrows hs htotal => rw [hs.query, List.getLast?_singleton]
  | limited hlimit hcount hrows hs htotal =>
    rw [hs.query, List.getLast?_cons_cons, List.getLast?_singleton]

variable {c r} in
/-- No result holds more documents than its total. -/
theorem Reconciles.length_le_total {reply : Nat → Reply ε} {queries : List Query}
    {s : SearchResult α} (h : c.Reconciles r reply queries s) : s.documents.length ≤ s.total := by
  cases h with
  | unlimited hlimit hrows hs htotal =>
    exact Nat.le_of_eq (hs.documents.length_eq.symm.trans htotal.symm)
  | limited hlimit hcount hrows hs htotal =>
    rw [htotal, ← hs.documents.length_eq]
    exact Nat.le_max_right _ _

/-! ### Counting -/

theorem answer_count :
    ((c.count r : Run ε Nat).answer exhausted replies) =
      ⟨readCount (replyAt exhausted replies 0), [c.countQuery r],
        [.announce .count (c.countQuery r)], replies.tail⟩ :=
  Dialogue.answer_ask exhausted .count (c.countQuery r) _ replies

/-! ### Fetching -/

private theorem queries_reconcile (counted : Nat) (rows : List Json) :
    ((c.reconcile r counted rows).answer exhausted replies).queries = [] := by
  rw [reconcile]
  split_ifs <;> rfl

/-- Fetching sends its query and no other. -/
theorem queries_fetch (counted : Nat) :
    ((c.fetch r counted).answer exhausted replies).queries = [c.searchQuery r] := by
  rw [fetch, Dialogue.answer_ask]
  cases allRows (replyAt exhausted replies 0) with
  | error e => rfl
  | ok rows => simp only [Run.orElseStop_ok, queries_reconcile]

/-- All rows are there before the first is decoded, and the total and the query are settled then. -/
theorem result_fetch (counted : Nat) :
    ((c.fetch r counted).answer exhausted replies).result = do
      let rows ← allRows (replyAt exhausted replies 0)
      let documents ← rows.mapM (decodeRow c.decode)
      return ⟨max counted rows.length, documents, c.searchQuery r⟩ := by
  rw [fetch, Dialogue.answer_ask]
  cases allRows (replyAt exhausted replies 0) with
  | error e => rfl
  | ok rows =>
    rw [Run.orElseStop_ok, reconcile]
    split_ifs <;> rfl

/-- **Fetching succeeds** exactly if the reply consists of rows, all of which are documents. -/
theorem fetch_eq_ok_iff {counted : Nat} {s : SearchResult α} :
    ((c.fetch r counted).answer exhausted replies).result = .ok s ↔
      ∃ rows, replyAt exhausted replies 0 = .ok (.ofRows rows) ∧ c.Holds r rows s ∧
        s.total = max counted rows.length := by
  rw [result_fetch]
  simp only [Except.bind_eq_ok_iff, allRows_eq_ok_iff, mapM_decodeRow_eq_ok_iff]
  constructor
  · rintro ⟨rows, hrows, documents, hdocuments, hs⟩
    obtain rfl := Except.ok.inj hs
    exact ⟨rows, hrows, ⟨hdocuments, rfl⟩, rfl⟩
  · rintro ⟨rows, hrows, ⟨hdocuments, hquery⟩, htotal⟩
    refine ⟨rows, hrows, s.documents, hdocuments, ?_⟩
    rw [← hquery, ← htotal]
    rfl

/-! ### Searching -/

theorem answer_search_of_limit (h : r.limit.isSome) :
    (c.search r).answer exhausted replies =
      let rest := (Run.orElseStop (readCount (replyAt exhausted replies 0)) fun counted =>
        c.fetch r counted).answer exhausted replies.tail
      ⟨rest.result, c.countQuery r :: rest.queries,
        .announce .count (c.countQuery r) :: rest.log, rest.remaining⟩ := by
  rw [search_of_limit h, Dialogue.answer_ask]

/-- A search with a limit fetches documents after it has counted them. -/
theorem answer_search_of_counted (h : r.limit.isSome) {counted : Nat}
    (hcount : SaysCount (replyAt exhausted replies 0) (.ok counted)) :
    let exchange := (c.search r).answer exhausted replies
    let fetching := (c.fetch r counted).answer exhausted replies.tail
    exchange.result = fetching.result ∧
      exchange.queries = [c.countQuery r, c.searchQuery r] := by
  rw [c.answer_search_of_limit r exhausted replies h, readCount_eq_iff.mpr hcount]
  simp only [Run.orElseStop_ok, queries_fetch, and_self]

/-- A search that cannot count ends there. -/
theorem answer_search_of_count_error (h : r.limit.isSome) {e : RunError ε}
    (hcount : SaysCount (replyAt exhausted replies 0) (.error e)) :
    let exchange := (c.search r).answer exhausted replies
    exchange.result = .error e ∧ exchange.queries = [c.countQuery r] := by
  rw [c.answer_search_of_limit r exhausted replies h, readCount_eq_iff.mpr hcount]
  exact ⟨rfl, rfl⟩

variable {c r exhausted replies} in
/-- A result that reconciles the replies is the result of the search. -/
theorem Reconciles.answer_search {queries : List Query} {s : SearchResult α}
    (h : c.Reconciles r (replyAt exhausted replies) queries s) :
    let exchange := (c.search r).answer exhausted replies
    exchange.result = .ok s ∧ exchange.queries = queries := by
  cases h with
  | @unlimited rows _ hlimit hrows hs htotal =>
    rw [search_of_limit_none hlimit]
    refine ⟨?_, c.queries_fetch r exhausted replies 0⟩
    refine (c.fetch_eq_ok_iff r exhausted replies).mpr ⟨rows, hrows, hs, ?_⟩
    rw [htotal, Nat.zero_max]
  | @limited counted rows _ hlimit hcount hrows hs htotal =>
    obtain ⟨hresult, hqueries⟩ := c.answer_search_of_counted r exhausted replies hlimit hcount
    refine ⟨hresult.trans ?_, hqueries⟩
    exact (c.fetch_eq_ok_iff r exhausted replies.tail).mpr
      ⟨rows, (replyAt_tail exhausted replies 0).trans hrows, hs, htotal⟩

/-- **A search succeeds** exactly if its result reconciles the replies to what it sent. -/
theorem search_eq_ok_iff {s : SearchResult α} :
    let exchange := (c.search r).answer exhausted replies
    exchange.result = .ok s ↔
      c.Reconciles r (replyAt exhausted replies) exchange.queries s := by
  refine ⟨fun h => ?_, fun h => h.answer_search.1⟩
  by_cases hlimit : r.limit.isSome
  · cases hcount : readCount (replyAt exhausted replies 0) with
    | error e =>
      -- without a count there is no result
      have hsays := readCount_eq_iff.mp hcount
      have hresult := (c.answer_search_of_count_error r exhausted replies hlimit hsays).1
      rw [hresult] at h
      exact absurd h (by simp)
    | ok counted =>
      have hsays := readCount_eq_iff.mp hcount
      obtain ⟨hresult, hqueries⟩ := c.answer_search_of_counted r exhausted replies hlimit hsays
      rw [hresult, fetch_eq_ok_iff] at h
      obtain ⟨rows, hrows, hs, htotal⟩ := h
      rw [hqueries]
      exact .limited hlimit hsays ((replyAt_tail exhausted replies 0).symm.trans hrows) hs htotal
  · -- nothing is counted, and zero leaves the number of rows as the total
    have hnone : r.limit = none := Option.not_isSome_iff_eq_none.mp hlimit
    rw [search_of_limit_none hnone, fetch_eq_ok_iff] at h
    obtain ⟨rows, hrows, hs, htotal⟩ := h
    rw [search_of_limit_none hnone, queries_fetch]
    exact .unlimited hnone hrows hs (htotal.trans (Nat.zero_max _))

/-- **Reconciliation.** A search succeeds exactly if its result reconciles the replies: one query
was sent without a limit and two with one, the counting one first; the total is the number of rows
or, under a limit, the larger of that and the count; and the documents are those of all rows, in
order. The result then names the query that was received last. A search that cannot count under a
limit returns the reason and sends nothing else. -/
theorem search_reconciles (c : Collection α) (r : Request) (exhausted : ε)
    (replies : List (Reply ε)) :
    let exchange := (c.search r).answer exhausted replies
    let reply := replyAt exhausted replies
    (∀ s, exchange.result = .ok s ↔ c.Reconciles r reply exchange.queries s) ∧
    (∀ s, exchange.result = .ok s →
      exchange.queries.getLast? = some s.query ∧ s.documents.length ≤ s.total) ∧
    (∀ e, r.limit.isSome → SaysCount (reply 0) (.error e) →
      exchange.result = .error e ∧ exchange.queries = [c.countQuery r]) := by
  refine ⟨fun s => c.search_eq_ok_iff r exhausted replies, fun s h => ?_,
    fun e hlimit hcount => c.answer_search_of_count_error r exhausted replies hlimit hcount⟩
  have hs := (c.search_eq_ok_iff r exhausted replies).mp h
  exact ⟨hs.getLast?_queries, hs.length_le_total⟩

/-- The total of a collection that grew after it was counted. -/
example :
    let search : Run Unit (SearchResult Json) := (named "pets").search { limit := some ⟨5, none⟩ }
    let exchange := search.answer () [.ok (.ofRows [.int 1]), .ok (.ofRows [.null, .null])]
    exchange.result.toOption.map SearchResult.total = some 2 := by
  rfl

end DocQuery.Collection
