import DocQuery.Proofs.Query.Assembly
import DocQuery.Proofs.Run.Comparison

/-!
# What the log tells

A run announces each query before it sends it, by what the query is for and how many variables it
binds (`Collection.announce`). A search goes on to note the number of rows it has fetched, beside
the number of documents that it counted before (`Request.arrivalNotes`). That is all there is in
the log (`Collection.Accounts`).

What is sent and what has arrived is told by the replies alone (`Request.Sends`,
`Request.Fetches`). A search that cannot count ends there. Otherwise the rows are noted as soon as
the cursor has yielded them all, and whether they are documents does not matter
(`Collection.log_fetch_of_rows`). If anything else is the reply, the announcement is the last line
(`Collection.log_fetch_of_error`).

The variables of a query are the name of the collection and one for each bound part of the fragments
that are used in it (`Collection.length_bindVars_queryFor`). `Collection.answer_run_accounts` puts
this together for all runs, those with terms in JSON included.
-/

namespace DocQuery

variable {ε α : Type}

/-! ### Variables of a query -/

namespace Fragment

/-- The number of parts that are bound. -/
def boundCount (f : Fragment) : Nat :=
  f.parts.countP Part.isBound

theorem length_bindVars_query (f : Fragment) : f.query.bindVars.length = f.boundCount :=
  length_bindingsFrom 0 f.parts

@[simp]
theorem boundCount_empty : ({} : Fragment).boundCount = 0 := rfl

@[simp]
theorem boundCount_literal (f : Fragment) (text : String) :
    (f.literal text).boundCount = f.boundCount := by
  rw [boundCount, parts_literal, List.countP_append]
  split_ifs <;> rfl

@[simp]
theorem boundCount_collection (f : Fragment) (name : String) :
    (f.collection name).boundCount = f.boundCount + 1 := by
  rw [boundCount, parts_collection, List.countP_append]
  rfl

@[simp]
theorem boundCount_appendOption (f : Fragment) (slot : Option Fragment) :
    (f.appendOption slot).boundCount = f.boundCount + (slotParts slot).countP Part.isBound := by
  rcases slot with - | g
  · rfl
  · rw [boundCount, parts_appendOption_some, List.countP_append]
    rfl

end Fragment

/-- The fragments that are used in a query for this purpose, in order. Counting passes one over. -/
def Injection.usedFor (inject : Injection) : Purpose → List (Option Fragment)
  | .count => [inject.beforeFilter, inject.beforeLimit, inject.after]
  | .find | .search =>
    [inject.beforeFilter, inject.beforeSort, inject.beforeLimit, inject.after]

namespace Collection

variable (c : Collection α) (r : Request)

theorem length_bindVars_fetchQuery (keys : List SortKey) (limit : String) :
    (c.fetchQuery r keys limit).bindVars.length =
      1 + ((r.injection.usedFor .search).flatMap slotParts).countP Part.isBound := by
  rw [fetchQuery, Fragment.length_bindVars_query]
  simp [matching, Injection.usedFor, List.countP_append, Nat.add_assoc]

/-- **A query binds one variable more than its fragments do**, the name of the collection. -/
theorem length_bindVars_queryFor (purpose : Purpose) :
    (c.queryFor r purpose).bindVars.length =
      1 + ((r.injection.usedFor purpose).flatMap slotParts).countP Part.isBound := by
  rcases purpose with - | - | -
  · rw [queryFor, countQuery, Fragment.length_bindVars_query]
    simp [matching, Injection.usedFor, List.countP_append, Nat.add_assoc]
  · exact c.length_bindVars_fetchQuery r _ _
  · exact c.length_bindVars_fetchQuery r _ _

end Collection

/-! ### Accounts -/

namespace Request

variable (r : Request)

/-- What the queries of a run are for, in order, with these replies. -/
inductive Sends (reply : Nat → Reply ε) : Purpose → List Purpose → Prop
  | count : Sends reply .count [.count]
  | find : Sends reply .find [.find]
  | unlimited (hlimit : r.limit = none) : Sends reply .search [.search]
  | limited {counted : Nat} (hlimit : r.limit.isSome)
      (hcount : SaysCount (reply 0) (.ok counted)) : Sends reply .search [.count, .search]
  /-- Without a count the documents are not asked for. -/
  | stopped {e : RunError ε} (hlimit : r.limit.isSome)
      (hcount : SaysCount (reply 0) (.error e)) : Sends reply .search [.count]

/-- From these replies a search has fetched rows, after it has counted documents. -/
inductive Fetches (reply : Nat → Reply ε) : (counted : Nat) → (rows : List Json) → Prop
  /-- Without a limit nothing is counted. -/
  | unlimited {rows : List Json} (hlimit : r.limit = none) (hrows : reply 0 = .ok (.ofRows rows)) :
      Fetches reply 0 rows
  | limited {counted : Nat} {rows : List Json} (hlimit : r.limit.isSome)
      (hcount : SaysCount (reply 0) (.ok counted)) (hrows : reply 1 = .ok (.ofRows rows)) :
      Fetches reply counted rows

/-- What is noted when all rows of a search are there. There is a warning if a limit was given and
more documents came back than were counted. -/
def arrivalNotes (counted returned : Nat) : List Event :=
  .reconciling counted returned ::
    if counted < returned ∧ r.limit.isSome then [.grown counted returned] else []

variable {r} in
theorem fetches_iff_of_limit_none (hlimit : r.limit = none) {reply : Nat → Reply ε} {counted : Nat}
    {rows : List Json} :
    r.Fetches reply counted rows ↔ counted = 0 ∧ reply 0 = .ok (.ofRows rows) := by
  constructor
  · rintro (⟨-, hrows⟩ | ⟨hsome, -, -⟩)
    · exact ⟨rfl, hrows⟩
    · simp [hlimit] at hsome
  · rintro ⟨rfl, hrows⟩
    exact .unlimited hlimit hrows

variable {r} in
theorem fetches_iff_of_counted (hlimit : r.limit.isSome) {reply : Nat → Reply ε} {n : Nat}
    (hcount : SaysCount (reply 0) (.ok n)) {counted : Nat} {rows : List Json} :
    r.Fetches reply counted rows ↔ counted = n ∧ reply 1 = .ok (.ofRows rows) := by
  constructor
  · rintro (⟨hnone, -⟩ | ⟨-, hcounted, hrows⟩)
    · simp [hnone] at hlimit
    · exact ⟨Except.ok.inj (hcounted.unique hcount), hrows⟩
  · rintro ⟨rfl, hrows⟩
    exact .limited hlimit hcount hrows

variable {r} in
/-- A search that cannot count fetches nothing. -/
theorem not_fetches_of_count_error (hlimit : r.limit.isSome) {reply : Nat → Reply ε}
    {e : RunError ε} (hcount : SaysCount (reply 0) (.error e)) (counted : Nat) (rows : List Json) :
    ¬ r.Fetches reply counted rows := by
  rintro (⟨hnone, -⟩ | ⟨-, hcounted, -⟩)
  · simp [hnone] at hlimit
  · exact absurd (hcounted.unique hcount) (by simp)

/-- What is in the log of a run behind its announcements. -/
inductive Notes (purpose : Purpose) (reply : Nat → Reply ε) : List Event → Prop
  /-- A search has fetched rows. -/
  | arrived {counted : Nat} {rows : List Json} (hpurpose : purpose = .search)
      (h : r.Fetches reply counted rows) :
      Notes purpose reply (r.arrivalNotes counted rows.length)
  /-- No rows have been fetched by a search. -/
  | nothing (h : ∀ counted rows, purpose = .search → ¬ r.Fetches reply counted rows) :
      Notes purpose reply []

end Request

namespace Collection

variable (c : Collection α) (r : Request) (exhausted : ε) (replies : List (Reply ε))

/-- The line in the log for a query that is about to be sent. -/
def announce (purpose : Purpose) : Event :=
  .announce purpose (c.queryFor r purpose)

/-- The log accounts for the queries of a run. It announces each of them, in the order in which the
database receives them, and goes on with what is noted about rows. -/
def Accounts (purpose : Purpose) (reply : Nat → Reply ε) (queries : List Query)
    (log : List Event) : Prop :=
  ∃ sent notes, r.Sends reply purpose sent ∧ queries = sent.map (c.queryFor r) ∧
    log = sent.map (c.announce r) ++ notes ∧ r.Notes purpose reply notes

/-! ### Fetching -/

private theorem log_reconcile (counted : Nat) (rows : List Json) :
    ((c.reconcile r counted rows).answer exhausted replies).log =
      r.arrivalNotes counted rows.length := by
  rw [reconcile, Request.arrivalNotes]
  split_ifs <;> rfl

/-- Rows are noted, whether they are documents or not. -/
theorem log_fetch_of_rows (counted : Nat) {rows : List Json}
    (hrows : replyAt exhausted replies 0 = .ok (.ofRows rows)) :
    ((c.fetch r counted).answer exhausted replies).log =
      c.announce r .search :: r.arrivalNotes counted rows.length := by
  rw [fetch, Dialogue.answer_ask, allRows_eq_ok_iff.mpr hrows]
  simp only [Run.orElseStop_ok, log_reconcile]
  rfl

/-- Without all rows the announcement is the last line. -/
theorem log_fetch_of_error (counted : Nat)
    (hrows : ∀ rows, replyAt exhausted replies 0 ≠ .ok (.ofRows rows)) :
    ((c.fetch r counted).answer exhausted replies).log = [c.announce r .search] := by
  rw [fetch, Dialogue.answer_ask]
  rcases h : allRows (replyAt exhausted replies 0) with e | rows
  · rfl
  · exact absurd (allRows_eq_ok_iff.mp h) (hrows rows)

/-- Fetching announces its query, and notes the rows if a search has fetched them. -/
private theorem exists_log_fetch {reply : Nat → Reply ε} {counted : Nat}
    (hfetches : ∀ n rows, r.Fetches reply n rows ↔
      n = counted ∧ replyAt exhausted replies 0 = .ok (.ofRows rows)) :
    ∃ notes, ((c.fetch r counted).answer exhausted replies).log = c.announce r .search :: notes ∧
      r.Notes .search reply notes := by
  by_cases h : ∃ rows, replyAt exhausted replies 0 = .ok (.ofRows rows)
  · obtain ⟨rows, hrows⟩ := h
    exact ⟨_, c.log_fetch_of_rows r exhausted replies counted hrows,
      .arrived rfl ((hfetches counted rows).mpr ⟨rfl, hrows⟩)⟩
  · have hrows (rows : List Json) : replyAt exhausted replies 0 ≠ .ok (.ofRows rows) :=
      fun hreply => h ⟨rows, hreply⟩
    refine ⟨[], c.log_fetch_of_error r exhausted replies counted hrows, .nothing ?_⟩
    exact fun n rows _ hn => hrows rows ((hfetches n rows).mp hn).2

/-! ### Runs -/

/-- With a limit, the count is announced first. -/
theorem log_search_of_limit (hlimit : r.limit.isSome) :
    ((c.search r).answer exhausted replies).log = c.announce r .count ::
      ((Run.orElseStop (readCount (replyAt exhausted replies 0)) fun counted =>
        c.fetch r counted).answer exhausted replies.tail).log :=
  congrArg Exchange.log (c.answer_search_of_limit r exhausted replies hlimit)

variable {c r exhausted replies}

private theorem accounts_search_of_limit_none (hlimit : r.limit = none) :
    let x := (c.search r).answer exhausted replies
    c.Accounts r .search (replyAt exhausted replies) x.queries x.log := by
  rw [search_of_limit_none hlimit]
  obtain ⟨notes, hlog, hnotes⟩ := c.exists_log_fetch r exhausted replies
    fun _ _ => Request.fetches_iff_of_limit_none hlimit
  exact ⟨[.search], notes, .unlimited hlimit, c.queries_fetch r exhausted replies 0, hlog, hnotes⟩

private theorem accounts_search_of_count_error (hlimit : r.limit.isSome) {e : RunError ε}
    (hcount : SaysCount (replyAt exhausted replies 0) (.error e)) :
    let x := (c.search r).answer exhausted replies
    c.Accounts r .search (replyAt exhausted replies) x.queries x.log := by
  intro x
  have hnothing : ∀ counted rows, Purpose.search = .search →
      ¬ r.Fetches (replyAt exhausted replies) counted rows :=
    fun counted rows _ => Request.not_fetches_of_count_error hlimit hcount counted rows
  refine ⟨[.count], [], .stopped hlimit hcount, ?_, ?_, .nothing hnothing⟩
  · exact (c.answer_search_of_count_error r exhausted replies hlimit hcount).2
  · refine (c.log_search_of_limit r exhausted replies hlimit).trans ?_
    rw [readCount_eq_iff.mpr hcount]
    rfl

private theorem accounts_search_of_counted (hlimit : r.limit.isSome) {counted : Nat}
    (hcount : SaysCount (replyAt exhausted replies 0) (.ok counted)) :
    let x := (c.search r).answer exhausted replies
    c.Accounts r .search (replyAt exhausted replies) x.queries x.log := by
  intro x
  -- fetching is answered by the second reply
  have hfetches (n : Nat) (rows : List Json) : r.Fetches (replyAt exhausted replies) n rows ↔
      n = counted ∧ replyAt exhausted replies.tail 0 = .ok (.ofRows rows) := by
    rw [replyAt_tail]
    exact Request.fetches_iff_of_counted hlimit hcount
  obtain ⟨notes, hlog, hnotes⟩ := c.exists_log_fetch r exhausted replies.tail hfetches
  refine ⟨[.count, .search], notes, .limited hlimit hcount, ?_, ?_, hnotes⟩
  · exact (c.answer_search_of_counted r exhausted replies hlimit hcount).2
  · refine (c.log_search_of_limit r exhausted replies hlimit).trans ?_
    rw [readCount_eq_iff.mpr hcount]
    exact congrArg (c.announce r .count :: ·) hlog

variable (c r exhausted replies)

/-- **The log of a run accounts for its queries.** -/
theorem accounts_run (purpose : Purpose) :
    let x := (c.run r purpose : Run ε _).answer exhausted replies
    c.Accounts r purpose (replyAt exhausted replies) x.queries x.log := by
  rcases purpose with - | - | -
  · have hx := c.answer_count r exhausted replies
    exact ⟨[.count], [], .count, congrArg Exchange.queries hx, congrArg Exchange.log hx,
      .nothing fun _ _ h => Purpose.noConfusion h⟩
  · have hx := answer_find (c := c) (r := r) exhausted replies
    exact ⟨[.find], [], .find, congrArg Exchange.queries hx, congrArg Exchange.log hx,
      .nothing fun _ _ h => Purpose.noConfusion h⟩
  · by_cases hlimit : r.limit.isSome
    · rcases hcount : readCount (replyAt exhausted replies 0) with e | counted
      · exact accounts_search_of_count_error hlimit (readCount_eq_iff.mp hcount)
      · exact accounts_search_of_counted hlimit (readCount_eq_iff.mp hcount)
    · exact accounts_search_of_limit_none (Option.not_isSome_iff_eq_none.mp hlimit)

/-- **The log is an account of the traffic.** Whatever the replies, it announces the queries that
the database receives, one by one and in order, each by what it is for and by the number of its
variables, which are the name of the collection and one for each bound part of the fragments that
are used in it. There is nothing else in the log, unless a search has fetched rows: then their
number and the count are noted behind the announcements, and a warning follows if a limit was given
and more came back than were counted. Terms in JSON that do not compile leave the log empty, and any
others are accounted for like terms that are given. -/
theorem answer_run_accounts (c : Collection α) (r : Request) (purpose : Purpose) (exhausted : ε)
    (replies : List (Reply ε)) :
    let run (r : Request) : Run ε (purpose.Result α) := c.run r purpose
    let reply := replyAt exhausted replies
    let x := (run r).answer exhausted replies
    let y (json : Json) := (withJsonTerms json r run).answer exhausted replies
    c.Accounts r purpose reply x.queries x.log ∧
    (∀ json terms, Terms.ofJson json = .ok terms →
      c.Accounts { r with terms := some terms } purpose reply (y json).queries (y json).log) ∧
    (∀ json e, Terms.ofJson json = .error e → (y json).queries = [] ∧ (y json).log = []) ∧
    ∀ stage, (c.queryFor r stage).bindVars.length =
      1 + ((r.injection.usedFor stage).flatMap slotParts).countP Part.isBound := by
  intro run reply x y
  refine ⟨c.accounts_run r exhausted replies purpose, fun json terms hterms => ?_,
    fun json e he => ?_, c.length_bindVars_queryFor r⟩
  · have hy : y json = (run { r with terms := some terms }).answer exhausted replies :=
      congrArg (Dialogue.answer exhausted · replies) (withJsonTerms_of_ok r run hterms)
    rw [hy]
    exact c.accounts_run _ exhausted replies purpose
  · have hy : y json = ⟨.error (.compile e), [], [], replies⟩ :=
      answer_withJsonTerms_of_error r run exhausted replies he
    rw [hy]
    exact ⟨rfl, rfl⟩

/-- A row that is no document is noted all the same. -/
example :
    let c := (named "pets").typed .word
    let r : Request :=
      { limit := some ⟨1, none⟩
        inject := some { beforeSort := some ⟨[.value .null, .literal "+", .value .null]⟩ } }
    let x := (c.search r).answer () [.ok [], .ok [.ok .null]]
    x.log = [.sending .count "FOR i IN @@value0 COLLECT WITH COUNT INTO n RETURN n" 1,
        .sending .search "FOR i IN @@value0 @value1 + @value2 SORT i._rev ASC LIMIT 1 RETURN i" 3,
        .reconciling 0 1, .grown 0 1] ∧
      x.result.isOk = false := by
  decide

end Collection

end DocQuery
