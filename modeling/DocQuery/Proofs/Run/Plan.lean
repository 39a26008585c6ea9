import DocQuery.Proofs.Run.Replies

/-!
# What a run sends is settled beforehand

Before a run begins it is settled which queries it may send and in which order
(`Collection.plan`): replies decide at most that it stops early. `Dialogue.KeepsTo` says so of
dialogues, by the steps they take, and has it that a dialogue with a good result has sent its whole
plan. By induction on the steps, the queries of an exchange are the beginning of the plan
(`Dialogue.KeepsTo.queries_prefix`), and replies behind the length of the plan do not matter
(`Dialogue.KeepsTo.answer_congr`). Any dialogue takes one reply for each query
(`Dialogue.remaining_answer`).

In a session, calls follow one another on one queue of replies. What a call finds of those before it
is that one reply is gone for each query they sent (`Dialogue.answerAll_append`), and nothing else.

Runs keep to their plans (`Collection.run_keepsTo`). A request matters to a run by its queries and
by whether it has a limit, and by nothing else (`Collection.run_congr`).
`Collection.answer_run_planned` draws the conclusions for all runs, requests and sessions.
-/

namespace DocQuery

variable {ε α β : Type}

/-! ### Replies that are taken -/

namespace Dialogue

/-- **One reply is taken for each query**, as long as there are any. -/
theorem remaining_answer (exhausted : ε) (d : Dialogue ε α) (replies : List (Reply ε)) :
    (d.answer exhausted replies).remaining =
      replies.drop (d.answer exhausted replies).queries.length := by
  induction d generalizing replies with
  | done a => rfl
  | note event next ih => exact ih replies
  | send query next ih =>
    cases replies with
    | nil => exact (ih (.error exhausted) []).trans (List.drop_nil.trans List.drop_nil.symm)
    | cons reply replies => exact ih reply replies

/-- The queries that dialogues send in a session. -/
def sentIn (exhausted : ε) (ds : List (Dialogue ε α)) (replies : List (Reply ε)) : List Query :=
  (answerAll exhausted ds replies).flatMap Exchange.queries

/-- **Dialogues leave nothing behind in a session** but the replies they have not taken. -/
theorem answerAll_append (exhausted : ε) (ds es : List (Dialogue ε α))
    (replies : List (Reply ε)) :
    answerAll exhausted (ds ++ es) replies = answerAll exhausted ds replies ++
      answerAll exhausted es (replies.drop (sentIn exhausted ds replies).length) := by
  induction ds generalizing replies with
  | nil => rfl
  | cons d ds ih =>
    have hsent : (sentIn exhausted (d :: ds) replies).length =
        (d.answer exhausted replies).queries.length +
          (sentIn exhausted ds (d.answer exhausted replies).remaining).length := by
      rw [sentIn, answerAll, List.flatMap_cons, List.length_append]
      rfl
    rw [hsent, ← List.drop_drop, ← remaining_answer, List.cons_append, answerAll, ih]
    rfl

theorem length_answerAll (exhausted : ε) (ds : List (Dialogue ε α)) (replies : List (Reply ε)) :
    (answerAll exhausted ds replies).length = ds.length := by
  induction ds generalizing replies with
  | nil => rfl
  | cons d ds ih => exact congrArg (· + 1) (ih _)

/-- The exchange of one dialogue in a session. -/
theorem getElem?_answerAll (exhausted : ε) (before after : List (Dialogue ε α))
    (d : Dialogue ε α) (replies : List (Reply ε)) :
    (answerAll exhausted (before ++ d :: after) replies)[before.length]? =
      some (d.answer exhausted (replies.drop (sentIn exhausted before replies).length)) := by
  rw [answerAll_append, List.getElem?_append_right (Nat.le_of_eq (length_answerAll _ _ _)),
    length_answerAll, Nat.sub_self]
  rfl

/-! ### Results in another type -/

/-- The dialogue whose result is put through a function. -/
def map (f : α → β) (d : Dialogue ε α) : Dialogue ε β :=
  d.andThen fun a => .done (f a)

end Dialogue

/-- The exchange whose result is put through a function. -/
def Exchange.map (f : α → β) (x : Exchange ε α) : Exchange ε β :=
  ⟨f x.result, x.queries, x.log, x.remaining⟩

theorem Dialogue.answer_map (f : α → β) (exhausted : ε) (d : Dialogue ε α)
    (replies : List (Reply ε)) :
    (d.map f).answer exhausted replies = (d.answer exhausted replies).map f := by
  rw [map, answer_andThen]
  simp [answer, Exchange.map]

/-! ### Plans -/

namespace Dialogue

/-- The dialogue sends the queries of a plan, in order. It may end before it has sent them all, but
not with a good result. -/
inductive KeepsTo (good : α → Prop) : List Query → Dialogue ε α → Prop
  | done {plan : List Query} {a : α} (h : good a → plan = []) : KeepsTo good plan (.done a)
  | note (event : Event) {plan : List Query} {d : Dialogue ε α} (h : KeepsTo good plan d) :
      KeepsTo good plan (.note event d)
  | send (q : Query) {plan : List Query} {next : Reply ε → Dialogue ε α}
      (h : ∀ reply, KeepsTo good plan (next reply)) : KeepsTo good (q :: plan) (.send q next)

namespace KeepsTo

variable {good : α → Prop} {plan : List Query} {d : Dialogue ε α}

theorem ask (purpose : Purpose) (q : Query) {next : Reply ε → Dialogue ε α}
    (h : ∀ reply, (next reply).KeepsTo good plan) :
    (Dialogue.ask purpose q next).KeepsTo good (q :: plan) :=
  .note _ (.send q h)

/-- The queries of an exchange are the beginning of the plan. -/
theorem queries_prefix (h : d.KeepsTo good plan) (exhausted : ε) (replies : List (Reply ε)) :
    (d.answer exhausted replies).queries <+: plan := by
  induction h generalizing replies with
  | done _ => exact List.nil_prefix
  | note event _ ih => exact ih replies
  | send q _ ih =>
    cases replies with
    | nil => exact List.cons_prefix_cons.mpr ⟨rfl, ih (.error exhausted) []⟩
    | cons reply replies => exact List.cons_prefix_cons.mpr ⟨rfl, ih reply replies⟩

/-- With a good result the whole plan was sent. -/
theorem queries_eq (h : d.KeepsTo good plan) (exhausted : ε) {replies : List (Reply ε)}
    (hgood : good (d.answer exhausted replies).result) :
    (d.answer exhausted replies).queries = plan := by
  induction h generalizing replies with
  | done h => exact (h hgood).symm
  | note event _ ih => exact ih hgood
  | send q _ ih =>
    cases replies with
    | nil => exact congrArg (q :: ·) (ih (.error exhausted) hgood)
    | cons reply replies => exact congrArg (q :: ·) (ih reply hgood)

/-- **Replies behind the length of the plan do not matter.** -/
theorem answer_congr (h : d.KeepsTo good plan) (exhausted : ε) {replies replies' : List (Reply ε)}
    (hreplies : replies.take plan.length = replies'.take plan.length) :
    let x := d.answer exhausted replies
    let y := d.answer exhausted replies'
    x.result = y.result ∧ x.queries = y.queries ∧ x.log = y.log := by
  induction h generalizing replies replies' with
  | done _ => exact ⟨rfl, rfl, rfl⟩
  | note event _ ih =>
    obtain ⟨hresult, hqueries, hlog⟩ := ih hreplies
    exact ⟨hresult, hqueries, congrArg (event :: ·) hlog⟩
  | send q _ ih =>
    -- the queues are both empty, or they agree on the reply that is taken and go on to agree
    cases replies with
    | nil =>
      cases replies' with
      | nil => exact ⟨rfl, rfl, rfl⟩
      | cons reply' replies' => exact absurd hreplies (by simp)
    | cons reply replies =>
      cases replies' with
      | nil => exact absurd hreplies (by simp)
      | cons reply' replies' =>
        obtain ⟨rfl, hrest⟩ := List.cons.inj hreplies
        obtain ⟨hresult, hqueries, hlog⟩ := ih reply hrest
        exact ⟨hresult, congrArg (q :: ·) hqueries, hlog⟩

end KeepsTo

end Dialogue

/-! ### Runs -/

/-- What a run for a purpose returns. -/
def Purpose.Result (α : Type) : Purpose → Type
  | .count => Nat
  | .find => Option α
  | .search => SearchResult α

/-- The run sends the queries of a plan, in order, and all of them if it succeeds. -/
abbrev Run.KeepsTo (plan : List Query) (run : Run ε α) : Prop :=
  Dialogue.KeepsTo (fun result => result.isOk) plan run

/-- A run may stop at an error with any plan. -/
theorem Run.orElseStop_keepsTo {plan : List Query} (result : Except (RunError ε) α)
    {next : α → Run ε β} (h : ∀ a, Run.KeepsTo plan (next a)) :
    Run.KeepsTo plan (Run.orElseStop result next) := by
  cases result with
  | ok a => exact h a
  | error e => exact .done fun hok => Bool.noConfusion hok

namespace Collection

variable (c : Collection α) (r : Request)

/-- The run on a collection for a purpose. -/
def run : (purpose : Purpose) → Run ε (purpose.Result α)
  | .count => c.count r
  | .find => c.find r
  | .search => c.search r

/-- The queries that a run may send. A search with a limit counts first. -/
def plan : Purpose → List Query
  | .count => [c.countQuery r]
  | .find => [c.findQuery r]
  | .search => if r.limit.isSome then [c.countQuery r, c.searchQuery r] else [c.searchQuery r]

/-- The query for a purpose. -/
def queryFor : Purpose → Query
  | .count => c.countQuery r
  | .find => c.findQuery r
  | .search => c.searchQuery r

/-- A run depends on a request by its queries, and by whether it has a limit. -/
theorem run_congr {c : Collection α} {r r' : Request}
    (hqueries : ∀ purpose, c.queryFor r purpose = c.queryFor r' purpose)
    (hlimit : r.limit = r'.limit) (purpose : Purpose) :
    (c.run r purpose : Run ε _) = c.run r' purpose := by
  have hcountQuery : c.countQuery r = c.countQuery r' := hqueries .count
  have hfetch (counted : Nat) : (c.fetch r counted : Run ε _) = c.fetch r' counted := by
    have hquery : c.searchQuery r = c.searchQuery r' := hqueries .search
    simp only [fetch, reconcile, hquery, hlimit]
  rcases purpose with - | - | -
  · rw [run, run, count, count, hcountQuery]
  · rw [run, run, find, find, show c.findQuery r = c.findQuery r' from hqueries .find]
  · change (c.search r : Run ε _) = c.search r'
    by_cases h : r.limit.isSome
    · rw [search_of_limit h, search_of_limit (hlimit ▸ h), hcountQuery]
      simp only [hfetch]
    · have hnone : r.limit = none := Option.not_isSome_iff_eq_none.mp h
      rw [search_of_limit_none hnone, search_of_limit_none (hlimit ▸ hnone), hfetch]

/-! ### Runs keep to their plans -/

private theorem reconcile_keepsTo (counted : Nat) (rows : List Json) :
    Run.KeepsTo [] (c.reconcile r counted rows : Run ε _) := by
  rw [reconcile]
  refine .note _ ?_
  split
  · exact .note _ (.done fun _ => rfl)
  · exact .done fun _ => rfl

private theorem fetch_keepsTo (counted : Nat) :
    Run.KeepsTo [c.searchQuery r] (c.fetch r counted : Run ε _) := by
  refine .ask _ _ fun reply => ?_
  exact Run.orElseStop_keepsTo _ fun rows => c.reconcile_keepsTo r counted rows

private theorem search_keepsTo : Run.KeepsTo (c.plan r .search) (c.search r : Run ε _) := by
  rw [plan]
  by_cases hlimit : r.limit.isSome
  · rw [if_pos hlimit, search_of_limit hlimit]
    refine .ask _ _ fun reply => ?_
    -- only here can a run stop with a query left
    exact Run.orElseStop_keepsTo (readCount reply) fun counted => c.fetch_keepsTo r counted
  · rw [if_neg hlimit, search_of_limit_none (Option.not_isSome_iff_eq_none.mp hlimit)]
    exact c.fetch_keepsTo r 0

/-- Runs send what is planned, and all of it if they succeed. -/
theorem run_keepsTo (purpose : Purpose) :
    Run.KeepsTo (c.plan r purpose) (c.run r purpose : Run ε _) := by
  cases purpose with
  | count => exact .ask _ _ fun _ => .done fun _ => rfl
  | find => exact .ask _ _ fun _ => .done fun _ => rfl
  | search => exact c.search_keepsTo r

/-- Runs begin with a query. -/
theorem exists_run_eq_ask (purpose : Purpose) :
    ∃ first query next, (c.run r purpose : Run ε _) = .ask first query next := by
  cases purpose with
  | count => exact ⟨_, _, _, rfl⟩
  | find => exact ⟨_, _, _, rfl⟩
  | search =>
    by_cases hlimit : r.limit.isSome
    · exact ⟨.count, c.countQuery r, _, search_of_limit hlimit⟩
    · have hnone : r.limit = none := Option.not_isSome_iff_eq_none.mp hlimit
      exact ⟨.search, c.searchQuery r, _, search_of_limit_none hnone⟩

/-- Whatever the replies, a query is sent. -/
theorem queries_run_ne_nil (purpose : Purpose) (exhausted : ε) (replies : List (Reply ε)) :
    ((c.run r purpose : Run ε _).answer exhausted replies).queries ≠ [] := by
  obtain ⟨first, query, next, hask⟩ := c.exists_run_eq_ask (ε := ε) r purpose
  rw [hask, Dialogue.answer_ask]
  exact List.cons_ne_nil _ _

theorem length_plan (purpose : Purpose) :
    (c.plan r purpose).length = if purpose = .search ∧ r.limit.isSome then 2 else 1 := by
  cases purpose with
  | search => cases h : r.limit <;> simp [plan, h]
  | _ => simp [plan]

/-! ### Runs in sessions -/

/-- **Runs share nothing but the replies they take.** A run has a plan of one query, or two if it is
a search with a limit. In a session with any other calls before and after it, it is answered from
what those before have left. It then sends the beginning of its plan, one query at least and all of
them if it succeeds, and takes one reply for each. Nothing else in the queue has any influence. -/
theorem answer_run_planned (c : Collection α) (r : Request) (purpose : Purpose) (exhausted : ε) :
    let run : Run ε (purpose.Result α) := c.run r purpose
    let plan := c.plan r purpose
    plan.length = (if purpose = .search ∧ r.limit.isSome then 2 else 1) ∧
    (∀ (β : Type) (encode : Except (RunError ε) (purpose.Result α) → β)
      (before after : List (Dialogue ε β)) (replies : List (Reply ε)),
      let queue := replies.drop (Dialogue.sentIn exhausted before replies).length
      (Dialogue.answerAll exhausted (before ++ run.map encode :: after) replies)[before.length]? =
        some ((run.answer exhausted queue).map encode)) ∧
    (∀ queue,
      let x := run.answer exhausted queue
      x.queries ≠ [] ∧ x.queries <+: plan ∧ (x.result.isOk → x.queries = plan) ∧
        x.remaining = queue.drop x.queries.length) ∧
    ∀ queue queue', queue.take plan.length = queue'.take plan.length →
      let x := run.answer exhausted queue
      let y := run.answer exhausted queue'
      x.result = y.result ∧ x.queries = y.queries ∧ x.log = y.log := by
  intro run plan
  have hrun : Run.KeepsTo plan run := c.run_keepsTo r purpose
  refine ⟨c.length_plan r purpose, fun β encode before after replies => ?_, fun queue => ?_,
    fun queue queue' h => hrun.answer_congr exhausted h⟩
  · rw [Dialogue.getElem?_answerAll, Dialogue.answer_map]
  · refine ⟨?_, hrun.queries_prefix exhausted queue, hrun.queries_eq exhausted,
      run.remaining_answer exhausted queue⟩
    obtain ⟨first, query, next, hask⟩ := c.exists_run_eq_ask (ε := ε) r purpose
    change (Dialogue.answer exhausted (c.run r purpose) queue).queries ≠ []
    rw [hask, Dialogue.answer_ask]
    exact List.cons_ne_nil _ _

/-- A limited search that has no reply to its count leaves its second query unsent. -/
example :
    let r : Request := { limit := some ⟨3, none⟩ }
    let x := ((named "pets").run r .search : Run Unit _).answer () []
    x.queries = [(named "pets").countQuery r] := by
  rfl

end Collection

end DocQuery
