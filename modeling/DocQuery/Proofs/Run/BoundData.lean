import DocQuery.Collection.Run
import DocQuery.Proofs.Query.Alike

/-!
# Runs that differ in bound data

Two dialogues are alike if they note the same events, send alike queries and go on alike after
every reply (`Dialogue.Alike`). With the same replies their exchanges are alike throughout
(`Dialogue.Alike.answer`): as many queries, with the same texts and the same variables, and the
same log.

The runs of alike requests on alike collections are alike dialogues, because queries are built
from fragments whatever these bind, and nothing else in a run depends on what they bind. So the
contents of variables and the names of collections reach the database and, in a search, the query
of the result, but no text, no log and no other part of an outcome (`Collection.answer_alike`).
This holds of runs with terms in JSON too, because the terms are read before anything is bound
(`Collection.withJsonTerms_alike`).
-/

namespace DocQuery

variable {ε α β : Type}

/-! ### Dialogues -/

/-- Dialogues that differ at most in what their queries pass beside the text, and in results that
`R` relates. -/
inductive Dialogue.Alike (R : α → α → Prop) : Dialogue ε α → Dialogue ε α → Prop
  | done {a b : α} (h : R a b) : Alike R (.done a) (.done b)
  | note (event : Event) {d e : Dialogue ε α} (h : Alike R d e) :
      Alike R (.note event d) (.note event e)
  | send {q q' : Query} {next next' : Reply ε → Dialogue ε α} (hq : q.Alike q')
      (h : ∀ reply, Alike R (next reply) (next' reply)) :
      Alike R (.send q next) (.send q' next')

/-- Exchanges with as many queries, alike one by one, with the same log and the same replies left
over, and with results that `R` relates. -/
structure Exchange.Alike (R : α → α → Prop) (x y : Exchange ε α) : Prop where
  result : R x.result y.result
  queries : List.Forall₂ Query.Alike x.queries y.queries
  log : x.log = y.log
  remaining : x.remaining = y.remaining

namespace Dialogue.Alike

variable {R : α → α → Prop} {d e : Dialogue ε α}

/-- The note about a query tells its text and the number of its variables, which are the same. -/
theorem ask (purpose : Purpose) {q q' : Query} {next next' : Reply ε → Dialogue ε α}
    (hq : q.Alike q') (h : ∀ reply, (next reply).Alike R (next' reply)) :
    (Dialogue.ask purpose q next).Alike R (Dialogue.ask purpose q' next') := by
  rw [Dialogue.ask, Dialogue.ask, Event.announce, Event.announce, hq.text, hq.length_bindVars]
  exact .note _ (.send hq h)

/-- **Alike dialogues have alike exchanges**, whatever the replies. -/
theorem answer (h : d.Alike R e) (exhausted : ε) (replies : List (Reply ε)) :
    (d.answer exhausted replies).Alike R (e.answer exhausted replies) := by
  -- both sides take the same reply at each query, so one list serves both
  induction h generalizing replies with
  | done hab => exact ⟨hab, .nil, rfl, rfl⟩
  | note event _ ih =>
    have hrest := ih replies
    exact ⟨hrest.result, hrest.queries, congrArg (event :: ·) hrest.log, hrest.remaining⟩
  | send hq _ ih =>
    cases replies with
    | nil =>
      have hrest := ih (.error exhausted) []
      exact ⟨hrest.result, .cons hq hrest.queries, hrest.log, hrest.remaining⟩
    | cons reply replies =>
      have hrest := ih reply replies
      exact ⟨hrest.result, .cons hq hrest.queries, hrest.log, hrest.remaining⟩

end Dialogue.Alike

/-! ### Outcomes -/

/-- Outcomes that are the same error, or results that `R` relates. -/
inductive OutcomeAlike (R : α → α → Prop) :
    Except (RunError ε) α → Except (RunError ε) α → Prop
  | error (e : RunError ε) : OutcomeAlike R (.error e) (.error e)
  | ok {a b : α} (h : R a b) : OutcomeAlike R (.ok a) (.ok b)

/-- Results of searches that differ at most in what their queries pass beside the text. -/
structure SearchResult.Alike (s t : SearchResult α) : Prop where
  total : s.total = t.total
  documents : s.documents = t.documents
  query : s.query.Alike t.query

theorem Run.orElseStop_alike {R : β → β → Prop} (result : Except (RunError ε) α)
    {next next' : α → Run ε β} (h : ∀ a, (next a).Alike (OutcomeAlike R) (next' a)) :
    (Run.orElseStop result next).Alike (OutcomeAlike R) (Run.orElseStop result next') := by
  cases result with
  | error e => exact .done (.error e)
  | ok a => exact h a

/-! ### Runs -/

namespace Collection

variable {c d : Collection α} {r r' : Request}

theorem count_alike (hc : c.Alike d) (hr : r.Alike r') :
    (c.count r : Run ε Nat).Alike Eq (d.count r') :=
  .ask .count (countQuery_alike hc hr) fun _ => .done rfl

theorem find_alike (hc : c.Alike d) (hr : r.Alike r') :
    (c.find r : Run ε (Option α)).Alike Eq (d.find r') := by
  refine .ask .find (findQuery_alike hc hr) fun reply => .done ?_
  rw [readFirst, readFirst, hc.decode]

theorem reconcile_alike (hc : c.Alike d) (hr : r.Alike r') (counted : Nat) (rows : List Json) :
    (c.reconcile r counted rows : Run ε (SearchResult α)).Alike (OutcomeAlike SearchResult.Alike)
      (d.reconcile r' counted rows) := by
  rw [reconcile, reconcile, hc.decode, hr.limit]
  refine .note _ ?_
  have hresult : OutcomeAlike SearchResult.Alike (ε := ε)
      (do
        let documents ← rows.mapM (decodeRow d.decode)
        return ⟨max counted rows.length, documents, c.searchQuery r⟩)
      (do
        let documents ← rows.mapM (decodeRow d.decode)
        return ⟨max counted rows.length, documents, d.searchQuery r'⟩) := by
    cases rows.mapM (decodeRow d.decode) with
    | error e => exact .error e
    | ok documents => exact .ok ⟨rfl, rfl, searchQuery_alike hc hr⟩
  split_ifs
  · exact .note _ (.done hresult)
  · exact .done hresult

theorem fetch_alike (hc : c.Alike d) (hr : r.Alike r') (counted : Nat) :
    (c.fetch r counted : Run ε (SearchResult α)).Alike (OutcomeAlike SearchResult.Alike)
      (d.fetch r' counted) :=
  .ask .search (searchQuery_alike hc hr) fun reply =>
    Run.orElseStop_alike (allRows reply) fun rows => reconcile_alike hc hr counted rows

theorem search_alike (hc : c.Alike d) (hr : r.Alike r') :
    (c.search r : Run ε (SearchResult α)).Alike (OutcomeAlike SearchResult.Alike)
      (d.search r') := by
  by_cases hlimit : r.limit.isSome
  · rw [search_of_limit hlimit, search_of_limit (hr.limit ▸ hlimit)]
    -- both count by the same reply, so fetching begins with the same number
    exact .ask .count (countQuery_alike hc hr) fun reply =>
      Run.orElseStop_alike (readCount reply) fun counted => fetch_alike hc hr counted
  · have hnone : r.limit = none := Option.not_isSome_iff_eq_none.mp hlimit
    rw [search_of_limit_none hnone, search_of_limit_none (hr.limit ▸ hnone)]
    exact fetch_alike hc hr 0

/-- Terms in JSON are the same for alike requests, so runs that begin with them stay alike. -/
theorem withJsonTerms_alike {R : Except (RunError ε) β → Except (RunError ε) β → Prop}
    {run run' : Request → Run ε β} (terms : Json) (hr : r.Alike r')
    (hrun : ∀ {s s' : Request}, s.Alike s' → (run s).Alike R (run' s'))
    (hR : ∀ e, R (.error e) (.error e)) :
    (withJsonTerms terms r run).Alike R (withJsonTerms terms r' run') := by
  rw [withJsonTerms, withJsonTerms]
  cases Terms.ofJson terms with
  | error e => exact .done (hR _)
  | ok terms => exact hrun ⟨rfl, hr.sort, hr.limit, hr.injection⟩

/-- **Bound data never influences text.** Runs on collections that differ in their names, of
requests that differ in the values and the names of collections in their fragments, send alike
queries to the same replies, keep the same log, and have the same outcome but for what is bound in
the query of a search. So do runs whose terms are given in JSON. -/
theorem answer_alike (hc : c.Alike d) (hr : r.Alike r') (exhausted : ε)
    (replies : List (Reply ε)) :
    (((c.count r).answer exhausted replies).Alike Eq ((d.count r').answer exhausted replies) ∧
      ((c.find r).answer exhausted replies).Alike Eq ((d.find r').answer exhausted replies) ∧
      ((c.search r).answer exhausted replies).Alike (OutcomeAlike SearchResult.Alike)
        ((d.search r').answer exhausted replies)) ∧
    ∀ terms : Json,
      ((withJsonTerms terms r c.count).answer exhausted replies).Alike Eq
        ((withJsonTerms terms r' d.count).answer exhausted replies) ∧
      ((withJsonTerms terms r c.find).answer exhausted replies).Alike Eq
        ((withJsonTerms terms r' d.find).answer exhausted replies) ∧
      ((withJsonTerms terms r c.search).answer exhausted replies).Alike
        (OutcomeAlike SearchResult.Alike)
        ((withJsonTerms terms r' d.search).answer exhausted replies) := by
  refine ⟨⟨?_, ?_, ?_⟩, fun terms => ⟨?_, ?_, ?_⟩⟩
  · exact (count_alike hc hr).answer exhausted replies
  · exact (find_alike hc hr).answer exhausted replies
  · exact (search_alike hc hr).answer exhausted replies
  · exact (withJsonTerms_alike terms hr (count_alike hc) fun _ => rfl).answer exhausted replies
  · exact (withJsonTerms_alike terms hr (find_alike hc) fun _ => rfl).answer exhausted replies
  · exact (withJsonTerms_alike terms hr (search_alike hc) .error).answer exhausted replies

/-- Neither a name nor a value that spells variables and clauses changes what is sent. -/
theorem answer_alike_of_spelled_clauses :
    let c : Collection Json := named "pets"
    let d : Collection Json := named "@value0 \" REMOVE i IN pets"
    let request (value : Json) (collection : String) : Request :=
      { limit := some ⟨2, none⟩
        inject := some
          { beforeFilter := some ⟨[.literal "FILTER i.name ==", .value value]⟩
            beforeLimit := some ⟨[.literal "FILTER i._key IN", .collection collection]⟩ } }
    let r := request (.str "rex") "keys"
    let r' := request (.str "\" OR @value2 != \"") "keys RETURN i"
    let terms : Json := .obj [("name", .obj [("eq", .str "@value1")])]
    let replies : List (Reply Unit) := [.ok (.ofRows [.int 1]), .ok (.ofRows [.null, .null])]
    c.Alike d ∧ r.Alike r' ∧
      ((c.count r).answer () replies).Alike Eq ((d.count r').answer () replies) ∧
      ((c.find r).answer () replies).Alike Eq ((d.find r').answer () replies) ∧
      ((c.search r).answer () replies).Alike (OutcomeAlike SearchResult.Alike)
        ((d.search r').answer () replies) ∧
      ((withJsonTerms terms r c.search).answer () replies).Alike (OutcomeAlike SearchResult.Alike)
        ((withJsonTerms terms r' d.search).answer () replies) := by
  intro c d request r r' terms replies
  have hc : c.Alike d := ⟨rfl, rfl⟩
  have hvalue : List.Forall₂ Part.Alike [.literal "FILTER i.name ==", .value (.str "rex")]
      [.literal "FILTER i.name ==", .value (.str "\" OR @value2 != \"")] :=
    .cons (.literal _) (.cons (.value _ _) .nil)
  have hname : List.Forall₂ Part.Alike [.literal "FILTER i._key IN", .collection "keys"]
      [.literal "FILTER i._key IN", .collection "keys RETURN i"] :=
    .cons (.literal _) (.cons (.collection _ _) .nil)
  have hr : r.Alike r' := ⟨rfl, rfl, rfl, ⟨.some hvalue, .none, .some hname, .none⟩⟩
  obtain ⟨⟨hcount, hfind, hsearch⟩, hjson⟩ := answer_alike hc hr () replies
  exact ⟨hc, hr, hcount, hfind, hsearch, (hjson terms).2.2⟩

end Collection

end DocQuery
