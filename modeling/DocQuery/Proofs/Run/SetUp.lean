import DocQuery.Collection.Setup
import DocQuery.Proofs.Query.Aliases
import DocQuery.Proofs.Run.Comparison

/-!
# What is left of setting up a collection

A collection may be set up by any number of steps before a run, and its documents may change their
type on the way (`History`). The steps decide about settings or about the decoder, and of those that
write a setting the last one counts (`Decision.lastWritten`). So a history leaves the settings that
one step could have made (`History.config_collection`).

What goes between a run and the database does not depend on how documents are decoded
(`Collection.traffic_run_typed`). `History.answer_run_lastWritten` draws the conclusions: of a
history nothing but these settings is to be seen in the queries, and all their places name the
aliases in them.
-/

namespace DocQuery

variable {ε α β γ : Type}

/-! ### Traffic -/

/-- The dialogue without its result. -/
def Dialogue.traffic (d : Dialogue ε α) : Dialogue ε Unit :=
  d.map fun _ => ()

/-- Exchanges that are the same for the database and in the log. -/
structure Exchange.SameTraffic (x : Exchange ε α) (y : Exchange ε β) : Prop where
  queries : x.queries = y.queries
  log : x.log = y.log
  remaining : x.remaining = y.remaining

namespace Dialogue

theorem sameTraffic_answer {d : Dialogue ε α} {e : Dialogue ε β} (h : d.traffic = e.traffic)
    (exhausted : ε) (replies : List (Reply ε)) :
    (d.answer exhausted replies).SameTraffic (e.answer exhausted replies) := by
  have hexchange : (d.answer exhausted replies).map (fun _ => ()) =
      (e.answer exhausted replies).map fun _ => () := by
    rw [← answer_map, ← answer_map]
    exact congrArg (answer exhausted · replies) h
  have hqueries := congrArg Exchange.queries hexchange
  have hlog := congrArg Exchange.log hexchange
  exact ⟨hqueries, hlog, congrArg Exchange.remaining hexchange⟩

theorem traffic_ask (purpose : Purpose) (q : Query) {next : Reply ε → Dialogue ε α}
    {next' : Reply ε → Dialogue ε β} (h : ∀ reply, (next reply).traffic = (next' reply).traffic) :
    (ask purpose q next).traffic = (ask purpose q next').traffic :=
  congrArg (fun next => note _ (send q next)) (funext h)

end Dialogue

theorem Run.traffic_orElseStop (result : Except (RunError ε) γ) {next : γ → Run ε α}
    {next' : γ → Run ε β} (h : ∀ c, (next c).traffic = (next' c).traffic) :
    (orElseStop result next).traffic = (orElseStop result next').traffic := by
  rcases result with e | c
  · rfl
  · exact h c

namespace Collection

variable (c : Collection α) (r : Request) (decode : Decoder β)

private theorem traffic_reconcile_typed (counted : Nat) (rows : List Json) :
    ((c.typed decode).reconcile r counted rows : Run ε _).traffic =
      (c.reconcile r counted rows : Run ε _).traffic := by
  rw [reconcile, reconcile]
  split_ifs <;> rfl

private theorem traffic_fetch_typed (counted : Nat) :
    ((c.typed decode).fetch r counted : Run ε _).traffic =
      (c.fetch r counted : Run ε _).traffic := by
  refine Dialogue.traffic_ask .search (c.searchQuery r) fun reply => ?_
  exact Run.traffic_orElseStop (allRows reply) (c.traffic_reconcile_typed r decode counted)

/-- **Decoders leave no trace in the traffic.** -/
theorem traffic_run_typed (purpose : Purpose) :
    ((c.typed decode).run r purpose : Run ε _).traffic = (c.run r purpose : Run ε _).traffic := by
  rcases purpose with - | - | -
  · rfl
  · exact Dialogue.traffic_ask .find (c.findQuery r) fun _ => rfl
  · change ((c.typed decode).search r : Run ε _).traffic = (c.search r : Run ε _).traffic
    by_cases hlimit : r.limit.isSome
    · rw [search_of_limit hlimit, search_of_limit hlimit]
      refine Dialogue.traffic_ask .count (c.countQuery r) fun reply => ?_
      exact Run.traffic_orElseStop (readCount reply) (c.traffic_fetch_typed r decode)
    · have hnone : r.limit = none := Option.not_isSome_iff_eq_none.mp hlimit
      rw [search_of_limit_none hnone, search_of_limit_none hnone]
      exact c.traffic_fetch_typed r decode 0

end Collection

theorem withJsonTerms_traffic (json : Json) (r : Request) {run : Request → Run ε α}
    {run' : Request → Run ε β} (h : ∀ r, (run r).traffic = (run' r).traffic) :
    (withJsonTerms json r run).traffic = (withJsonTerms json r run').traffic := by
  rw [withJsonTerms, withJsonTerms]
  rcases Terms.ofJson json with e | terms
  · rfl
  · exact h _

/-! ### Settings -/

/-- A decision about settings, whatever the documents are. -/
inductive Decision where
  | root (name : String)
  | aliases (root count : String)
  | config (config : Config)

namespace Decision

/-- What queries call a document; every decision settles it. -/
def rootAlias : Decision → String
  | .root name => name
  | .aliases name _ => name
  | .config settings => settings.rootAlias

/-- What queries call the number of documents, if the decision settles it. -/
def countAlias? : Decision → Option String
  | .root _ => none
  | .aliases _ name => some name
  | .config settings => some settings.countAlias

/-- All settings, if the decision replaces them. -/
def settings? : Decision → Option Config
  | .root _ | .aliases _ _ => none
  | .config settings => some settings

/-- The last value that decisions give a setting. -/
def lastWritten (setting? : Decision → Option α) (default : α) (decisions : List Decision) : α :=
  (decisions.filterMap setting?).getLast?.getD default

theorem lastWritten_append_singleton (setting? : Decision → Option α) (default : α)
    (decisions : List Decision) (d : Decision) :
    lastWritten setting? default (decisions ++ [d]) =
      (setting? d).getD (lastWritten setting? default decisions) := by
  rw [lastWritten, List.filterMap_append, List.getLast?_append]
  rcases h : setting? d with - | a
  · simp [h, lastWritten]
  · simp [h]

end Decision

namespace Config

open Decision (lastWritten lastWritten_append_singleton)

/-- Each setting as it was decided last, or its default. Only replacing all settings decides about
the orders. -/
def ofDecisions (decisions : List Decision) : Config :=
  let replaced := lastWritten Decision.settings? {} decisions
  { rootAlias := lastWritten (some ∘ Decision.rootAlias) "i" decisions
    countAlias := lastWritten Decision.countAlias? "n" decisions
    findSort := replaced.findSort
    searchSort := replaced.searchSort }

/-- A later decision takes the place of what was decided before, where it decides anything. -/
theorem ofDecisions_append_singleton (decisions : List Decision) (d : Decision) :
    let before := ofDecisions decisions
    ofDecisions (decisions ++ [d]) =
      { rootAlias := d.rootAlias
        countAlias := d.countAlias?.getD before.countAlias
        findSort := (d.settings?.getD before).findSort
        searchSort := (d.settings?.getD before).searchSort } := by
  simp only [ofDecisions, lastWritten_append_singleton]
  rcases d with - | - | - <;> rfl

end Config

/-- The decision that a step makes about settings. A decoder is none of them. -/
def Setup.decision? : Setup α → Option Decision
  | .root name => some (.root name)
  | .aliases name count => some (.aliases name count)
  | .config settings => some (.config settings)
  | .decoder _ => none

namespace Collection

/-- One step adds its decision to those that the settings are made of. -/
theorem config_apply {c : Collection α} {decisions : List Decision}
    (h : c.config = .ofDecisions decisions) (step : Setup α) :
    (c.apply step).config = .ofDecisions (decisions ++ step.decision?.toList) := by
  rcases step with name | ⟨name, count⟩ | settings | decode
  case decoder =>
    rw [Setup.decision?, Option.toList_none, List.append_nil]
    exact h
  all_goals
    rw [Setup.decision?, Option.toList_some, Config.ofDecisions_append_singleton, ← h]
    rfl

theorem config_setUp {c : Collection α} {decisions : List Decision}
    (h : c.config = .ofDecisions decisions) (steps : List (Setup α)) :
    (c.setUp steps).config = .ofDecisions (decisions ++ steps.filterMap Setup.decision?) := by
  induction steps generalizing c decisions with
  | nil => rwa [List.filterMap_nil, List.append_nil]
  | cons step steps ih =>
    have hdecisions : (step :: steps).filterMap Setup.decision? =
        step.decision?.toList ++ steps.filterMap Setup.decision? := by
      rw [List.filterMap_cons]
      rcases step.decision? with - | d <;> rfl
    rw [hdecisions, ← List.append_assoc]
    exact ih (config_apply h step)

theorem name_setUp (c : Collection α) (steps : List (Setup α)) :
    (c.setUp steps).name = c.name := by
  induction steps generalizing c with
  | nil => rfl
  | cons step steps ih =>
    have hstep : (c.apply step).name = c.name := by
      rcases step with - | - | - | - <;> rfl
    exact (ih (c.apply step)).trans hstep

/-- Up to its decoder, a collection with these settings is made in one step. -/
theorem eq_typed {c : Collection α} {name : String} {config : Config} (hname : c.name = name)
    (hconfig : c.config = config) : c = ((named name).withConfig config).typed c.decode := by
  obtain rfl := hname
  obtain rfl := hconfig
  rfl

end Collection

/-! ### Histories -/

/-- What has happened to a collection before a run. The type of its documents may change. -/
inductive History : Type → Type 1 where
  /-- Only the name is known, and documents have any shape. -/
  | named : History Json
  | setUp {α : Type} (h : History α) (steps : List (Setup α)) : History α
  | typed {α β : Type} (h : History α) (decode : Decoder β) : History β

namespace History

/-- The collection of this name with a history. -/
def collection (name : String) : {α : Type} → History α → Collection α
  | _, .named => .named name
  | _, .setUp h steps => (h.collection name).setUp steps
  | _, .typed h decode => (h.collection name).typed decode

/-- The decisions about settings in a history, from the first to the last. Decoders leave no mark,
neither those that change the type of documents nor those that keep it. -/
def decisions : {α : Type} → History α → List Decision
  | _, .named => []
  | _, .setUp h steps => h.decisions ++ steps.filterMap Setup.decision?
  | _, .typed h _ => h.decisions

/-- **The last decisions count.** A history leaves the settings that its decisions come to. -/
theorem config_collection (name : String) (h : History α) :
    (h.collection name).config = .ofDecisions h.decisions := by
  induction h with
  | named => rfl
  | setUp h steps ih => exact Collection.config_setUp ih steps
  | typed h decode ih => exact ih

theorem name_collection (name : String) (h : History α) : (h.collection name).name = name := by
  induction h with
  | named => rfl
  | setUp h steps ih => exact (Collection.name_setUp _ steps).trans ih
  | typed h decode ih => exact ih

/-- Nothing of a history is left in the traffic but the settings it comes to. -/
theorem traffic_run_collection (name : String) (h : History α) (r : Request) (purpose : Purpose) :
    ((h.collection name).run r purpose : Run ε _).traffic =
      (((Collection.named name).withConfig (.ofDecisions h.decisions)).run r purpose :
        Run ε _).traffic := by
  have hcollection := Collection.eq_typed (h.name_collection name) (h.config_collection name)
  rw [hcollection]
  exact Collection.traffic_run_typed _ r _ purpose

/-- **A history comes to one step.** However a collection was set up, its runs send, note and take
what they do after one step that replaces all settings, by those that were decided last. So two
histories with the same decisions cannot be told apart, whatever decoders have come between. The
texts of what a run begins to send, and sends entirely if it succeeds, are layouts that mention no
alias, with the aliases that were decided last in all their places. -/
theorem answer_run_lastWritten (h : History α) (name : String) (r : Request) (purpose : Purpose)
    (exhausted : ε) (replies : List (Reply ε)) :
    let config := Config.ofDecisions h.decisions
    let c := h.collection name
    let run (r : Request) : Run ε (purpose.Result α) := c.run r purpose
    let fresh (r : Request) : Run ε (purpose.Result Json) :=
      ((Collection.named name).withConfig config).run r purpose
    let x := (run r).answer exhausted replies
    x.SameTraffic ((fresh r).answer exhausted replies) ∧
    (∀ json, ((withJsonTerms json r run).answer exhausted replies).SameTraffic
      ((withJsonTerms json r fresh).answer exhausted replies)) ∧
    (∀ (β : Type) (h' : History β), h'.decisions = h.decisions →
      x.SameTraffic (((h'.collection name).run r purpose : Run ε _).answer exhausted replies)) ∧
    (r.injection.IsBuilt →
      let texts := (r.layouts config.findSort config.searchSort purpose).map
        (layoutText config.rootAlias config.countAlias)
      x.queries ≠ [] ∧ x.queries.map Query.text <+: texts ∧
        (x.result.isOk → x.queries.map Query.text = texts)) := by
  intro config c run fresh x
  have htraffic (r : Request) : (run r).traffic = (fresh r).traffic :=
    h.traffic_run_collection name r purpose
  refine ⟨Dialogue.sameTraffic_answer (htraffic r) exhausted replies, fun json => ?_,
    fun β h' hdecisions => ?_, fun hbuilt => ?_⟩
  · exact Dialogue.sameTraffic_answer (withJsonTerms_traffic json r htraffic) exhausted replies
  · have htraffic' := h'.traffic_run_collection (ε := ε) name r purpose
    rw [hdecisions] at htraffic'
    exact Dialogue.sameTraffic_answer ((htraffic r).trans htraffic'.symm) exhausted replies
  · have hrun : Run.KeepsTo (c.plan r purpose) (run r) := c.run_keepsTo r purpose
    have htexts : (c.plan r purpose).map Query.text =
        (r.layouts config.findSort config.searchSort purpose).map
          (layoutText config.rootAlias config.countAlias) := by
      rw [Collection.plan_eq_assembly hbuilt, c.map_text_assembly, h.config_collection name]
    rw [← htexts]
    refine ⟨c.queries_run_ne_nil r purpose exhausted replies, ?_, fun hok => ?_⟩
    · exact (hrun.queries_prefix exhausted replies).map Query.text
    · rw [hrun.queries_eq exhausted hok]

/-- Aliases that are decided late take the place of those of the settings, and leave the order. -/
example :
    let settings : Config := { rootAlias := "a", countAlias := "b", searchSort := [.desc "born"] }
    let h := (History.named.setUp [.aliases "pet" "pets", .config settings]).typed .word
    let c := ((h.setUp [.decoder .word, .root "doc"]).typed .json).collection "pets"
    let old : Filter := .compare {} .gt (.scalar (.int 3))
    let r : Request := { terms := some [("age", .filter old)] }
    (c.countQuery r).text =
        "FOR doc IN @@value0 FILTER doc.age > 3 COLLECT WITH COUNT INTO b RETURN b" ∧
      (c.searchQuery r).text =
        "FOR doc IN @@value0 FILTER doc.age > 3 SORT doc.born DESC RETURN doc" := by
  decide

end History

end DocQuery
