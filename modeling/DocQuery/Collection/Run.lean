import DocQuery.Collection.Plan
import DocQuery.Dialogue
import DocQuery.Terms.OfJson

/-!
# Counting, finding and searching

The three runs on a collection. Counting and finding read the first row of one reply. A search
reads all rows; under a limit it counts first, so that its total does not depend on the limit.
The two queries of a limited search are not atomic: if more documents come back than were counted,
the larger number is the total.
-/

namespace DocQuery

/-- Why a run gives no result. -/
inductive RunError (ε : Type) where
  | compile (cause : CompileError)
  | decode (cause : DecodeError)
  | database (cause : ε)

/-- The text of an error, given the text of a failure of the database. -/
def RunError.message {ε : Type} (failure : ε → String) : RunError ε → String
  | .compile cause => "query compilation failed: " ++ cause.message
  | .decode cause => "failed to decode query result: " ++ cause.message
  | .database cause => "database query failed: " ++ failure cause

/-- The result of a search. -/
structure SearchResult (α : Type) where
  /-- How many documents match, whatever the limit. -/
  total : Nat
  documents : List α
  /-- The query that fetched the documents. -/
  query : Query

/-- A run on a database whose failures have type `ε`. -/
abbrev Run (ε α : Type) := Dialogue ε (Except (RunError ε) α)

variable {ε α β : Type}

/-- The first row of a reply, if it has any. -/
def firstRow (reply : Reply ε) : Except (RunError ε) (Option Json) :=
  match reply with
  | .error e => .error (.database e)
  | .ok cursor => cursor.next.1.mapError .database

/-- All rows of a reply. -/
def allRows (reply : Reply ε) : Except (RunError ε) (List Json) :=
  match reply with
  | .error e => .error (.database e)
  | .ok cursor => cursor.all.mapError .database

/-- A row by a decoder. -/
def decodeRow (decode : Decoder α) (row : Json) : Except (RunError ε) α :=
  (decode row).mapError .decode

/-- Goes on with a result and stops at an error. -/
def Run.orElseStop (result : Except (RunError ε) α) (next : α → Run ε β) : Run ε β :=
  match result with
  | .ok a => next a
  | .error e => .done (.error e)

namespace Collection

variable (c : Collection α) (r : Request)

/-- The number in the first row of a reply; without rows it is zero. -/
def readCount (reply : Reply ε) : Except (RunError ε) Nat := do
  match ← firstRow reply with
  | some row => decodeRow .word row
  | none => return 0

/-- The document in the first row of a reply. -/
def readFirst (reply : Reply ε) : Except (RunError ε) (Option α) := do
  match ← firstRow reply with
  | some row => some <$> decodeRow c.decode row
  | none => return none

/-- Counts the matching documents. -/
def count : Run ε Nat :=
  .ask .count (c.countQuery r) fun reply => .done (readCount reply)

/-- Finds the first matching document. -/
def find : Run ε (Option α) :=
  .ask .find (c.findQuery r) fun reply => .done (c.readFirst reply)

/-- The result of a search from its rows, where `counted` documents were counted. -/
def reconcile (counted : Nat) (rows : List Json) : Run ε (SearchResult α) :=
  let result : Except (RunError ε) (SearchResult α) := do
    let documents ← rows.mapM (decodeRow c.decode)
    return ⟨max counted rows.length, documents, c.searchQuery r⟩
  .note (.reconciling counted rows.length) <|
    if counted < rows.length ∧ r.limit.isSome then
      .note (.grown counted rows.length) (.done result)
    else .done result

/-- Fetches the documents of a search after `counted` documents were counted. -/
def fetch (counted : Nat) : Run ε (SearchResult α) :=
  .ask .search (c.searchQuery r) fun reply =>
    Run.orElseStop (allRows reply) fun rows => c.reconcile r counted rows

/-- Searches the collection. With a limit the documents are counted beforehand; without one the
total is the number of documents that come back. -/
def search : Run ε (SearchResult α) :=
  match r.limit with
  | some _ =>
    -- what is injected is filled in for both queries, not left to the one that counts
    .ask .count (c.countQuery { r with inject := some r.injection }) fun reply =>
      Run.orElseStop (readCount reply) fun counted => c.fetch r counted
  | none => c.fetch r 0

variable {c r}

/-- Without a limit nothing is counted. -/
theorem search_of_limit_none (h : r.limit = none) : (c.search r : Run ε _) = c.fetch r 0 := by
  rw [search, h]

/-- With a limit, the count comes first and decides whether there is anything after it. -/
theorem search_of_limit (h : r.limit.isSome) :
    (c.search r : Run ε _) = .ask .count (c.countQuery r) fun reply =>
      Run.orElseStop (readCount reply) fun counted => c.fetch r counted := by
  obtain ⟨limit, hlimit⟩ := Option.isSome_iff_exists.mp h
  rw [search, countQuery_some_injection, hlimit]

end Collection

/-- A run whose terms are given in JSON. Terms that do not compile end it before it begins. -/
def withJsonTerms (terms : Json) (r : Request) (run : Request → Run ε α) : Run ε α :=
  match Terms.ofJson terms with
  | .ok terms => run { r with terms := some terms }
  | .error e => .done (.error (.compile e))

end DocQuery
