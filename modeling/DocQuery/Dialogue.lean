import DocQuery.Fragment.Basic

/-!
# Talking to a database

The rows that answer a query arrive one after another, and any of them may be a failure of the
database instead.

A run is a dialogue: it notes events, sends queries and goes on with the reply to each. What
answers is left open. `Dialogue.answer` lets a list of replies answer and keeps a record of the
exchange. The record of two dialogues in a row is made of the records of both
(`Dialogue.answer_andThen`).

Events are what a run notes by itself. The span that encloses them, which bears the name of the
collection, is not among them.
-/

namespace DocQuery

/-! ### Cursors -/

/-- Rows and failures, in the order in which the database yields them. -/
abbrev Cursor (ε : Type) := List (Except ε Json)

namespace Cursor

variable {ε : Type}

/-- A cursor over rows that are already there. -/
def ofRows (rows : List Json) : Cursor ε :=
  rows.map .ok

/-- The next row, or nothing when the cursor is drained, and what is left. A failure is passed
once, and the items behind it are still to come. -/
def next : Cursor ε → Except ε (Option Json) × Cursor ε
  | [] => (.ok none, [])
  | .ok row :: rest => (.ok (some row), rest)
  | .error e :: rest => (.error e, rest)

/-- All rows that are left, or the first failure among them. -/
def all : Cursor ε → Except ε (List Json)
  | [] => .ok []
  | .ok row :: rest => (all rest).map (row :: ·)
  | .error e :: _ => .error e

/-- Rows that are already there all come back. -/
theorem all_ofRows (rows : List Json) : (ofRows rows : Cursor ε).all = .ok rows := by
  induction rows with
  | nil => rfl
  | cons row rows ih =>
    simp only [ofRows, List.map_cons, all] at ih ⊢
    rw [ih]
    rfl

end Cursor

/-! ### Dialogues -/

/-- What a query is sent for. -/
inductive Purpose where
  | count
  | find
  | search
  deriving DecidableEq, Repr

def Purpose.word : Purpose → String
  | .count => "count"
  | .find => "find"
  | .search => "search"

/-- Something worth a line in the log. -/
inductive Event where
  /-- A query with this text and this many variables is about to be sent. -/
  | sending (purpose : Purpose) (query : String) (bindVars : Nat)
  /-- The documents of a search are there, and their number meets the number counted before. -/
  | reconciling (counted returned : Nat)
  /-- More documents came back than were counted, so the collection grew in between. -/
  | grown (counted returned : Nat)
  deriving DecidableEq, Repr

/-- What is noted of a query before it is sent. -/
def Event.announce (purpose : Purpose) (query : Query) : Event :=
  .sending purpose query.text query.bindVars.length

/-- The line in the log, without the text of a query. -/
def Event.text : Event → String
  | .sending purpose _ bindVars => "DEBUG " ++ purpose.word ++ " bind_vars=" ++ bindVars.repr
  | .reconciling counted returned =>
    "TRACE reconciling search total" ++ numbers counted returned
  | .grown counted returned =>
    "WARN collection changed between count and fetch" ++ numbers counted returned
where
  numbers (counted returned : Nat) : String :=
    " counted=" ++ counted.repr ++ " returned=" ++ returned.repr

/-- What a database answers to a query: a failure, or a cursor over rows. -/
abbrev Reply (ε : Type) := Except ε (Cursor ε)

/-- A run that ends with an `α` if the database answers each of its queries. -/
inductive Dialogue (ε α : Type) where
  | done (a : α)
  | note (event : Event) (next : Dialogue ε α)
  | send (query : Query) (next : Reply ε → Dialogue ε α)

/-- The record of a dialogue. -/
structure Exchange (ε α : Type) where
  result : α
  /-- The queries the database received. -/
  queries : List Query
  log : List Event
  /-- The replies that nothing has asked for yet. -/
  remaining : List (Reply ε)

namespace Dialogue

variable {ε α β : Type}

/-- One dialogue and then another that depends on how the first ended. -/
def andThen : Dialogue ε α → (α → Dialogue ε β) → Dialogue ε β
  | .done a, f => f a
  | .note event next, f => .note event (next.andThen f)
  | .send query next, f => .send query fun reply => (next reply).andThen f

/-- Sends a query and notes beforehand what it is for. -/
def ask (purpose : Purpose) (query : Query) (next : Reply ε → Dialogue ε α) : Dialogue ε α :=
  .note (.announce purpose query) (.send query next)

/-- The exchange in which replies are taken from a list, one for each query. When the list is
empty, queries fail with `exhausted`. -/
def answer (exhausted : ε) : Dialogue ε α → List (Reply ε) → Exchange ε α
  | .done a, replies => ⟨a, [], [], replies⟩
  | .note event next, replies =>
    let rest := next.answer exhausted replies
    { rest with log := event :: rest.log }
  | .send query next, [] =>
    let rest := (next (.error exhausted)).answer exhausted []
    { rest with queries := query :: rest.queries }
  | .send query next, reply :: replies =>
    let rest := (next reply).answer exhausted replies
    { rest with queries := query :: rest.queries }

/-- The second of two dialogues goes on with the replies that the first has left over. -/
theorem answer_andThen (exhausted : ε) (d : Dialogue ε α) (f : α → Dialogue ε β)
    (replies : List (Reply ε)) :
    (d.andThen f).answer exhausted replies =
      let first := d.answer exhausted replies
      let second := (f first.result).answer exhausted first.remaining
      ⟨second.result, first.queries ++ second.queries, first.log ++ second.log,
        second.remaining⟩ := by
  induction d generalizing replies with
  | done a => rfl
  | note event next ih => simp [andThen, answer, ih]
  | send query next ih => cases replies <;> simp [andThen, answer, ih]

/-- The exchanges of several dialogues, one after another, on one list of replies. -/
def answerAll (exhausted : ε) :
    List (Dialogue ε α) → List (Reply ε) → List (Exchange ε α)
  | [], _ => []
  | d :: rest, replies =>
    let exchange := d.answer exhausted replies
    exchange :: answerAll exhausted rest exchange.remaining

end Dialogue

end DocQuery
