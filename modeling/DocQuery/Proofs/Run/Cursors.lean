import DocQuery.Proofs.Run.Comparison

/-!
# How far cursors are read

Counting and finding take one item from a cursor (`firstRow_congr`), and it is the result or the
reason why there is none (`readCount_eq_ok_iff`, `readFirst_eq_iff`).

A search takes all items before it decodes any. So the first failure is its outcome, whatever the
rows in front of it, and the first row that is no document comes second. There is nothing between
all documents and none (`Cursor.yieldsAll_iff`).

`Collection.answer_reads_cursors` puts this together for all requests, cursors and decoders.
-/

namespace DocQuery

variable {ε α : Type}

/-! ### The first item -/

theorem Cursor.fst_next (cursor : Cursor ε) :
    cursor.next.1 = (cursor.head?.map (Except.map some)).getD (.ok none) := by
  rcases cursor with - | ⟨e | row, rest⟩ <;> rfl

/-- Items behind the first one do not matter. -/
theorem firstRow_congr {cursor cursor' : Cursor ε} (h : cursor.head? = cursor'.head?) :
    firstRow (.ok cursor) = firstRow (.ok cursor') := by
  rw [firstRow, firstRow, Cursor.fst_next, Cursor.fst_next, h]

/-! ### Counts -/

section Counts

variable {cursor : Cursor ε}

theorem readCount_eq_ok_iff {n : Nat} :
    Collection.readCount (.ok cursor) = .ok n ↔
      cursor.head? = some (.ok (.int n)) ∧ n < 0x10000000000000000 ∨ cursor = [] ∧ n = 0 := by
  rw [readCount_eq_iff]
  constructor
  · intro h
    cases h with
    | empty => exact .inr ⟨rfl, rfl⟩
    | counted hn rest => exact .inl ⟨rfl, hn⟩
  · rintro (⟨hhead, hn⟩ | ⟨rfl, rfl⟩)
    · obtain ⟨rest, rfl⟩ := List.head?_eq_some_iff.mp hhead
      exact .counted hn rest
    · exact .empty

theorem readCount_eq_database_iff {e : ε} :
    Collection.readCount (.ok cursor) = .error (.database e) ↔ cursor.head? = some (.error e) := by
  rw [readCount_eq_iff]
  constructor
  · intro h
    cases h with
    | failed e rest => rfl
  · intro hhead
    obtain ⟨rest, rfl⟩ := List.head?_eq_some_iff.mp hhead
    exact .failed e rest

theorem exists_readCount_eq_decode_iff :
    (∃ cause, Collection.readCount (.ok cursor) = .error (.decode cause)) ↔
      ∃ row, cursor.head? = some (.ok row) ∧ ∀ n : Nat, n < 0x10000000000000000 → row ≠ .int n := by
  simp only [readCount_eq_iff, ← Decoder.exists_word_eq_error_iff]
  constructor
  · rintro ⟨cause, h⟩
    cases h with
    | undecodable hrow rest => exact ⟨_, rfl, cause, hrow⟩
  · rintro ⟨row, hhead, cause, hrow⟩
    obtain ⟨rest, rfl⟩ := List.head?_eq_some_iff.mp hhead
    exact ⟨cause, .undecodable hrow rest⟩

end Counts

/-! ### All items -/

/-- What a cursor yields if all its rows are wanted as documents. -/
inductive Cursor.YieldsAll (decode : Decoder α) :
    Cursor ε → Except (RunError ε) (List α) → Prop
  /-- Rows in front of a failure need not be documents. -/
  | failed (rows : List Json) (e : ε) (rest : Cursor ε) :
      YieldsAll decode (ofRows rows ++ .error e :: rest) (.error (.database e))
  /-- There are no failures, and the first row that is no document is at fault. -/
  | undecodable {before after : List Json} {row : Json} {cause : DecodeError}
      (hbefore : ∀ row ∈ before, ∃ document, decode row = .ok document)
      (hrow : decode row = .error cause) :
      YieldsAll decode (ofRows (before ++ row :: after)) (.error (.decode cause))
  | documents {rows : List Json} {documents : List α}
      (h : List.Forall₂ (fun row document => decode row = .ok document) rows documents) :
      YieldsAll decode (ofRows rows) (.ok documents)

theorem allRows_of_failure (rows : List Json) (e : ε) (rest : Cursor ε) :
    allRows (.ok (Cursor.ofRows rows ++ .error e :: rest)) = .error (.database e) := by
  rw [allRows, Cursor.all_eq_error_iff.mpr ⟨rows, rest, rfl⟩]
  rfl

/-- **All documents are read off a cursor** as the cursor yields them. -/
theorem Cursor.yieldsAll_iff {decode : Decoder α} {cursor : Cursor ε}
    {outcome : Except (RunError ε) (List α)} :
    allRows (.ok cursor) >>= (fun rows => rows.mapM (decodeRow decode)) = outcome ↔
      cursor.YieldsAll decode outcome := by
  constructor
  · rintro rfl
    cases hall : cursor.all with
    | error e =>
      obtain ⟨rows, rest, rfl⟩ := all_eq_error_iff.mp hall
      rw [allRows_of_failure]
      exact .failed rows e rest
    | ok rows =>
      obtain rfl := all_eq_ok_iff.mp hall
      rw [allRows_eq_ok_iff.mpr rfl]
      change YieldsAll decode (ofRows rows) (rows.mapM (decodeRow decode))
      cases hrows : rows.mapM (decodeRow decode) with
      | error e =>
        obtain ⟨cause, rfl, before, row, after, rfl, hbefore, hrow⟩ :=
          mapM_decodeRow_eq_error_iff.mp hrows
        exact .undecodable hbefore hrow
      | ok documents => exact .documents (mapM_decodeRow_eq_ok_iff.mp hrows)
  · intro h
    cases h with
    | failed rows e rest =>
      rw [allRows_of_failure]
      rfl
    | @undecodable before after row cause hbefore hrow =>
      rw [allRows_eq_ok_iff.mpr rfl]
      exact mapM_decodeRow_eq_error_iff.mpr ⟨cause, rfl, before, row, after, rfl, hbefore, hrow⟩
    | documents h =>
      rw [allRows_eq_ok_iff.mpr rfl]
      exact mapM_decodeRow_eq_ok_iff.mpr h

/-! ### Runs -/

/-- From these replies a search takes a cursor for its documents, after it has counted some. -/
inductive Request.FetchesFrom (r : Request) (reply : Nat → Reply ε) :
    (counted : Nat) → Cursor ε → Prop
  /-- Without a limit nothing is counted. -/
  | unlimited {cursor : Cursor ε} (hlimit : r.limit = none) (hcursor : reply 0 = .ok cursor) :
      FetchesFrom r reply 0 cursor
  | limited {counted : Nat} {cursor : Cursor ε} (hlimit : r.limit.isSome)
      (hcount : SaysCount (reply 0) (.ok counted)) (hcursor : reply 1 = .ok cursor) :
      FetchesFrom r reply counted cursor

namespace Collection

variable {c : Collection α} {r : Request} {exhausted : ε} {replies : List (Reply ε)}

/-- A search decodes what it has fetched. -/
theorem result_search_of_fetchesFrom {counted : Nat} {cursor : Cursor ε}
    (h : r.FetchesFrom (replyAt exhausted replies) counted cursor) :
    ((c.search r).answer exhausted replies).result = do
      let rows ← allRows (.ok cursor)
      let documents ← rows.mapM (decodeRow c.decode)
      return ⟨max counted rows.length, documents, c.searchQuery r⟩ := by
  cases h with
  | unlimited hlimit hcursor =>
    rw [search_of_limit_none hlimit, result_fetch, hcursor]
  | limited hlimit hcount hcursor =>
    rw [(c.answer_search_of_counted r exhausted replies hlimit hcount).1, result_fetch,
      replyAt_tail, hcursor]

/-- The documents of a search are what its cursor yields. -/
theorem search_yieldsAll_iff {counted : Nat} {cursor : Cursor ε}
    (h : r.FetchesFrom (replyAt exhausted replies) counted cursor)
    {outcome : Except (RunError ε) (List α)} :
    ((c.search r).answer exhausted replies).result.map SearchResult.documents = outcome ↔
      cursor.YieldsAll c.decode outcome := by
  rw [← Cursor.yieldsAll_iff, result_search_of_fetchesFrom h]
  rcases allRows (.ok cursor) with e | rows
  · rfl
  · change (rows.mapM (decodeRow c.decode) >>= _).map _ = outcome ↔
      rows.mapM (decodeRow c.decode) = outcome
    rcases rows.mapM (decodeRow c.decode) with e | documents <;> rfl

theorem total_search_of_fetchesFrom {counted : Nat} {cursor : Cursor ε}
    (h : r.FetchesFrom (replyAt exhausted replies) counted cursor) {s : SearchResult α}
    (hs : ((c.search r).answer exhausted replies).result = .ok s) :
    s.total = max counted cursor.length ∧ s.query = c.searchQuery r := by
  rw [result_search_of_fetchesFrom h, Except.bind_eq_ok_iff] at hs
  obtain ⟨rows, hrows, hs⟩ := hs
  obtain ⟨documents, -, hs⟩ := Except.bind_eq_ok_iff.mp hs
  obtain rfl := Except.ok.inj hs
  obtain rfl := Except.ok.inj (allRows_eq_ok_iff.mp hrows)
  exact ⟨congrArg (max counted) (List.length_map _).symm, rfl⟩

/-- **Results and errors are read off cursors.** Counting and finding have the same exchange with
cursors that begin alike. Counting returns a number of 64 bits without sign, or zero if nothing
comes; it passes on a failure, and fails to decode anything else. The documents of a search are what
the cursor of its last query yields: all of them, or else the first failure of the database, or else
the reason why the first row that is no document is none. -/
theorem answer_reads_cursors (c : Collection α) (r : Request) (exhausted : ε) :
    (∀ (cursor cursor' : Cursor ε) (more : List (Reply ε)), cursor.head? = cursor'.head? →
      (c.count r).answer exhausted (.ok cursor :: more) =
        (c.count r).answer exhausted (.ok cursor' :: more) ∧
      (c.find r).answer exhausted (.ok cursor :: more) =
        (c.find r).answer exhausted (.ok cursor' :: more)) ∧
    (∀ (cursor : Cursor ε) (more : List (Reply ε)),
      let counted := ((c.count r).answer exhausted (.ok cursor :: more)).result
      let found := ((c.find r).answer exhausted (.ok cursor :: more)).result
      (∀ n, counted = .ok n ↔
        cursor.head? = some (.ok (.int n)) ∧ n < 0x10000000000000000 ∨ cursor = [] ∧ n = 0) ∧
      (∀ e, counted = .error (.database e) ↔ cursor.head? = some (.error e)) ∧
      ((∃ cause, counted = .error (.decode cause)) ↔ ∃ row, cursor.head? = some (.ok row) ∧
        ∀ n : Nat, n < 0x10000000000000000 → row ≠ .int n) ∧
      ∀ outcome, found = outcome ↔ cursor.YieldsFirst c.decode outcome) ∧
    ∀ (replies : List (Reply ε)) (counted : Nat) (cursor : Cursor ε),
      r.FetchesFrom (replyAt exhausted replies) counted cursor →
      let searched := ((c.search r).answer exhausted replies).result
      (∀ outcome, searched.map SearchResult.documents = outcome ↔
        cursor.YieldsAll c.decode outcome) ∧
      ∀ s, searched = .ok s → s.total = max counted cursor.length ∧ s.query = c.searchQuery r := by
  refine ⟨fun cursor cursor' more hhead => ?_, fun cursor more => ?_,
    fun replies counted cursor h =>
      ⟨fun outcome => search_yieldsAll_iff h, fun s => total_search_of_fetchesFrom h⟩⟩
  · have hrow := firstRow_congr hhead
    simp only [answer_count, answer_find, replyAt, List.getD_cons_zero, List.tail_cons, readCount,
      readFirst, hrow, and_self]
  · simp only [answer_count, answer_find, replyAt, List.getD_cons_zero]
    exact ⟨fun n => readCount_eq_ok_iff, fun e => readCount_eq_database_iff,
      exists_readCount_eq_decode_iff, fun outcome => readFirst_eq_iff⟩

/-- A row that is no string stands in front of a failure. Finding stops at the row, and a search
with a limit at the failure. -/
example :
    let c : Collection String := { name := "pets", decode := .text }
    let cursor : Cursor String := [.ok (.int 3), .error "reset", .ok (.str "rex")]
    let found := ((c.find {}).answer "drained" [.ok cursor]).result
    let searched := ((c.search { limit := some ⟨5, none⟩ }).answer "drained"
      [.ok (.ofRows [.int 7]), .ok cursor]).result
    found = .error (.decode (.invalidType (.int 3) "a string")) ∧
      searched.map SearchResult.documents = .error (.database "reset") :=
  ⟨rfl, rfl⟩

end Collection

end DocQuery
