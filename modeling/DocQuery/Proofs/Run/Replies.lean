import DocQuery.Collection.Run
import DocQuery.Proofs.ForMathlib

/-!
# What replies say

How runs read the replies of a database. All rows of a reply are read exactly if it is a cursor
without failures (`allRows_eq_ok_iff`, `Cursor.all_eq_error_iff`), and they are decoded one by one
up to the first that is no document (`mapM_decodeRow_eq_ok_iff`, `mapM_decodeRow_eq_error_iff`).
`SaysCount` spells out what a reply to a counting query says, and `Collection.readCount` returns
just that (`readCount_eq_iff`). So do `Cursor.YieldsFirst` and `Collection.readFirst` for documents
(`readFirst_eq_iff`).

Terms in JSON are read before anything is sent. If they do not compile, no reply is taken
(`answer_withJsonTerms_of_error`).

A query that is asked takes the first reply of the list that answers, and the rest of the list is
left for the queries after it (`Dialogue.answer_ask`).
-/

namespace DocQuery

variable {ε α : Type}

/-! ### Rows -/

/-- A cursor yields all its rows exactly if there is no failure among them. -/
theorem Cursor.all_eq_ok_iff {cursor : Cursor ε} {rows : List Json} :
    cursor.all = .ok rows ↔ cursor = .ofRows rows := by
  refine ⟨fun h => ?_, ?_⟩
  · induction cursor generalizing rows with
    | nil =>
      obtain rfl := Except.ok.inj h
      rfl
    | cons item rest ih =>
      cases item with
      | error e => exact absurd h (by simp [all])
      | ok row =>
        obtain ⟨others, hothers, rfl⟩ := Except.map_eq_ok_iff.mp h
        rw [ih hothers]
        rfl
  · rintro rfl
    exact all_ofRows rows

/-- A cursor fails with its first failure, behind any number of rows. -/
theorem Cursor.all_eq_error_iff {cursor : Cursor ε} {e : ε} :
    cursor.all = .error e ↔ ∃ rows rest, cursor = ofRows rows ++ .error e :: rest := by
  constructor
  · intro h
    induction cursor with
    | nil => exact absurd h nofun
    | cons item rest ih =>
      cases item with
      | error e' =>
        obtain rfl := Except.error.inj h
        exact ⟨[], rest, rfl⟩
      | ok row =>
        obtain ⟨rows, rest, rfl⟩ := ih (Except.map_eq_error_iff.mp h)
        exact ⟨row :: rows, rest, rfl⟩
  · rintro ⟨rows, rest, rfl⟩
    induction rows with
    | nil => rfl
    | cons row rows ih => exact Except.map_eq_error_iff.mpr ih

theorem allRows_eq_ok_iff {reply : Reply ε} {rows : List Json} :
    allRows reply = .ok rows ↔ reply = .ok (.ofRows rows) := by
  cases reply with
  | error e => simp [allRows]
  | ok cursor =>
    rw [allRows, Except.mapError_eq_ok_iff, Cursor.all_eq_ok_iff, Except.ok.injEq]

theorem mapM_decodeRow_eq_ok_iff {decode : Decoder α} {rows : List Json} {documents : List α} :
    rows.mapM (decodeRow decode) = (.ok documents : Except (RunError ε) (List α)) ↔
      List.Forall₂ (fun row document => decode row = .ok document) rows documents := by
  simp only [List.mapM_eq_ok_iff, decodeRow, Except.mapError_eq_ok_iff]

/-- Rows are no documents because of the first among them that is none. -/
theorem mapM_decodeRow_eq_error_iff {decode : Decoder α} {rows : List Json} {e : RunError ε} :
    rows.mapM (decodeRow decode) = .error e ↔ ∃ cause, e = .decode cause ∧
      rows.HasFirst (fun row => ∃ document, decode row = .ok document)
        (fun row => decode row = .error cause) := by
  rw [List.mapM_eq_error_iff]
  simp only [decodeRow, Except.mapError_eq_ok_iff, Except.mapError_eq_error_iff]
  constructor
  · rintro ⟨before, row, after, hrows, hbefore, cause, hrow, rfl⟩
    exact ⟨cause, rfl, before, row, after, hrows, hbefore, hrow⟩
  · rintro ⟨cause, rfl, before, row, after, hrows, hbefore, hrow⟩
    exact ⟨before, row, after, hrows, hbefore, cause, hrow, rfl⟩

/-! ### Counts -/

/-- The rows that are numbers of 64 bits without sign. -/
theorem Decoder.word_eq_ok_iff {row : Json} {n : Nat} :
    Decoder.word row = .ok n ↔ row = .int n ∧ n < 0x10000000000000000 := by
  cases row with
  | int m =>
    rw [word]
    split_ifs with hm
    · simp only [Except.ok.injEq, Json.int.injEq]
      omega
    · simp only [Json.int.injEq, false_iff]
      omega
  | _ => simp [word]

/-- The rows that are no numbers of 64 bits without sign. -/
theorem Decoder.exists_word_eq_error_iff {row : Json} :
    (∃ cause, word row = .error cause) ↔
      ∀ n : Nat, n < 0x10000000000000000 → row ≠ .int n := by
  constructor
  · rintro ⟨cause, hrow⟩ n hn rfl
    have hword := word_eq_ok_iff.mpr ⟨rfl, hn⟩
    exact absurd (hword.symm.trans hrow) nofun
  · intro h
    cases hrow : word row with
    | error cause => exact ⟨cause, rfl⟩
    | ok n =>
      obtain ⟨rfl, hn⟩ := word_eq_ok_iff.mp hrow
      exact absurd rfl (h n hn)

/-- What a reply to a counting query says: a number, which is zero if there are no rows, or what
went wrong. -/
inductive SaysCount : Reply ε → Except (RunError ε) Nat → Prop
  /-- The query failed. -/
  | refused (e : ε) : SaysCount (.error e) (.error (.database e))
  /-- The first item is a failure. -/
  | failed (e : ε) (rest : Cursor ε) : SaysCount (.ok (.error e :: rest)) (.error (.database e))
  | empty : SaysCount (.ok []) (.ok 0)
  /-- The first row is a number of 64 bits without sign. -/
  | counted {n : Nat} (hn : n < 0x10000000000000000) (rest : Cursor ε) :
      SaysCount (.ok (.ok (.int n) :: rest)) (.ok n)
  /-- The first row is something else. -/
  | undecodable {row : Json} {cause : DecodeError} (h : Decoder.word row = .error cause)
      (rest : Cursor ε) : SaysCount (.ok (.ok row :: rest)) (.error (.decode cause))

private theorem readCount_cons (row : Json) (rest : Cursor ε) :
    Collection.readCount (.ok (.ok row :: rest)) = decodeRow .word row := rfl

/-- **Counts are read off replies** as they say. -/
theorem readCount_eq_iff {reply : Reply ε} {result : Except (RunError ε) Nat} :
    Collection.readCount reply = result ↔ SaysCount reply result := by
  constructor
  · rintro rfl
    rcases reply with e | _ | ⟨e | row, rest⟩
    · exact .refused e
    · exact .empty
    · exact .failed e rest
    · rw [readCount_cons, decodeRow]
      cases hrow : Decoder.word row with
      | error cause => exact .undecodable hrow rest
      | ok n =>
        obtain ⟨rfl, hn⟩ := Decoder.word_eq_ok_iff.mp hrow
        exact .counted hn rest
  · intro h
    cases h with
    | refused e => rfl
    | failed e rest => rfl
    | empty => rfl
    | counted hn rest =>
      rw [readCount_cons, decodeRow, Decoder.word_eq_ok_iff.mpr ⟨rfl, hn⟩]
      rfl
    | undecodable hrow rest =>
      rw [readCount_cons, decodeRow, hrow]
      rfl

/-- A reply says one thing. -/
theorem SaysCount.unique {reply : Reply ε} {result result' : Except (RunError ε) Nat}
    (h : SaysCount reply result) (h' : SaysCount reply result') : result = result' :=
  (readCount_eq_iff.mpr h).symm.trans (readCount_eq_iff.mpr h')

/-! ### The first document -/

/-- What a cursor yields if the first row is wanted as a document. -/
inductive Cursor.YieldsFirst (decode : Decoder α) :
    Cursor ε → Except (RunError ε) (Option α) → Prop
  | empty : YieldsFirst decode [] (.ok none)
  | failed (e : ε) (rest : Cursor ε) : YieldsFirst decode (.error e :: rest) (.error (.database e))
  | document {row : Json} {document : α} (h : decode row = .ok document) (rest : Cursor ε) :
      YieldsFirst decode (.ok row :: rest) (.ok (some document))
  | undecodable {row : Json} {cause : DecodeError} (h : decode row = .error cause)
      (rest : Cursor ε) : YieldsFirst decode (.ok row :: rest) (.error (.decode cause))

private theorem readFirst_cons (c : Collection α) (row : Json) (rest : Cursor ε) :
    c.readFirst (.ok (.ok row :: rest)) = some <$> decodeRow c.decode row := rfl

/-- **The first document is read off a cursor** as the cursor yields it. -/
theorem readFirst_eq_iff {c : Collection α} {cursor : Cursor ε}
    {outcome : Except (RunError ε) (Option α)} :
    c.readFirst (.ok cursor) = outcome ↔ cursor.YieldsFirst c.decode outcome := by
  constructor
  · rintro rfl
    rcases cursor with - | ⟨e | row, rest⟩
    · exact .empty
    · exact .failed e rest
    · rw [readFirst_cons, decodeRow]
      cases hrow : c.decode row with
      | error cause => exact .undecodable hrow rest
      | ok document => exact .document hrow rest
  · intro h
    cases h with
    | empty => rfl
    | failed e rest => rfl
    | document h rest | undecodable h rest =>
      rw [readFirst_cons, decodeRow, h]
      rfl

/-! ### Going on and stopping -/

@[simp]
theorem Run.orElseStop_ok {β : Type} (a : α) (next : α → Run ε β) :
    Run.orElseStop (.ok a) next = next a := rfl

@[simp]
theorem Run.orElseStop_error {β : Type} (e : RunError ε) (next : α → Run ε β) :
    Run.orElseStop (.error e) next = .done (.error e) := rfl

/-! ### Terms in JSON -/

theorem withJsonTerms_of_ok (r : Request) (run : Request → Run ε α) {json : Json} {terms : Terms}
    (h : Terms.ofJson json = .ok terms) :
    withJsonTerms json r run = run { r with terms := some terms } := by
  rw [withJsonTerms, h]

/-- Terms that do not compile leave nothing behind but the error. -/
theorem answer_withJsonTerms_of_error (r : Request) (run : Request → Run ε α) (exhausted : ε)
    (replies : List (Reply ε)) {json : Json} {e : CompileError} (h : Terms.ofJson json = .error e) :
    (withJsonTerms json r run).answer exhausted replies =
      ⟨.error (.compile e), [], [], replies⟩ := by
  rw [withJsonTerms, h]
  rfl

/-! ### Replies in order -/

/-- The reply to the query with `k` queries before it. Behind the end of the list, queries fail. -/
def replyAt (exhausted : ε) (replies : List (Reply ε)) (k : Nat) : Reply ε :=
  replies.getD k (.error exhausted)

theorem replyAt_tail (exhausted : ε) (replies : List (Reply ε)) (k : Nat) :
    replyAt exhausted replies.tail k = replyAt exhausted replies (k + 1) := by
  cases replies with
  | nil => rfl
  | cons reply replies => rfl

/-- A query that is asked takes the first reply. -/
theorem Dialogue.answer_ask (exhausted : ε) (purpose : Purpose) (query : Query)
    (next : Reply ε → Dialogue ε α) (replies : List (Reply ε)) :
    (ask purpose query next).answer exhausted replies =
      let rest := (next (replyAt exhausted replies 0)).answer exhausted replies.tail
      ⟨rest.result, query :: rest.queries,
        .announce purpose query :: rest.log, rest.remaining⟩ := by
  cases replies with
  | nil => rfl
  | cons reply replies => rfl

end DocQuery
