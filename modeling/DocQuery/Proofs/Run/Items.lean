import DocQuery.Proofs.Run.Replies

/-!
# Items taken from a cursor

There are two ways to read a cursor. `Cursor.next` takes one item and leaves the others, and a
failure is an item like any other. `Cursor.all` takes rows as long as there are any, and a failure
ends it.

Any number of calls of `next` returns the items in order, and nothing when there are none left
(`Cursor.nexts_eq`). To take all rows is to call `next` until nothing or a failure comes
(`Cursor.all_eq_iff_drains`), wherever one begins. `Cursor.nexts_then_all` says this of both ways
together.
-/

namespace DocQuery.Cursor

variable {ε : Type} {cursor rest : Cursor ε}

/-! ### Single items -/

theorem next_eq_drained_iff : cursor.next = (.ok none, rest) ↔ cursor = [] ∧ rest = [] := by
  rcases cursor with - | ⟨e | row, items⟩ <;> simp [next, eq_comm]

theorem next_eq_failed_iff {e : ε} :
    cursor.next = (.error e, rest) ↔ cursor = .error e :: rest := by
  rcases cursor with - | ⟨e | row, items⟩ <;> simp [next]

theorem next_eq_row_iff {row : Json} :
    cursor.next = (.ok (some row), rest) ↔ cursor = .ok row :: rest := by
  rcases cursor with - | ⟨e | row, items⟩ <;> simp [next]

/-! ### Several items -/

/-- What `k` calls return, one after another, and what is left behind them. -/
def nexts : Nat → Cursor ε → List (Except ε (Option Json)) × Cursor ε
  | 0, cursor => ([], cursor)
  | k + 1, cursor =>
    let others := nexts k cursor.next.2
    (cursor.next.1 :: others.1, others.2)

/-- **Calls return the items in order**, and nothing when there are none left. -/
theorem nexts_eq (k : Nat) (cursor : Cursor ε) :
    nexts k cursor = ((cursor.take k).map (Except.map some) ++
      List.replicate (k - cursor.length) (.ok none), cursor.drop k) := by
  induction k generalizing cursor with
  | zero => simp [nexts]
  | succ k ih =>
    rcases cursor with - | ⟨item, items⟩
    · simp only [nexts, next, ih]
      simp [List.replicate_succ]
    · have hnext : next (item :: items) = (item.map some, items) := by
        rcases item with e | row <;> rfl
      simp only [nexts, hnext, ih]
      simp

/-! ### All rows -/

/-- What comes of calling `next` until it returns nothing or a failure. -/
inductive Drains : Cursor ε → Except ε (List Json) → Prop
  | drained {cursor rest : Cursor ε} (h : cursor.next = (.ok none, rest)) : Drains cursor (.ok [])
  | failed {cursor rest : Cursor ε} {e : ε} (h : cursor.next = (.error e, rest)) :
      Drains cursor (.error e)
  | row {cursor rest : Cursor ε} {row : Json} {outcome : Except ε (List Json)}
      (h : cursor.next = (.ok (some row), rest)) (hrest : Drains rest outcome) :
      Drains cursor (outcome.map (row :: ·))

/-- **To take all rows** is to call `next` until it returns nothing or a failure. -/
theorem all_eq_iff_drains {outcome : Except ε (List Json)} :
    cursor.all = outcome ↔ cursor.Drains outcome := by
  constructor
  · rintro rfl
    induction cursor with
    | nil => exact .drained rfl
    | cons item items ih =>
      rcases item with e | row
      · exact .failed rfl
      · exact .row rfl ih
  · intro h
    induction h with
    | drained hnext =>
      obtain ⟨rfl, -⟩ := next_eq_drained_iff.mp hnext
      rfl
    | failed hnext =>
      obtain rfl := next_eq_failed_iff.mp hnext
      rfl
    | row hnext _ ih =>
      obtain rfl := next_eq_row_iff.mp hnext
      rw [all, ih]

/-- **Cursors lose, repeat and reorder nothing.** The first `k` calls return the first `k` items in
order, rows as rows and failures as they are, and nothing from the end on; the other items are still
to come. Taking all of these returns the rows if there is no failure among them, and otherwise the
first failure and no rows. That is what further calls come to, up to the first that returns nothing
or a failure. -/
theorem nexts_then_all (cursor : Cursor ε) (k : Nat) :
    ∃ results rest, nexts k cursor = (results, rest) ∧
      results = (cursor.take k).map (Except.map some) ++
        List.replicate (k - cursor.length) (.ok none) ∧
      rest = cursor.drop k ∧
      (∀ rows, rest.all = .ok rows ↔ rest = ofRows rows) ∧
      (∀ e, rest.all = .error e ↔ ∃ rows others, rest = ofRows rows ++ .error e :: others) ∧
      ∀ outcome, rest.all = outcome ↔ rest.Drains outcome :=
  ⟨_, _, nexts_eq k cursor, rfl, rfl, fun _ => all_eq_ok_iff, fun _ => all_eq_error_iff,
    fun _ => all_eq_iff_drains⟩

/-- Behind a failure the rows are still to come. -/
example :
    let cursor : Cursor String := [.ok (.int 1), .error "reset", .ok (.int 2)]
    (nexts 2 cursor).1 = [.ok (some (.int 1)), .error "reset"] ∧
      (nexts 2 cursor).2.all = .ok [.int 2] ∧ (nexts 1 cursor).2.all = .error "reset" :=
  ⟨rfl, rfl, rfl⟩

end DocQuery.Cursor
