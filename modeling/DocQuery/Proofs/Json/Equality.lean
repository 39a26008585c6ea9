import DocQuery.Proofs.ForMathlib
import DocQuery.Proofs.Json.Lookup

/-!
# Comparing objects

Objects are equal if each key of the one leads to an equal value in the other, wherever it stands.
Where two objects have the same keys in the same order, and no key twice, this is equality entry by
entry (`Json.beq_obj_of_keys_eq`).

A value equals itself unless it holds a double that is not a number, or an object that has a key
twice (`Json.IsRegular.beq_self`).
-/

namespace DocQuery.Json

/-- Entries under the same key are compared by their values. -/
theorem entry_beq (key : String) (v w : Json) : ((key, v) == (key, w)) = (v == w) := by
  change (key == key && v == w) = (v == w)
  rw [beq_self_eq_true, Bool.true_and]

private theorem beqEntries_eq {entries : List (String × Json)}
    (hkeys : (entries.map Prod.fst).Nodup) {xs ys : List (String × Json)} (hys : ys ⊆ entries)
    (h : xs.map Prod.fst = ys.map Prod.fst) : beqEntries xs entries = (xs == ys) := by
  induction xs generalizing ys with
  | nil =>
    cases ys with
    | nil => rfl
    | cons y ys => exact absurd h (by simp)
  | cons x xs ih =>
    cases ys with
    | nil => exact absurd h (by simp)
    | cons y ys =>
      obtain ⟨k, v⟩ := x
      obtain ⟨k', w⟩ := y
      obtain ⟨rfl, hrest⟩ := List.cons.inj h
      obtain ⟨hfirst, hothers⟩ := List.cons_subset.mp hys
      rw [beqEntries, lookup_eq_some hkeys hfirst, ih hothers hrest, List.cons_beq_cons, entry_beq]
      rfl

/-- **Objects with the same keys** in the same order are compared entry by entry. -/
theorem beq_obj_of_keys_eq {xs ys : List (String × Json)} (hkeys : (ys.map Prod.fst).Nodup)
    (h : xs.map Prod.fst = ys.map Prod.fst) : (Json.obj xs == Json.obj ys) = (xs == ys) := by
  have hlength : xs.length = ys.length := by
    rw [← List.length_map (f := Prod.fst), h, List.length_map]
  change (xs.length == ys.length && beqEntries xs ys) = (xs == ys)
  rw [hlength, beq_self_eq_true, Bool.true_and, beqEntries_eq hkeys (List.Subset.refl ys) h]

/-! ### Values that equal themselves -/

/-- Values in which each double is a number, so that it equals itself, and in which no object has a
key twice. -/
inductive IsRegular : Json → Prop
  | null : IsRegular .null
  | bool (b : Bool) : IsRegular (.bool b)
  | int (n : Int) : IsRegular (.int n)
  | double {x : Float} (h : x == x) : IsRegular (.double x)
  | str (s : String) : IsRegular (.str s)
  | arr {items : List Json} (h : ∀ item ∈ items, IsRegular item) : IsRegular (.arr items)
  | obj {entries : List (String × Json)} (hkeys : (entries.map Prod.fst).Nodup)
      (h : ∀ entry ∈ entries, IsRegular entry.2) : IsRegular (.obj entries)

private theorem beqItems_eq (xs ys : List Json) : beqItems xs ys = (xs == ys) := by
  induction xs generalizing ys with
  | nil => cases ys <;> rfl
  | cons x xs ih =>
    rcases ys with - | ⟨y, ys⟩
    · rfl
    · rw [beqItems, List.cons_beq_cons, ih]
      rfl

/-- **Regular values equal themselves.** -/
theorem IsRegular.beq_self {value : Json} (h : value.IsRegular) : (value == value) = true := by
  induction h with
  | null => rfl
  | bool b => exact beq_self_eq_true b
  | int n => exact beq_self_eq_true n
  | double h => exact h
  | str s => exact beq_self_eq_true s
  | arr _ ih =>
    change beqItems _ _ = true
    rw [beqItems_eq]
    exact List.beq_self_of_forall_mem ih
  | obj hkeys _ ih =>
    rw [beq_obj_of_keys_eq hkeys rfl]
    refine List.beq_self_of_forall_mem fun entry hentry => ?_
    rw [entry_beq]
    exact ih entry hentry

end DocQuery.Json
