import DocQuery.Proofs.ForMathlib
import DocQuery.Proofs.Fragment.Steps

/-!
# The variables of a query

A query numbers values and names of collections together, from the left. Two families of keys carry
the numbers, `valueN` and `@valueN`, and a key tells its number (`Part.HasNumber.unique`), so no key
occurs twice (`Fragment.nodup_keys_bindingsFrom`).

That is why a table will do for the variables. `Draft.add` enters each variable in a table under a
key that is made from the size of the table, and would replace what is there already. It never
does: as long as the keys in the table have smaller numbers than its size
(`Draft.IsNumbered`), the key that comes next is a new one. So the table of a draft is the list of
variables (`Draft.fill_eq`).

`Fragment.query_isNumbering` says which word and which variable each part of a fragment has, for all
fragments that steps build.
-/

namespace DocQuery

/-! ### Keys and their numbers -/

namespace Part

/-- The key is one that a variable of this number may have. -/
inductive HasNumber (n : Nat) : String → Prop
  | value : HasNumber n (variableName n)
  | collection : HasNumber n ("@" ++ variableName n)

private theorem variableName_ne_at (m n : Nat) : variableName m ≠ "@" ++ variableName n := by
  intro h
  have hhead := congrArg (fun s => s.toList.head?) h
  simp [variableName, String.toList_append] at hhead

private theorem eq_of_variableName_eq {m n : Nat} (h : variableName m = variableName n) :
    m = n :=
  Nat.eq_of_repr_eq ((String.append_right_inj "value").mp h)

/-- **A key tells its number**, and which family it is from. -/
theorem HasNumber.unique {m n : Nat} {key : String} (hm : HasNumber m key)
    (hn : HasNumber n key) : m = n := by
  generalize hkey : key = key' at hn
  cases hm with
  | value =>
    cases hn with
    | value => exact eq_of_variableName_eq hkey
    | collection => exact absurd hkey (variableName_ne_at m n)
  | collection =>
    cases hn with
    | value => exact absurd hkey.symm (variableName_ne_at n m)
    | collection => exact eq_of_variableName_eq ((String.append_right_inj "@").mp hkey)

/-- What a part passes beside the text goes by the number of variables before it. -/
theorem hasNumber_of_binding? {n : Nat} {p : Part} {entry : String × Json}
    (h : p.binding? n = some entry) : HasNumber n entry.1 := by
  cases p with
  | literal text => exact absurd h (by simp [binding?])
  | value v =>
    obtain rfl := Option.some.inj h
    exact .value
  | collection name =>
    obtain rfl := Option.some.inj h
    exact .collection

end Part

namespace Fragment

open DocQuery.Part (HasNumber)

/-- The variables of parts have the numbers from `n` on. -/
theorem exists_hasNumber_of_mem_bindingsFrom {n : Nat} {parts : List Part}
    {entry : String × Json} (h : entry ∈ bindingsFrom n parts) :
    ∃ k, n ≤ k ∧ HasNumber k entry.1 := by
  induction parts generalizing n with
  | nil => exact absurd h List.not_mem_nil
  | cons p parts ih =>
    rw [bindingsFrom] at h
    rcases List.mem_append.mp h with hfirst | hrest
    · exact ⟨n, Nat.le_refl n, Part.hasNumber_of_binding? (Option.mem_toList.mp hfirst)⟩
    · obtain ⟨k, hk, hnumber⟩ := ih hrest
      refine ⟨k, Nat.le_trans ?_ hk, hnumber⟩
      unfold Part.next
      split <;> omega

/-- **No key occurs twice.** -/
theorem nodup_keys_bindingsFrom (n : Nat) (parts : List Part) :
    ((bindingsFrom n parts).map Prod.fst).Nodup := by
  induction parts generalizing n with
  | nil => exact List.nodup_nil
  | cons p parts ih =>
    -- the variables behind a variable have larger numbers
    have hfresh : ∀ key, HasNumber n key → key ∉ (bindingsFrom (n + 1) parts).map Prod.fst := by
      intro key hkey hmem
      obtain ⟨entry, hentry, rfl⟩ := List.mem_map.mp hmem
      obtain ⟨k, hk, hnumber⟩ := exists_hasNumber_of_mem_bindingsFrom hentry
      have hkn := hnumber.unique hkey
      omega
    cases p with
    | literal text => exact ih n
    | value v => exact List.nodup_cons.mpr ⟨hfresh _ .value, ih (n + 1)⟩
    | collection name => exact List.nodup_cons.mpr ⟨hfresh _ .collection, ih (n + 1)⟩

/-- Parts count on by those among them that are bound. -/
theorem countFrom_eq_countP (n : Nat) (parts : List Part) :
    countFrom n parts = n + parts.countP Part.isBound := by
  induction parts generalizing n with
  | nil => rfl
  | cons p parts ih =>
    rw [countFrom, List.foldl_cons, ← countFrom, ih, List.countP_cons, Part.next]
    split <;> omega

end Fragment

/-! ### Filling a table -/

/-- Enters a value under a key. What is there under this key is replaced. -/
def enter (key : String) (v : Json) : List (String × Json) → List (String × Json)
  | [] => [(key, v)]
  | (k, w) :: rest => if k = key then (k, v) :: rest else (k, w) :: enter key v rest

/-- A new key comes behind those that are there. -/
theorem enter_of_not_mem {key : String} (v : Json) {table : List (String × Json)}
    (h : key ∉ table.map Prod.fst) : enter key v table = table ++ [(key, v)] := by
  induction table with
  | nil => rfl
  | cons entry table ih =>
    rw [List.map_cons, List.mem_cons, not_or] at h
    rw [enter, if_neg (Ne.symm h.1), ih h.2]
    rfl

/-- A query that is being put together: the words and the table of variables so far. -/
structure Draft where
  words : List String := []
  table : List (String × Json) := []

namespace Draft

/-- Adds a part. The size of the table is the number of the variable that comes next. -/
def add (d : Draft) : Part → Draft
  | .literal text => { d with words := d.words ++ [text] }
  | .value v =>
    let name := "value" ++ d.table.length.repr
    ⟨d.words ++ ["@" ++ name], enter name v d.table⟩
  | .collection c =>
    let name := "value" ++ d.table.length.repr
    ⟨d.words ++ ["@@" ++ name], enter ("@" ++ name) (.str c) d.table⟩

/-- The draft of parts. -/
def fill (parts : List Part) : Draft :=
  parts.foldl add {}

/-- The numbers in the table are smaller than its size. -/
def IsNumbered (d : Draft) : Prop :=
  ∀ entry ∈ d.table, ∃ k, k < d.table.length ∧ Part.HasNumber k entry.1

variable {d : Draft}

/-- A key that is made from the size of the table is not in the table. -/
theorem IsNumbered.not_mem_keys (h : d.IsNumbered) {key : String}
    (hkey : Part.HasNumber d.table.length key) : key ∉ d.table.map Prod.fst := by
  intro hmem
  obtain ⟨entry, hentry, rfl⟩ := List.mem_map.mp hmem
  obtain ⟨k, hk, hnumber⟩ := h entry hentry
  exact absurd (hnumber.unique hkey) (Nat.ne_of_lt hk)

/-- A part adds its word and, if it is bound, one variable behind the others. -/
theorem IsNumbered.add_eq (h : d.IsNumbered) (p : Part) :
    d.add p = ⟨d.words ++ [p.word d.table.length],
      d.table ++ (p.binding? d.table.length).toList⟩ := by
  cases p with
  | literal text => simp [add, Part.word, Part.binding?]
  | value v =>
    have hnew := enter_of_not_mem v (h.not_mem_keys .value)
    exact congrArg (Draft.mk _) hnew
  | collection name =>
    have hnew := enter_of_not_mem (.str name) (h.not_mem_keys .collection)
    exact congrArg (Draft.mk _) hnew

theorem IsNumbered.length_table_add (h : d.IsNumbered) (p : Part) :
    (d.add p).table.length = p.next d.table.length := by
  rw [h.add_eq]
  cases p <;> simp [Part.binding?, Part.next, Part.isBound]

/-- The keys stay new. -/
theorem IsNumbered.add (h : d.IsNumbered) (p : Part) : (d.add p).IsNumbered := by
  intro entry hentry
  rw [h.length_table_add p]
  rw [h.add_eq] at hentry
  rcases List.mem_append.mp hentry with hold | hnew
  · obtain ⟨k, hk, hnumber⟩ := h entry hold
    refine ⟨k, Nat.lt_of_lt_of_le hk ?_, hnumber⟩
    unfold Part.next
    split <;> omega
  · have hbinding := Option.mem_toList.mp hnew
    refine ⟨d.table.length, ?_, Part.hasNumber_of_binding? hbinding⟩
    cases p <;> simp_all [Part.next, Part.isBound, Part.binding?]

/-- **A draft that is filled on** has the words and variables of the parts, numbered from its size. -/
theorem IsNumbered.foldl_add (h : d.IsNumbered) (parts : List Part) :
    parts.foldl Draft.add d =
      ⟨d.words ++ Fragment.wordsFrom d.table.length parts,
        d.table ++ Fragment.bindingsFrom d.table.length parts⟩ := by
  induction parts generalizing d with
  | nil => simp [Fragment.wordsFrom, Fragment.bindingsFrom]
  | cons p parts ih =>
    rw [List.foldl_cons, ih (h.add p), h.length_table_add p, h.add_eq p, Fragment.wordsFrom,
      Fragment.bindingsFrom]
    simp

theorem isNumbered_empty : ({} : Draft).IsNumbered :=
  fun _ h => absurd h List.not_mem_nil

/-- **Filling a table** gives the words and the variables of the parts. -/
theorem fill_eq (parts : List Part) :
    fill parts = ⟨Fragment.wordsFrom 0 parts, Fragment.bindingsFrom 0 parts⟩ :=
  isNumbered_empty.foldl_add parts

/-- What is in the table stays there as it is. -/
theorem table_fill_prefix (before after : List Part) :
    (fill before).table <+: (fill (before ++ after)).table := by
  rw [fill_eq, fill_eq, Fragment.bindingsFrom_append]
  exact List.prefix_append _ _

end Draft

/-! ### The numbers of parts -/

namespace Fragment

/-- Each part has a word, and each bound part a variable. With `k` bound parts in front of it, a
value goes by `valuek` and the name of a collection by `@valuek`. There are no other variables, and
no two of them go by the same key. -/
structure IsNumbering (parts : List Part) (words : List String) (vars : List (String × Json)) :
    Prop where
  length_words : words.length = parts.length
  length_vars : vars.length = parts.countP Part.isBound
  nodup_keys : (vars.map Prod.fst).Nodup
  literal : ∀ before text after, parts = before ++ .literal text :: after →
    words[before.length]? = some text
  value : ∀ before v after, parts = before ++ .value v :: after →
    let k := before.countP Part.isBound
    words[before.length]? = some ("@value" ++ k.repr) ∧ vars[k]? = some ("value" ++ k.repr, v)
  collection : ∀ before name after, parts = before ++ .collection name :: after →
    let k := before.countP Part.isBound
    words[before.length]? = some ("@@value" ++ k.repr) ∧
      vars[k]? = some ("@value" ++ k.repr, .str name)

theorem length_wordsFrom (n : Nat) (parts : List Part) :
    (wordsFrom n parts).length = parts.length := by
  induction parts generalizing n with
  | nil => rfl
  | cons p parts ih => simp [wordsFrom, ih]

theorem length_bindingsFrom (n : Nat) (parts : List Part) :
    (bindingsFrom n parts).length = parts.countP Part.isBound := by
  have hcount := countFrom_eq n parts
  rw [countFrom_eq_countP] at hcount
  omega

/-- How parts go into a query behind `n` variables. Each part has a word, and each bound part a
variable. They carry the number of bound parts in front, counted on from `n`. -/
structure IsRendering (n : Nat) (parts : List Part) (words : List String)
    (vars : List (String × Json)) : Prop where
  length_words : words.length = parts.length
  length_vars : vars.length = parts.countP Part.isBound
  word : ∀ before p after, parts = before ++ p :: after →
    words[before.length]? = some (p.word (n + before.countP Part.isBound))
  var : ∀ before p after, parts = before ++ p :: after → p.isBound →
    vars[before.countP Part.isBound]? = p.binding? (n + before.countP Part.isBound)

/-- **Words and variables render the parts**, from any number on. -/
theorem isRendering (n : Nat) (parts : List Part) :
    IsRendering n parts (wordsFrom n parts) (bindingsFrom n parts) where
  length_words := length_wordsFrom n parts
  length_vars := length_bindingsFrom n parts
  word := by
    rintro before p after rfl
    have hlength := length_wordsFrom n before
    rw [wordsFrom_append, ← hlength, List.getElem?_append_right (Nat.le_refl _), Nat.sub_self,
      countFrom_eq_countP]
    rfl
  var := by
    rintro before p after rfl hbound
    have hlength := length_bindingsFrom n before
    obtain ⟨entry, hentry⟩ : ∃ entry, p.binding? (n + before.countP Part.isBound) = some entry := by
      rcases p with text | v | name
      · exact absurd hbound Bool.false_ne_true
      · exact ⟨_, rfl⟩
      · exact ⟨_, rfl⟩
    rw [bindingsFrom_append, bindingsFrom, countFrom_eq_countP, hentry, ← hlength,
      List.getElem?_append_right (Nat.le_refl _), Nat.sub_self]
    rfl

/-- Words and variables number the parts. -/
theorem isNumbering (parts : List Part) :
    IsNumbering parts (wordsFrom 0 parts) (bindingsFrom 0 parts) where
  length_words := length_wordsFrom 0 parts
  length_vars := length_bindingsFrom 0 parts
  nodup_keys := nodup_keys_bindingsFrom 0 parts
  literal before text after h := (isRendering 0 parts).word before (.literal text) after h
  value before v after h := by
    have hword := (isRendering 0 parts).word before (.value v) after h
    have hvar := (isRendering 0 parts).var before (.value v) after h rfl
    rw [Nat.zero_add] at hword hvar
    exact ⟨hword, hvar⟩
  collection before name after h := by
    have hword := (isRendering 0 parts).word before (.collection name) after h
    have hvar := (isRendering 0 parts).var before (.collection name) after h rfl
    rw [Nat.zero_add] at hword hvar
    exact ⟨hword, hvar⟩

/-- **Variables are numbered from the left.** The query of a fragment that is built step by step is
what a table gives that is filled with the parts the steps supply. Its words and variables number
these parts, and at no point has anything in the table been replaced. -/
theorem query_isNumbering (steps : List Step) :
    let parts := partsOf steps
    let draft := Draft.fill parts
    (ofSteps steps).query = ⟨" ".intercalate draft.words, draft.table⟩ ∧
      IsNumbering parts draft.words draft.table ∧
      ∀ before after, parts = before ++ after → (Draft.fill before).table <+: draft.table := by
  intro parts draft
  have hdraft : draft = ⟨wordsFrom 0 parts, bindingsFrom 0 parts⟩ := Draft.fill_eq parts
  refine ⟨?_, ?_, ?_⟩
  · rw [query, parts_ofSteps, hdraft]
  · rw [hdraft]
    exact isNumbering parts
  · intro before after hparts
    have hfill : draft = Draft.fill (before ++ after) := congrArg Draft.fill hparts
    rw [hfill]
    exact Draft.table_fill_prefix before after

/-- A fragment that is appended twice is bound twice, under other numbers. -/
example :
    let owner : Step := .append [.collection "pets", .append [.absent, .value (.str "rex")]]
    let query := (ofSteps [.literal " FOR i IN ", owner, .literal "\t", owner]).query
    query.text = "FOR i IN @@value0 @value1 @@value2 @value3" ∧
      query.bindVars.map Prod.fst = ["@value0", "value1", "@value2", "value3"] := by
  decide

end Fragment

end DocQuery
