import DocQuery.Proofs.Terms.FirstFault

/-!
# Filters in JSON and filters that are put together

The entries of a filter in JSON stand for operations on filters. An entry keyed by an operator adds
a condition (`Filter.compareEntry`), and the entry `mode` chooses the connective
(`Filter.chooseEntry`). The choice commutes with the conditions
(`Filter.foldlM_compareEntry_setMode`), so it may wait until all conditions are there
(`Filter.foldlM_addEntry_eq_ok_iff`). Hence acceptance and the filter depend on the two kinds of
entries and not on how they are mixed (`Filter.ofEntries_eq_ok_congr`).

`Filter.ofJson_agrees_with_conditions` draws the conclusions for all objects.
-/

namespace DocQuery

/-- What the grammar asks of an entry, said with the decoders. -/
theorem Json.isFilterEntry_iff {entry : String × Json} :
    Json.IsFilterEntry entry ↔
      if entry.1 = Filter.modeKey then entry.2 = .str "AND" ∨ entry.2 = .str "OR"
      else entry.1 ∈ Operator.names ∧ ∃ operand, Operand.ofJson entry.2 = .ok operand := by
  obtain ⟨key, value⟩ := entry
  have hname : Filter.modeKey ∉ Operator.names := by decide
  split_ifs with hmode
  · obtain rfl : key = Filter.modeKey := hmode
    constructor
    · rintro (- | - | ⟨hkey, -⟩)
      · exact .inl rfl
      · exact .inr rfl
      · exact absurd hkey hname
    · rintro (rfl | rfl)
      · exact .and
      · exact .or
  · rw [Operand.exists_ofJson_iff]
    constructor
    · rintro (- | - | ⟨hkey, hvalue⟩)
      · exact absurd rfl hmode
      · exact absurd rfl hmode
      · exact ⟨hkey, hvalue⟩
    · rintro ⟨hkey, hvalue⟩
      exact .comparison hkey hvalue

namespace Filter

/-! ### Operations -/

/-- Adds a condition keyed by the name of its operator, with the operand of a JSON value. -/
def compareEntry (f : Filter) (entry : String × Json) : Except CompileError Filter := do
  let operand ← Operand.ofJson entry.2
  f.condition entry.1 (some operand)

/-- Chooses the connective that an entry spells. -/
def chooseEntry (f : Filter) (entry : String × Json) : Except CompileError Filter :=
  (Mode.ofJson entry.2).map f.setMode

/-- The condition compares as the entry says. -/
def IsConditionOf (entry : String × Json) (condition : Condition) : Prop :=
  Operator.ofName entry.1 = .ok condition.operator ∧
    ∃ operand, Operand.ofJson entry.2 = .ok operand ∧ condition.operand = some operand

theorem compareEntry_eq_ok_iff {f g : Filter} {entry : String × Json} :
    f.compareEntry entry = .ok g ↔
      ∃ condition, IsConditionOf entry condition ∧ g = f.push condition := by
  rw [compareEntry, Except.bind_eq_ok_iff]
  constructor
  · rintro ⟨operand, hoperand, h⟩
    obtain ⟨op, hop, rfl⟩ := Except.map_eq_ok_iff.mp h
    exact ⟨⟨op, some operand⟩, ⟨hop, operand, hoperand, rfl⟩, rfl⟩
  · rintro ⟨⟨op, _⟩, ⟨hop, operand, hoperand, rfl⟩, rfl⟩
    exact ⟨operand, hoperand, Except.map_eq_ok_iff.mpr ⟨op, hop, rfl⟩⟩

theorem addEntry_of_mode {entry : String × Json} (h : entry.1 = modeKey) (f : Filter) :
    f.addEntry entry = f.chooseEntry entry :=
  if_pos h

/-- This is about success only: if the operator and the operand are both at fault, the decoder of
filters reports the one, and the operation the other. -/
theorem addEntry_eq_ok_iff_of_ne {entry : String × Json} (h : entry.1 ≠ modeKey) {f g : Filter} :
    f.addEntry entry = .ok g ↔ f.compareEntry entry = .ok g := by
  rw [addEntry, if_neg h, compareEntry_eq_ok_iff, Except.bind_eq_ok_iff]
  constructor
  · rintro ⟨op, hop, hrest⟩
    obtain ⟨operand, hoperand, hg⟩ := Except.bind_eq_ok_iff.mp hrest
    exact ⟨⟨op, some operand⟩, ⟨hop, operand, hoperand, rfl⟩, (Except.ok.inj hg).symm⟩
  · rintro ⟨⟨op, _⟩, ⟨hop, operand, hoperand, rfl⟩, rfl⟩
    exact ⟨op, hop, Except.bind_eq_ok_iff.mpr ⟨operand, hoperand, rfl⟩⟩

/-! ### The connective commutes with conditions -/

theorem compareEntry_setMode (f : Filter) (mode : Mode) (entry : String × Json) :
    (f.setMode mode).compareEntry entry = (f.compareEntry entry).map (·.setMode mode) := by
  rw [compareEntry, compareEntry]
  rcases Operand.ofJson entry.2 with e | operand
  · rfl
  · change (Operator.ofName entry.1).map _ = ((Operator.ofName entry.1).map _).map _
    rcases Operator.ofName entry.1 with e | op <;> rfl

theorem foldlM_compareEntry_setMode (f : Filter) (mode : Mode) (entries : List (String × Json)) :
    entries.foldlM compareEntry (f.setMode mode) =
      (entries.foldlM compareEntry f).map (·.setMode mode) := by
  induction entries generalizing f with
  | nil => rfl
  | cons entry entries ih =>
    rw [List.foldlM_cons, List.foldlM_cons, compareEntry_setMode]
    rcases f.compareEntry entry with e | g
    · rfl
    · exact ih g

/-- **The connective may wait** until all conditions are there. -/
theorem foldlM_addEntry_eq_ok_iff {entries : List (String × Json)} {f g : Filter} :
    entries.foldlM addEntry f = .ok g ↔
      (entries.filter (·.1 ≠ modeKey)).foldlM compareEntry f >>=
        (entries.filter (·.1 = modeKey)).foldlM chooseEntry = .ok g := by
  induction entries generalizing f with
  | nil => rfl
  | cons entry entries ih =>
    rw [List.foldlM_cons]
    by_cases hmode : entry.1 = modeKey
    · rw [List.filter_cons_of_neg (by simp [hmode]), List.filter_cons_of_pos (by simp [hmode]),
        addEntry_of_mode hmode]
      simp only [List.foldlM_cons, chooseEntry, Except.bind_eq_ok_iff, Except.map_eq_ok_iff]
      constructor
      · rintro ⟨_, ⟨mode, hvalue, rfl⟩, hrest⟩
        obtain ⟨_, hothers, hmodes⟩ := Except.bind_eq_ok_iff.mp (ih.mp hrest)
        rw [foldlM_compareEntry_setMode] at hothers
        obtain ⟨h, hh, rfl⟩ := Except.map_eq_ok_iff.mp hothers
        exact ⟨h, hh, _, ⟨mode, hvalue, rfl⟩, hmodes⟩
      · rintro ⟨h, hh, _, ⟨mode, hvalue, rfl⟩, hmodes⟩
        have hothers : (entries.filter (·.1 ≠ modeKey)).foldlM compareEntry (f.setMode mode) =
            .ok (h.setMode mode) := by
          rw [foldlM_compareEntry_setMode]
          exact Except.map_eq_ok_iff.mpr ⟨h, hh, rfl⟩
        exact ⟨_, ⟨mode, hvalue, rfl⟩, ih.mpr (Except.bind_eq_ok_iff.mpr ⟨_, hothers, hmodes⟩)⟩
    · rw [List.filter_cons_of_pos (by simp [hmode]), List.filter_cons_of_neg (by simp [hmode]),
        List.foldlM_cons, bind_assoc]
      simp only [Except.bind_eq_ok_iff (x := f.addEntry entry),
        Except.bind_eq_ok_iff (x := f.compareEntry entry), addEntry_eq_ok_iff_of_ne hmode, ih]

/-- Acceptance and the filter depend on the two kinds of entries, not on how they are mixed. -/
theorem ofEntries_eq_ok_congr {entries entries' : List (String × Json)}
    (hothers : entries.filter (·.1 ≠ modeKey) = entries'.filter (·.1 ≠ modeKey))
    (hmodes : entries.filter (·.1 = modeKey) = entries'.filter (·.1 = modeKey)) {f : Filter} :
    ofEntries entries = .ok f ↔ ofEntries entries' = .ok f := by
  rw [ofEntries, ofEntries, foldlM_addEntry_eq_ok_iff, foldlM_addEntry_eq_ok_iff, hothers, hmodes]

/-! ### The filter of accepted entries -/

/-- Conditions are added at the end, one for each entry. -/
theorem foldlM_compareEntry_eq_ok {entries : List (String × Json)} {f g : Filter}
    (h : entries.foldlM compareEntry f = .ok g) :
    ∃ added, List.Forall₂ IsConditionOf entries added ∧
      g = { f with conditions := f.conditions ++ added } := by
  induction entries generalizing f with
  | nil =>
    obtain rfl := Except.ok.inj h
    exact ⟨[], .nil, by rw [List.append_nil]⟩
  | cons entry entries ih =>
    rw [List.foldlM_cons] at h
    obtain ⟨f', hf', hrest⟩ := Except.bind_eq_ok_iff.mp h
    obtain ⟨condition, hcondition, rfl⟩ := compareEntry_eq_ok_iff.mp hf'
    obtain ⟨added, hadded, rfl⟩ := ih hrest
    exact ⟨condition :: added, .cons hcondition hadded, by simp [push]⟩

/-- Whatever connectives were chosen, the last one is chosen in the end. -/
theorem foldlM_chooseEntry_eq_ok {entries : List (String × Json)} {f g : Filter}
    (h : entries.foldlM chooseEntry f = .ok g) : g = f.setMode g.mode := by
  induction entries generalizing f with
  | nil =>
    obtain rfl := Except.ok.inj h
    rfl
  | cons entry entries ih =>
    rw [List.foldlM_cons] at h
    obtain ⟨f', hf', hrest⟩ := Except.bind_eq_ok_iff.mp h
    obtain ⟨mode, -, rfl⟩ := Except.map_eq_ok_iff.mp hf'
    rw [ih hrest]
    rfl

variable {entries : List (String × Json)} {f : Filter}

/-- The conditions of a filter are those of its entries, and its connective is put on top. -/
theorem conditions_of_ofEntries (h : ofEntries entries = .ok f) :
    ∃ g, (entries.filter (·.1 ≠ modeKey)).foldlM compareEntry {} = .ok g ∧
      f = g.setMode f.mode ∧
      List.Forall₂ IsConditionOf (entries.filter (·.1 ≠ modeKey)) f.conditions := by
  obtain ⟨g, hg, hf⟩ := Except.bind_eq_ok_iff.mp (foldlM_addEntry_eq_ok_iff.mp h)
  have hmode := foldlM_chooseEntry_eq_ok hf
  obtain ⟨added, hadded, rfl⟩ := foldlM_compareEntry_eq_ok hg
  refine ⟨_, hg, hmode, ?_⟩
  rw [hmode]
  exact hadded

/-- Without `mode` all conditions must hold. -/
theorem mode_of_ofEntries_of_forall_ne (h : ofEntries entries = .ok f)
    (hmode : ∀ entry ∈ entries, entry.1 ≠ modeKey) : f.mode = .and := by
  obtain ⟨g, hg, hf⟩ := Except.bind_eq_ok_iff.mp (foldlM_addEntry_eq_ok_iff.mp h)
  rw [List.filter_eq_nil_iff.mpr (by simpa using hmode)] at hf
  obtain rfl := Except.ok.inj hf
  obtain ⟨added, -, rfl⟩ := foldlM_compareEntry_eq_ok hg
  rfl

/-- The last `mode` counts. -/
theorem mode_of_ofEntries {before after : List (String × Json)} {value : Json}
    (h : ofEntries (before ++ (modeKey, value) :: after) = .ok f)
    (hafter : ∀ entry ∈ after, entry.1 ≠ modeKey) : value = .str f.mode.word := by
  obtain ⟨g, -, hf⟩ := Except.bind_eq_ok_iff.mp (foldlM_addEntry_eq_ok_iff.mp h)
  have hmodes : (before ++ (modeKey, value) :: after).filter (·.1 = modeKey) =
      before.filter (·.1 = modeKey) ++ [(modeKey, value)] := by
    have hnone : after.filter (·.1 = modeKey) = [] :=
      List.filter_eq_nil_iff.mpr (by simpa using hafter)
    rw [List.filter_append, List.filter_cons_of_pos (by simp), hnone]
  rw [hmodes] at hf
  obtain ⟨g', -, hlast⟩ := List.foldlM_concat_eq_ok_iff.mp hf
  obtain ⟨mode, hmode, rfl⟩ := Except.map_eq_ok_iff.mp hlast
  exact Mode.eq_of_ofJson hmode

/-- The connective may be chosen between any two conditions. -/
theorem foldlM_compareEntry_of_ofEntries (h : ofEntries entries = .ok f)
    {before after : List (String × Json)}
    (hsplit : entries.filter (·.1 ≠ modeKey) = before ++ after) :
    (do
      let g ← before.foldlM compareEntry {}
      after.foldlM compareEntry (g.setMode f.mode)) = .ok f := by
  obtain ⟨g, hg, hf, -⟩ := conditions_of_ofEntries h
  rw [hsplit, List.foldlM_append] at hg
  obtain ⟨k, hbefore, hafter⟩ := Except.bind_eq_ok_iff.mp hg
  refine Except.bind_eq_ok_iff.mpr ⟨k, hbefore, ?_⟩
  rw [foldlM_compareEntry_setMode]
  exact Except.map_eq_ok_iff.mpr ⟨g, hafter, hf.symm⟩

/-- An entry `mode` beside others is the only one of its kind. -/
private theorem filter_insert_mode (hmode : ∀ entry ∈ entries, entry.1 ≠ modeKey) (value : Json)
    {before after : List (String × Json)} (hsplit : entries = before ++ after) :
    (before ++ (modeKey, value) :: after).filter (·.1 ≠ modeKey) = entries ∧
      (before ++ (modeKey, value) :: after).filter (·.1 = modeKey) = [(modeKey, value)] := by
  obtain rfl := hsplit
  obtain ⟨hbefore, hafter⟩ := List.forall_mem_append.mp hmode
  constructor
  · rw [List.filter_append, List.filter_cons_of_neg (by simp),
      List.filter_eq_self.mpr (by simpa using hbefore),
      List.filter_eq_self.mpr (by simpa using hafter)]
  · have hnone (xs : List (String × Json)) (h : ∀ entry ∈ xs, entry.1 ≠ modeKey) :
        xs.filter (·.1 = modeKey) = [] := List.filter_eq_nil_iff.mpr (by simpa using h)
    rw [List.filter_append, List.filter_cons_of_pos (by simp), hnone before hbefore,
      hnone after hafter, List.nil_append]

/-- The entry `mode` may stand anywhere among the others. -/
theorem ofEntries_insert_mode (hmode : ∀ entry ∈ entries, entry.1 ≠ modeKey) (value : Json)
    {before after before' after' : List (String × Json)} (hsplit : entries = before ++ after)
    (hsplit' : entries = before' ++ after') :
    ofEntries (before ++ (modeKey, value) :: after) = .ok f ↔
      ofEntries (before' ++ (modeKey, value) :: after') = .ok f := by
  obtain ⟨hothers, hmodes⟩ := filter_insert_mode hmode value hsplit
  obtain ⟨hothers', hmodes'⟩ := filter_insert_mode hmode value hsplit'
  exact ofEntries_eq_ok_congr (hothers.trans hothers'.symm) (hmodes.trans hmodes'.symm)

/-- **Filters in JSON agree with filters that are put together.** An object is accepted if each of
its entries is either `mode` with one of the connectives or an operator with an operand. The filter
then has one condition for each operator, in the order of the entries. It comes about as well by
adding these conditions one after another and choosing the connective anywhere in between; without
`mode`, that is the first of the two. Where `mode` stands among the other entries decides neither
whether the object is accepted nor what its filter is. An object that is not accepted is reported by
the first of its entries that is at fault. -/
theorem ofJson_agrees_with_conditions (entries : List (String × Json)) :
    ((∃ f, ofJson (.obj entries) = .ok f) ↔ ∀ entry ∈ entries,
      if entry.1 = modeKey then entry.2 = .str "AND" ∨ entry.2 = .str "OR"
      else entry.1 ∈ Operator.names ∧ ∃ operand, Operand.ofJson entry.2 = .ok operand) ∧
    (∀ f, ofJson (.obj entries) = .ok f →
      List.Forall₂ IsConditionOf (entries.filter (·.1 ≠ modeKey)) f.conditions ∧
      ((∀ entry ∈ entries, entry.1 ≠ modeKey) → f.mode = .and) ∧
      (∀ before value after, entries = before ++ (modeKey, value) :: after →
        (∀ entry ∈ after, entry.1 ≠ modeKey) → value = .str f.mode.word) ∧
      ∀ before after, entries.filter (·.1 ≠ modeKey) = before ++ after →
        (do
          let g ← before.foldlM compareEntry {}
          after.foldlM compareEntry (g.setMode f.mode)) = .ok f) ∧
    (∀ before after before' after' value, (∀ entry ∈ entries, entry.1 ≠ modeKey) →
      entries = before ++ after → entries = before' ++ after' → ∀ f,
      ofJson (.obj (before ++ (modeKey, value) :: after)) = .ok f ↔
        ofJson (.obj (before' ++ (modeKey, value) :: after')) = .ok f) ∧
    ∀ e, ofJson (.obj entries) = .error e ↔
      entries.HasFirst Json.IsFilterEntry (Json.FilterEntryFault · e) := by
  refine ⟨?_, fun f h => ⟨?_, mode_of_ofEntries_of_forall_ne h, ?_, fun before after hsplit =>
    foldlM_compareEntry_of_ofEntries h hsplit⟩, ?_, fun e => ofEntries_eq_error_iff⟩
  · simp only [← Json.isFilterEntry_iff]
    exact List.exists_foldlM_eq_ok_iff exists_addEntry_iff
  · obtain ⟨g, -, -, hconditions⟩ := conditions_of_ofEntries h
    exact hconditions
  · rintro before value after rfl hafter
    exact mode_of_ofEntries h hafter
  · exact fun before after before' after' value hmode hsplit hsplit' f =>
      ofEntries_insert_mode hmode value hsplit hsplit'

/-- Two ends of a range, with the connective between them. -/
example :
    ofJson (.obj [("lt", .int 0), ("mode", .str "OR"), ("gt", .int 9)]) =
      .ok (((({} : Filter).setMode .or).compare .lt (.scalar (.int 0))).compare .gt
        (.scalar (.int 9))) :=
  rfl

end Filter

end DocQuery
