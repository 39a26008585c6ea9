import DocQuery.Proofs.Filter.Accepted
import DocQuery.Terms.OfJson

/-!
# The grammar of JSON terms

Which JSON values are terms, said without the decoder (`Json.IsTerms`): an object whose values are
empty, filters or groups. Filters and groups are both objects and are told apart by their keys
alone. In a filter every key is the name of an operator or `mode`; one key of another kind makes a
group, in which all keys are names of fields, those that would do for a filter too.

`Terms.ofJson_grammar` says that the decoder accepts the grammar, and that its result mirrors the
value (`Terms.Mirrors`): the fields have the same names in the same order on all levels, and each
has a term of the kind that its value is of. What a decoder makes of an object depends on what it
makes of the values in it, so the proofs are by induction on those (`Json.induction_on_entries`).
-/

namespace DocQuery

/-! ### The grammar -/

namespace Json

/-- Values that stand for no term: `null`, `false`, zeros and the empty string. -/
inductive IsFalsy : Json → Prop
  | null : IsFalsy .null
  | false : IsFalsy (.bool false)
  | zero : IsFalsy (.int 0)
  | zeroDouble {x : Float} (h : x == 0) : IsFalsy (.double x)
  | emptyString : IsFalsy (.str "")

/-- Values other than lists and objects. -/
inductive IsScalar : Json → Prop
  | null : IsScalar .null
  | bool (b : Bool) : IsScalar (.bool b)
  | int (n : Int) : IsScalar (.int n)
  | double (x : Float) : IsScalar (.double x)
  | str (s : String) : IsScalar (.str s)

/-- Values that an operator takes. -/
inductive IsOperand : Json → Prop
  | scalar {value : Json} (h : value.IsScalar) : IsOperand value
  | list {items : List Json} (h : ∀ item ∈ items, item.IsScalar) : IsOperand (.arr items)

/-- Entries of a filter. -/
inductive IsFilterEntry : String × Json → Prop
  | and : IsFilterEntry ("mode", .str "AND")
  | or : IsFilterEntry ("mode", .str "OR")
  | comparison {key : String} {value : Json} (hkey : key ∈ Operator.names)
      (hvalue : value.IsOperand) : IsFilterEntry (key, value)

/-- Objects that are filters. The empty object is one. -/
def IsFilter (value : Json) : Prop :=
  ∃ entries, value = .obj entries ∧ ∀ entry ∈ entries, IsFilterEntry entry

/-- Some key is neither the name of an operator nor `mode`. -/
def HasFieldKey (entries : List (String × Json)) : Prop :=
  ∃ entry ∈ entries, entry.1 ≠ "mode" ∧ entry.1 ∉ Operator.names

/-- Values that a field may have. -/
inductive IsField : Json → Prop
  | falsy {value : Json} (h : value.IsFalsy) : IsField value
  | filter {value : Json} (h : value.IsFilter) : IsField value
  | group {entries : List (String × Json)} (hkey : HasFieldKey entries)
      (h : ∀ entry ∈ entries, IsField entry.2) : IsField (.obj entries)

/-- Objects that are terms. -/
def IsTerms (value : Json) : Prop :=
  ∃ entries, value = .obj entries ∧ ∀ entry ∈ entries, entry.2.IsField

/-- Objects that are terms and cannot be taken for a filter. -/
def IsGroup (value : Json) : Prop :=
  ∃ entries, value = .obj entries ∧ HasFieldKey entries ∧ ∀ entry ∈ entries, entry.2.IsField

end Json

mutual

/-- The term is of the kind that the value is of. A filter is the one that the value spells, and the
fields of a group mirror the entries of the value. -/
inductive Term.Mirrors : Json → Term → Prop
  | mk {value : Json} {term : Term}
      (skip : term = .skip ↔ value.IsFalsy)
      (filter : (∃ f, term = .filter f) ↔ value.IsFilter)
      (group : (∃ fields, term = .group fields) ↔ value.IsGroup)
      (content : ∀ f, term = .filter f → Filter.ofJson value = .ok f)
      (inner : ∀ entries fields, value = .obj entries → term = .group fields →
        Terms.Mirrors entries fields) :
      Term.Mirrors value term

/-- The terms have the fields of an object, in order. -/
inductive Terms.Mirrors : List (String × Json) → Terms → Prop
  | nil : Terms.Mirrors [] []
  | cons (field : String) {value : Json} {term : Term} {entries : List (String × Json)}
      {terms : Terms} (h : Term.Mirrors value term) (hrest : Terms.Mirrors entries terms) :
      Terms.Mirrors ((field, value) :: entries) ((field, term) :: terms)

end

/-! ### Kinds of values -/

/-- **Induction on the values in objects.** -/
theorem Json.induction_on_entries {motive : Json → Prop}
    (flat : ∀ value, (∀ entries, value ≠ .obj entries) → motive value)
    (obj : ∀ entries, (∀ entry ∈ entries, motive entry.2) → motive (.obj entries)) :
    ∀ value, motive value
  | .obj entries => obj entries fun entry _ => induction_on_entries flat obj entry.2
  | .null | .bool _ | .int _ | .double _ | .str _ | .arr _ => flat _ nofun
termination_by value => value
decreasing_by
  have hmem : sizeOf entry < sizeOf entries := List.sizeOf_lt_of_mem ‹entry ∈ entries›
  have hvalue : sizeOf entry.2 < sizeOf entry := by
    rw [Prod.mk.sizeOf_spec entry.1 entry.2]
    omega
  rw [Json.obj.sizeOf_spec]
  omega

namespace Json

theorem isFalsy_iff {value : Json} : value.isFalsy ↔ value.IsFalsy := by
  constructor
  · intro h
    cases value with
    | null => exact .null
    | bool b =>
      obtain rfl : b = false := by simpa [isFalsy] using h
      exact .false
    | int n =>
      obtain rfl : n = 0 := by simpa [isFalsy] using h
      exact .zero
    | double x => exact .zeroDouble h
    | str s =>
      obtain rfl : s = "" := by simpa [isFalsy] using h
      exact .emptyString
    | arr items => exact Bool.noConfusion h
    | obj entries => exact Bool.noConfusion h
  · intro h
    cases h with
    | zeroDouble h => exact h
    | _ => rfl

/-- No object is a filter and a group. -/
theorem IsFilter.not_hasFieldKey {entries : List (String × Json)}
    (h : (Json.obj entries).IsFilter) : ¬ HasFieldKey entries := by
  obtain ⟨_, heq, hentries⟩ := h
  obtain rfl := Json.obj.inj heq
  rintro ⟨entry, hmem, hmode, hname⟩
  cases hentries entry hmem with
  | and => exact hmode rfl
  | or => exact hmode rfl
  | comparison hkey _ => exact hname hkey

end Json

theorem Operator.mem_names_iff {key : String} : key ∈ names ↔ isName key := by
  simp [names, isName, find?]

theorem Terms.areFields_iff {entries : List (String × Json)} :
    areFields entries ↔ Json.HasFieldKey entries := by
  simp [areFields, Json.HasFieldKey, Filter.isKey, Filter.modeKey, Operator.mem_names_iff]

/-! ### Filters -/

theorem Scalar.exists_ofJson_iff {value : Json} :
    (∃ scalar, Scalar.ofJson value = .ok scalar) ↔ value.IsScalar := by
  constructor
  · rintro ⟨scalar, h⟩
    cases value with
    | arr items => exact absurd h (by simp [ofJson])
    | obj entries => exact absurd h (by simp [ofJson])
    | _ => constructor
  · intro h
    cases h with
    | int n => exact ⟨_, ofJson_int n⟩
    | _ => exact ⟨_, rfl⟩

theorem Operand.exists_ofJson_iff {value : Json} :
    (∃ operand, Operand.ofJson value = .ok operand) ↔ value.IsOperand := by
  have hscalar (v : Json) : (∃ operand, (Scalar.ofJson v).map Operand.scalar = .ok operand) ↔
      v.IsScalar := Except.exists_map_eq_ok_iff.trans Scalar.exists_ofJson_iff
  constructor
  · intro h
    cases value with
    | arr items =>
      rw [ofJson, Except.exists_map_eq_ok_iff, List.exists_mapM_eq_ok_iff] at h
      exact .list fun item hitem => Scalar.exists_ofJson_iff.mp (h item hitem)
    | _ => exact .scalar ((hscalar _).mp h)
  · intro h
    cases h with
    | list hitems =>
      rw [ofJson, Except.exists_map_eq_ok_iff, List.exists_mapM_eq_ok_iff]
      exact fun item hitem => Scalar.exists_ofJson_iff.mpr (hitems item hitem)
    | scalar h =>
      obtain ⟨scalar, hscalar⟩ := Scalar.exists_ofJson_iff.mpr h
      cases h <;> exact ⟨.scalar scalar, Except.map_eq_ok_iff.mpr ⟨scalar, hscalar, rfl⟩⟩

theorem Filter.exists_addEntry_iff (f : Filter) (entry : String × Json) :
    (∃ g, f.addEntry entry = .ok g) ↔ Json.IsFilterEntry entry := by
  obtain ⟨key, value⟩ := entry
  constructor
  · rintro ⟨g, h⟩
    obtain ⟨mode, rfl, rfl, -⟩ | ⟨op, operand, -, hop, hoperand, -⟩ := addEntry_eq_ok h
    · cases mode with
      | and => exact .and
      | or => exact .or
    · refine .comparison (Operator.mem_names_iff.mpr ?_) (Operand.exists_ofJson_iff.mp ⟨_, hoperand⟩)
      rw [Operator.isName, hop]
      rfl
  · intro h
    cases h with
    | and => exact ⟨f.setMode .and, rfl⟩
    | or => exact ⟨f.setMode .or, rfl⟩
    | comparison hkey hvalue =>
      obtain ⟨op, -, rfl⟩ := List.mem_map.mp hkey
      obtain ⟨operand, hoperand⟩ := Operand.exists_ofJson_iff.mpr hvalue
      have hmode : op.name ≠ modeKey := by cases op <;> decide
      refine ⟨f.compare op operand, ?_⟩
      rw [addEntry, if_neg (show (op.name, value).1 ≠ modeKey from hmode), Operator.ofName_name,
        hoperand]
      rfl

/-- **Filters are accepted** if each of their entries is. -/
theorem Filter.exists_ofEntries_iff {entries : List (String × Json)} :
    (∃ f, Filter.ofEntries entries = .ok f) ↔ (Json.obj entries).IsFilter := by
  rw [ofEntries, List.exists_foldlM_eq_ok_iff exists_addEntry_iff]
  simp [Json.IsFilter]

/-! ### Terms -/

/-- How the term of a value comes about. -/
inductive Term.Decodes : Json → Term → Prop
  | skip {value : Json} (h : value.IsFalsy) : Term.Decodes value .skip
  | filter {entries : List (String × Json)} {f : Filter} (h : Filter.ofEntries entries = .ok f) :
      Term.Decodes (.obj entries) (.filter f)
  | group {entries : List (String × Json)} {fields : Terms} (hkey : Json.HasFieldKey entries)
      (h : Terms.ofEntries entries = .ok fields) : Term.Decodes (.obj entries) (.group fields)

theorem Term.ofJson_eq_ok_iff {field : String} {value : Json} {term : Term} :
    Term.ofJson field value = .ok term ↔ Term.Decodes value term := by
  constructor
  · intro h
    -- values other than objects share one equation
    have hflat (v : Json) (hv : (if v.isFalsy then .ok .skip else .error (.notField field v)) =
        (.ok term : Except CompileError Term)) : Term.Decodes v term := by
      split_ifs at hv with hfalsy
      obtain rfl := Except.ok.inj hv
      exact .skip (Json.isFalsy_iff.mp hfalsy)
    cases value with
    | obj entries =>
      rw [ofJson] at h
      split_ifs at h with hfields
      · obtain ⟨fields, hfields', rfl⟩ := Except.map_eq_ok_iff.mp h
        exact .group (Terms.areFields_iff.mp hfields) hfields'
      · obtain ⟨f, hf, rfl⟩ := Except.map_eq_ok_iff.mp h
        exact .filter hf
    | _ => exact hflat _ h
  · intro h
    cases h with
    | skip h =>
      cases h with
      | zeroDouble h => exact if_pos h
      | _ => rfl
    | filter h =>
      have hkeys := Json.IsFilter.not_hasFieldKey (Filter.exists_ofEntries_iff.mp ⟨_, h⟩)
      rw [ofJson, if_neg (mt Terms.areFields_iff.mp hkeys), h]
      rfl
    | group hkey h =>
      rw [ofJson, if_pos (Terms.areFields_iff.mpr hkey), h]
      rfl

/-- The values of an object are decoded one by one. -/
theorem Terms.ofEntries_eq_mapM (entries : List (String × Json)) :
    Terms.ofEntries entries = entries.mapM fun entry =>
      (Term.ofJson entry.1 entry.2).map fun term => (entry.1, term) := by
  induction entries with
  | nil => rfl
  | cons entry entries ih =>
    rw [ofEntries, List.mapM_cons, ih]
    cases Term.ofJson entry.1 entry.2 with
    | error e => rfl
    | ok term => rfl

theorem Terms.exists_ofEntries_iff {entries : List (String × Json)} :
    (∃ terms, Terms.ofEntries entries = .ok terms) ↔
      ∀ entry ∈ entries, ∃ term, Term.ofJson entry.1 entry.2 = .ok term := by
  rw [ofEntries_eq_mapM, List.exists_mapM_eq_ok_iff]
  simp only [Except.exists_map_eq_ok_iff]

theorem Term.isField_of_ofJson {field : String} {value : Json} {term : Term}
    (h : Term.ofJson field value = .ok term) : value.IsField := by
  induction value using Json.induction_on_entries generalizing field term with
  | flat value hflat =>
    cases ofJson_eq_ok_iff.mp h with
    | skip hfalsy => exact .falsy hfalsy
    | filter _ => exact absurd rfl (hflat _)
    | group _ _ => exact absurd rfl (hflat _)
  | obj entries ih =>
    cases ofJson_eq_ok_iff.mp h with
    | skip hfalsy => exact .falsy hfalsy
    | filter hf => exact .filter (Filter.exists_ofEntries_iff.mp ⟨_, hf⟩)
    | group hkey hfields =>
      refine .group hkey fun entry hentry => ?_
      obtain ⟨inner, hinner⟩ := Terms.exists_ofEntries_iff.mp ⟨_, hfields⟩ entry hentry
      exact ih entry hentry hinner

/-- **Values of the three kinds are accepted**, and no others. -/
theorem Term.exists_ofJson_iff {field : String} {value : Json} :
    (∃ term, Term.ofJson field value = .ok term) ↔ value.IsField := by
  refine ⟨fun ⟨_, h⟩ => isField_of_ofJson h, fun h => ?_⟩
  -- along the grammar, which only calls a value a field once those inside it are
  induction h generalizing field with
  | falsy hfalsy => exact ⟨.skip, ofJson_eq_ok_iff.mpr (.skip hfalsy)⟩
  | filter hfilter =>
    obtain ⟨entries, rfl, hentries⟩ := hfilter
    obtain ⟨f, hf⟩ := Filter.exists_ofEntries_iff.mpr ⟨entries, rfl, hentries⟩
    exact ⟨.filter f, ofJson_eq_ok_iff.mpr (.filter hf)⟩
  | group hkey _ ih =>
    obtain ⟨fields, hfields⟩ := Terms.exists_ofEntries_iff.mpr fun entry hentry => ih entry hentry
    exact ⟨.group fields, ofJson_eq_ok_iff.mpr (.group hkey hfields)⟩

theorem Terms.exists_ofEntries_iff_isField {entries : List (String × Json)} :
    (∃ terms, Terms.ofEntries entries = .ok terms) ↔ ∀ entry ∈ entries, entry.2.IsField := by
  simp only [exists_ofEntries_iff, Term.exists_ofJson_iff]

/-! ### Mirrors -/

private theorem Terms.mirrors_of_ofEntries {entries : List (String × Json)} {terms : Terms}
    (hinner : ∀ entry ∈ entries, ∀ field term, Term.ofJson field entry.2 = .ok term →
      Term.Mirrors entry.2 term)
    (h : Terms.ofEntries entries = .ok terms) : Terms.Mirrors entries terms := by
  induction entries generalizing terms with
  | nil =>
    obtain rfl := Except.ok.inj h
    exact .nil
  | cons entry entries ih =>
    rw [ofEntries] at h
    obtain ⟨term, hterm, hmore⟩ := Except.bind_eq_ok_iff.mp h
    obtain ⟨others, hothers, hterms⟩ := Except.bind_eq_ok_iff.mp hmore
    obtain rfl := Except.ok.inj hterms
    rw [List.forall_mem_cons] at hinner
    exact .cons entry.1 (hinner.1 entry.1 term hterm) (ih hinner.2 hothers)

/-- A term is of the kind that its value is of. -/
private theorem Term.Decodes.kind {value : Json} {term : Term} (h : Term.Decodes value term) :
    (term = .skip ↔ value.IsFalsy) ∧ ((∃ f, term = .filter f) ↔ value.IsFilter) ∧
      ((∃ fields, term = .group fields) ↔ value.IsGroup) := by
  cases h with
  | skip hfalsy =>
    refine ⟨iff_of_true rfl hfalsy, iff_of_false (by simp) ?_, iff_of_false (by simp) ?_⟩
    · rintro ⟨entries, rfl, -⟩
      cases hfalsy
    · rintro ⟨entries, rfl, -⟩
      cases hfalsy
  | @filter entries f hf =>
    have hfilter := Filter.exists_ofEntries_iff.mp ⟨f, hf⟩
    refine ⟨iff_of_false (by simp) nofun, iff_of_true ⟨f, rfl⟩ hfilter,
      iff_of_false (by simp) ?_⟩
    rintro ⟨_, heq, hkey, -⟩
    obtain rfl := Json.obj.inj heq
    exact hfilter.not_hasFieldKey hkey
  | @group entries fields hkey hfields =>
    have hinner := Terms.exists_ofEntries_iff_isField.mp ⟨fields, hfields⟩
    exact ⟨iff_of_false (by simp) nofun, iff_of_false (by simp) fun h => h.not_hasFieldKey hkey,
      iff_of_true ⟨fields, rfl⟩ ⟨entries, rfl, hkey, hinner⟩⟩

private theorem Term.Decodes.content {value : Json} {f : Filter}
    (h : Term.Decodes value (.filter f)) : Filter.ofJson value = .ok f := by
  cases h with
  | filter hf => exact hf

theorem Term.mirrors_of_ofJson {field : String} {value : Json} {term : Term}
    (h : Term.ofJson field value = .ok term) : Term.Mirrors value term := by
  induction value using Json.induction_on_entries generalizing field term with
  | flat value hflat =>
    have hdecodes := ofJson_eq_ok_iff.mp h
    obtain ⟨hskip, hfilter, hgroup⟩ := hdecodes.kind
    refine .mk hskip hfilter hgroup ?_ fun entries _ heq => absurd heq (hflat entries)
    rintro f rfl
    exact hdecodes.content
  | obj entries ih =>
    have hdecodes := ofJson_eq_ok_iff.mp h
    obtain ⟨hskip, hfilter, hgroup⟩ := hdecodes.kind
    refine .mk hskip hfilter hgroup ?_ ?_
    · rintro f rfl
      exact hdecodes.content
    · rintro _ fields heq rfl
      obtain rfl := Json.obj.inj heq
      cases hdecodes with
      | group _ hfields =>
        exact Terms.mirrors_of_ofEntries (fun entry hentry _ _ => ih entry hentry) hfields

/-- **The decoder accepts the grammar.** It decodes a value exactly if it is an object all of whose
values are empty, filters or groups, to any depth. The result then has the fields of the object, in
order, and each field has no term, a filter or a group exactly if its value is empty, a filter or a
group; filters are what their values spell, and the terms in a group are again those of the
object. -/
theorem Terms.ofJson_grammar (value : Json) :
    ((∃ terms, Terms.ofJson value = .ok terms) ↔ value.IsTerms) ∧
    ∀ terms, Terms.ofJson value = .ok terms →
      ∃ entries, value = .obj entries ∧ Terms.Mirrors entries terms := by
  constructor
  · constructor
    · rintro ⟨terms, h⟩
      cases value with
      | obj entries => exact ⟨entries, rfl, exists_ofEntries_iff_isField.mp ⟨terms, h⟩⟩
      | _ => exact absurd h (by simp [ofJson])
    · rintro ⟨entries, rfl, h⟩
      exact exists_ofEntries_iff_isField.mpr h
  · intro terms h
    cases value with
    | obj entries =>
      exact ⟨entries, rfl, mirrors_of_ofEntries (fun _ _ _ _ => Term.mirrors_of_ofJson) h⟩
    | _ => exact absurd h (by simp [ofJson])

/-- The same entry is the connective of a filter, and a field at fault beside another field. -/
example :
    let mode : String × Json := ("mode", .str "AND")
    (Terms.ofJson (.obj [("f", .obj [mode, ("gt", .int 0)])])).isOk ∧
      ¬ (Terms.ofJson (.obj [("f", .obj [mode, ("age", .int 0)])])).isOk := by
  decide

end DocQuery
