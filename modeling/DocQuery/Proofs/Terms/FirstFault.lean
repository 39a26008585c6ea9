import DocQuery.Proofs.Terms.Grammar

/-!
# Why JSON terms are rejected

A value that is no terms may be at fault in several places. One of them is reported: the first
entry of the object that a field cannot have, and in that entry again the first. This is said
without the decoder, by one relation for each kind of value (`Json.OperandFault`,
`Json.FilterEntryFault`, `Json.FieldFault`, `Json.TermsFault`) between values and what is wrong with
them. In front of the fault everything is sound in the sense of the grammar; what comes behind it
plays no part.

`Terms.ofJson_reports_first_fault` says that the decoder reports this fault and no other. It never
reports an unknown operator: an object with a key that names no operator is not taken for a filter,
so its keys are fields (`Json.FieldFault.kind_ne`). And the entries behind the first one at fault
may be replaced by any others.
-/

namespace DocQuery

/-! ### Faults -/

namespace Json

/-- What is wrong with a value that should be a scalar. -/
inductive ScalarFault : Json → CompileError → Prop
  | mk {value : Json} (h : ¬ value.IsScalar) : ScalarFault value (.notScalar value)

/-- What is wrong with a value that no operator takes. A list is at fault in its items. -/
inductive OperandFault : Json → CompileError → Prop
  | scalar {value : Json} {e : CompileError} (hlist : ∀ items, value ≠ .arr items)
      (h : ScalarFault value e) : OperandFault value e
  | list {items : List Json} {e : CompileError} (h : items.HasFirst IsScalar (ScalarFault · e)) :
      OperandFault (.arr items) e

/-- What is wrong with an entry of a filter: `mode` is not one of the two connectives, the key names
no operator, or the operator does not take the value. -/
inductive FilterEntryFault : String × Json → CompileError → Prop
  | modeName {name : String} (hand : name ≠ "AND") (hor : name ≠ "OR") :
      FilterEntryFault ("mode", .str name) (.unknownMode name)
  | modeValue {value : Json} (h : ∀ name, value ≠ .str name) :
      FilterEntryFault ("mode", value) (.unknownMode value.text)
  | operator {key : String} (value : Json) (hmode : key ≠ "mode") (hkey : key ∉ Operator.names) :
      FilterEntryFault (key, value) (.unknownOperator key)
  | operand {key : String} {value : Json} {e : CompileError} (hkey : key ∈ Operator.names)
      (h : OperandFault value e) : FilterEntryFault (key, value) e

/-- What is wrong with a field and its value: the value is neither empty nor an object, it is a
filter with an entry at fault, or it is a group with a field at fault. -/
inductive FieldFault : String × Json → CompileError → Prop
  | notObject (field : String) {value : Json} (hobject : ∀ entries, value ≠ .obj entries)
      (hfalsy : ¬ value.IsFalsy) : FieldFault (field, value) (.notField field value)
  | filter (field : String) {entries : List (String × Json)} {e : CompileError}
      (hkeys : ¬ HasFieldKey entries)
      (h : entries.HasFirst IsFilterEntry (FilterEntryFault · e)) :
      FieldFault (field, .obj entries) e
  | group (field : String) {before after : List (String × Json)} {entry : String × Json}
      {e : CompileError} (hkeys : HasFieldKey (before ++ entry :: after))
      (hbefore : ∀ x ∈ before, x.2.IsField) (h : FieldFault entry e) :
      FieldFault (field, .obj (before ++ entry :: after)) e

/-- What is wrong with a value that is no terms: it is no object, or it has a field at fault. -/
inductive TermsFault : Json → CompileError → Prop
  | notObject {value : Json} (hobject : ∀ entries, value ≠ .obj entries) :
      TermsFault value (.notTerms value)
  | entry {entries : List (String × Json)} {e : CompileError}
      (h : entries.HasFirst (fun x => x.2.IsField) (FieldFault · e)) : TermsFault (.obj entries) e

theorem TermsFault.obj_iff {entries : List (String × Json)} {e : CompileError} :
    (Json.obj entries).TermsFault e ↔
      entries.HasFirst (fun x => x.2.IsField) (FieldFault · e) := by
  refine ⟨fun h => ?_, .entry⟩
  cases h with
  | notObject hobject => exact absurd rfl (hobject entries)
  | entry h => exact h

theorem FieldFault.obj_iff {field : String} {entries : List (String × Json)} {e : CompileError} :
    FieldFault (field, .obj entries) e ↔
      (¬ HasFieldKey entries ∧ entries.HasFirst IsFilterEntry (FilterEntryFault · e)) ∨
        (HasFieldKey entries ∧ (Json.obj entries).TermsFault e) := by
  rw [TermsFault.obj_iff]
  constructor
  · intro h
    generalize hvalue : Json.obj entries = value at h
    cases h with
    | notObject _ hobject => exact absurd hvalue.symm (hobject entries)
    | filter _ hkeys h =>
      obtain rfl := Json.obj.inj hvalue
      exact .inl ⟨hkeys, h⟩
    | group _ hkeys hbefore h =>
      obtain rfl := Json.obj.inj hvalue
      exact .inr ⟨hkeys, _, _, _, rfl, hbefore, h⟩
  · rintro (⟨hkeys, h⟩ | ⟨hkeys, before, entry, after, rfl, hbefore, h⟩)
    · exact .filter field hkeys h
    · exact .group field hkeys hbefore h

end Json

/-! ### Faults in filters -/

theorem Scalar.ofJson_eq_error_iff {value : Json} {e : CompileError} :
    Scalar.ofJson value = .error e ↔ value.ScalarFault e := by
  have hfault : value.ScalarFault e ↔ ¬ value.IsScalar ∧ e = .notScalar value := by
    constructor
    · rintro ⟨h⟩
      exact ⟨h, rfl⟩
    · rintro ⟨h, rfl⟩
      exact ⟨h⟩
  rw [hfault]
  by_cases hscalar : value.IsScalar
  · obtain ⟨scalar, h⟩ := exists_ofJson_iff.mpr hscalar
    exact iff_of_false (by simp [h]) fun hne => hne.1 hscalar
  · have herror : Scalar.ofJson value = .error (.notScalar value) := by
      cases value with
      | arr items => rfl
      | obj entries => rfl
      | _ => exact absurd (by constructor) hscalar
    rw [herror, Except.error.injEq, eq_comm]
    exact (and_iff_right hscalar).symm

theorem Operand.ofJson_eq_error_iff {value : Json} {e : CompileError} :
    Operand.ofJson value = .error e ↔ value.OperandFault e := by
  by_cases hlist : ∃ items, value = .arr items
  · obtain ⟨items, rfl⟩ := hlist
    have hitems : Operand.ofJson (.arr items) = .error e ↔
        items.HasFirst Json.IsScalar (Json.ScalarFault · e) := by
      rw [ofJson, Except.map_eq_error_iff, List.mapM_eq_error_iff]
      simp only [Scalar.exists_ofJson_iff, Scalar.ofJson_eq_error_iff]
    rw [hitems]
    refine ⟨.list, fun h => ?_⟩
    cases h with
    | scalar hlist _ => exact absurd rfl (hlist items)
    | list h => exact h
  · have hvalue : ∀ items, value ≠ .arr items := fun items h => hlist ⟨items, h⟩
    rw [ofJson_of_not_arr hvalue, Except.map_eq_error_iff, Scalar.ofJson_eq_error_iff]
    refine ⟨.scalar hvalue, fun h => ?_⟩
    cases h with
    | scalar _ h => exact h
    | list h => exact absurd rfl (hvalue _)

theorem Mode.ofName_eq_error_iff {name : String} {e : CompileError} :
    ofName name = .error e ↔ name ≠ "AND" ∧ name ≠ "OR" ∧ e = .unknownMode name := by
  rw [ofName]
  split_ifs with hand hor
  · exact iff_of_false (by simp) fun h => h.1 hand
  · exact iff_of_false (by simp) fun h => h.2.1 hor
  · simp [hand, hor, eq_comm]

theorem Operator.ofName_eq_error_iff {name : String} {e : CompileError} :
    ofName name = .error e ↔ name ∉ names ∧ e = .unknownOperator name := by
  rw [mem_names_iff, isName, ofName]
  rcases find? name with _ | op
  · simp [eq_comm]
  · simp

/-- A connective is at fault as the value of `mode`. -/
theorem Mode.ofJson_eq_error_iff {value : Json} {e : CompileError} :
    ofJson value = .error e ↔ Json.FilterEntryFault ("mode", value) e := by
  have hname : "mode" ∉ Operator.names := by decide
  by_cases hstr : ∃ name, value = .str name
  · obtain ⟨name, rfl⟩ := hstr
    rw [ofJson, ofName_eq_error_iff]
    constructor
    · rintro ⟨hand, hor, rfl⟩
      exact .modeName hand hor
    · rintro (⟨hand, hor⟩ | hvalue | ⟨-, hmode, -⟩ | ⟨hkey, -⟩)
      · exact ⟨hand, hor, rfl⟩
      · exact absurd rfl (hvalue name)
      · exact absurd rfl hmode
      · exact absurd hkey hname
  · have hvalue : ∀ name, value ≠ .str name := fun name h => hstr ⟨name, h⟩
    have herror : ofJson value = .error (.unknownMode value.text) := by
      cases value with
      | str name => exact absurd rfl (hvalue name)
      | _ => rfl
    rw [herror, Except.error.injEq]
    constructor
    · rintro rfl
      exact .modeValue hvalue
    · rintro (⟨-, -⟩ | - | ⟨-, hmode, -⟩ | ⟨hkey, -⟩)
      · exact absurd rfl (hvalue _)
      · rfl
      · exact absurd rfl hmode
      · exact absurd hkey hname

/-- An entry that is not added to a filter is at fault, whatever the filter. -/
theorem Filter.addEntry_eq_error_iff (f : Filter) (entry : String × Json) (e : CompileError) :
    f.addEntry entry = .error e ↔ Json.FilterEntryFault entry e := by
  obtain ⟨key, value⟩ := entry
  by_cases hmode : key = "mode"
  · obtain rfl := hmode
    rw [addEntry, if_pos (show ("mode", value).1 = modeKey from rfl), Except.map_eq_error_iff,
      Mode.ofJson_eq_error_iff]
  · rw [addEntry, if_neg (show (key, value).1 ≠ modeKey from hmode), Except.bind_eq_error_iff,
      Operator.ofName_eq_error_iff]
    constructor
    · rintro (⟨hkey, rfl⟩ | ⟨op, hop, hrest⟩)
      · exact .operator value hmode hkey
      · have hkey : key ∈ Operator.names := by
          rw [Operator.mem_names_iff, Operator.isName, Operator.find?_of_ofName hop]
          rfl
        rcases Except.bind_eq_error_iff.mp hrest with hoperand | ⟨_, -, habsurd⟩
        · exact .operand hkey (Operand.ofJson_eq_error_iff.mp hoperand)
        · cases habsurd
    · rintro (⟨-, -⟩ | - | ⟨-, -, hkey⟩ | ⟨hkey, hoperand⟩)
      · exact absurd rfl hmode
      · exact absurd rfl hmode
      · exact .inl ⟨hkey, rfl⟩
      · obtain ⟨op, -, rfl⟩ := List.mem_map.mp hkey
        refine .inr ⟨op, Operator.ofName_name op, Except.bind_eq_error_iff.mpr (.inl ?_)⟩
        exact Operand.ofJson_eq_error_iff.mpr hoperand

/-- **Filters are rejected** for the first of their entries that is at fault. -/
theorem Filter.ofEntries_eq_error_iff {entries : List (String × Json)} {e : CompileError} :
    Filter.ofEntries entries = .error e ↔
      entries.HasFirst Json.IsFilterEntry (Json.FilterEntryFault · e) :=
  List.foldlM_eq_error_iff exists_addEntry_iff addEntry_eq_error_iff

/-! ### Faults in terms -/

/-- The entries of an object are rejected for the first whose value is. -/
private theorem Terms.ofEntries_eq_error_iff {entries : List (String × Json)} {e : CompileError} :
    Terms.ofEntries entries = .error e ↔
      entries.HasFirst (fun x => x.2.IsField) (fun x => Term.ofJson x.1 x.2 = .error e) := by
  rw [ofEntries_eq_mapM, List.mapM_eq_error_iff]
  simp only [Except.exists_map_eq_ok_iff, Term.exists_ofJson_iff, Except.map_eq_error_iff]

private theorem Term.ofJson_of_not_obj {field : String} {value : Json}
    (hobject : ∀ entries, value ≠ .obj entries) :
    Term.ofJson field value =
      if value.isFalsy then .ok .skip else .error (.notField field value) := by
  cases value with
  | obj entries => exact absurd rfl (hobject entries)
  | _ => rfl

/-- **Values of fields are rejected** for the first fault in them, however deep it is. -/
theorem Term.ofJson_eq_error_iff {field : String} {value : Json} {e : CompileError} :
    Term.ofJson field value = .error e ↔ Json.FieldFault (field, value) e := by
  induction value using Json.induction_on_entries generalizing field with
  | flat value hobject =>
    rw [ofJson_of_not_obj hobject]
    constructor
    · intro h
      split_ifs at h with hfalsy
      obtain rfl := Except.error.inj h
      exact .notObject field hobject (mt Json.isFalsy_iff.mpr hfalsy)
    · rintro (⟨-, -, hfalsy⟩ | ⟨-, -, -⟩ | ⟨-, -, -, -⟩)
      · exact if_neg (mt Json.isFalsy_iff.mp hfalsy)
      · exact absurd rfl (hobject _)
      · exact absurd rfl (hobject _)
  | obj entries ih =>
    have hfields : Terms.ofEntries entries = .error e ↔ (Json.obj entries).TermsFault e := by
      rw [Terms.ofEntries_eq_error_iff, Json.TermsFault.obj_iff]
      exact List.HasFirst.congr (fun _ _ => Iff.rfl) fun entry hentry => ih entry hentry
    rw [ofJson, Json.FieldFault.obj_iff]
    by_cases hkeys : Json.HasFieldKey entries
    · rw [if_pos (Terms.areFields_iff.mpr hkeys), Except.map_eq_error_iff, hfields]
      simp [hkeys]
    · rw [if_neg (mt Terms.areFields_iff.mp hkeys), Except.map_eq_error_iff,
        Filter.ofEntries_eq_error_iff]
      simp [hkeys]

theorem Terms.ofJson_eq_error_iff {value : Json} {e : CompileError} :
    Terms.ofJson value = .error e ↔ value.TermsFault e := by
  by_cases hobject : ∃ entries, value = .obj entries
  · obtain ⟨entries, rfl⟩ := hobject
    rw [ofJson, ofEntries_eq_error_iff, Json.TermsFault.obj_iff]
    simp only [Term.ofJson_eq_error_iff]
  · have hvalue : ∀ entries, value ≠ .obj entries := fun entries h => hobject ⟨entries, h⟩
    have herror : Terms.ofJson value = .error (.notTerms value) := by
      cases value with
      | obj entries => exact absurd rfl (hvalue entries)
      | _ => rfl
    rw [herror, Except.error.injEq]
    constructor
    · rintro rfl
      exact .notObject hvalue
    · rintro (- | -)
      · rfl
      · exact absurd rfl (hvalue _)

/-! ### Kinds of faults -/

namespace Json

theorem ScalarFault.kind_eq {value : Json} {e : CompileError} (h : ScalarFault value e) :
    e.kind = .invalidTerms := by
  obtain ⟨-⟩ := h
  rfl

theorem OperandFault.kind_eq {value : Json} {e : CompileError} (h : OperandFault value e) :
    e.kind = .invalidTerms := by
  rcases h with ⟨-, h⟩ | ⟨-, item, -, -, -, h⟩
  · exact h.kind_eq
  · exact h.kind_eq

/-- The key of an entry tells what kind of fault it has. -/
theorem FilterEntryFault.kind_eq {entry : String × Json} {e : CompileError}
    (h : FilterEntryFault entry e) :
    e.kind = if entry.1 = "mode" then .invalidMode
      else if entry.1 ∈ Operator.names then .invalidTerms else .unrecognizedOperator := by
  rcases h with ⟨-, -⟩ | - | ⟨-, hmode, hkey⟩ | ⟨hkey, h⟩
  · rfl
  · rfl
  · rw [if_neg hmode, if_neg hkey]
    rfl
  · have hmode : "mode" ∉ Operator.names := by decide
    rw [if_neg (ne_of_mem_of_not_mem hkey hmode), if_pos hkey, h.kind_eq]

/-- **A field never has an unknown operator**: a key that names none makes a group. -/
theorem FieldFault.kind_ne {entry : String × Json} {e : CompileError} (h : FieldFault entry e) :
    e.kind ≠ .unrecognizedOperator := by
  induction h with
  | notObject field hobject hfalsy => exact nofun
  | group field hkeys hbefore h ih => exact ih
  | filter field hkeys h =>
    obtain ⟨before, entry, after, rfl, -, hentry⟩ := h
    rw [hentry.kind_eq]
    split_ifs with hmode hkey
    · exact nofun
    · exact nofun
    · exact absurd ⟨entry, by simp, hmode, hkey⟩ hkeys

end Json

/-! ### The first fault -/

/-- **Terms are rejected for their first fault.** The decoder reports what is wrong with a value that
is no terms. This is never an unknown operator. It is a connective if that is the entry at fault in
a filter, and terms that are not valid if it is any other entry of a filter, or no object where there
has to be one. If the value is an object, the error is that of the first entry that a field cannot
have: whatever stands behind it instead, it stays the same. -/
theorem Terms.ofJson_reports_first_fault (value : Json) (e : CompileError) :
    (Terms.ofJson value = .error e ↔ value.TermsFault e) ∧
    (value.TermsFault e → e.kind ≠ .unrecognizedOperator) ∧
    (value.TermsFault e → (∀ entries, value ≠ .obj entries) → e.kind = .invalidTerms) ∧
    (∀ field inner, Json.FieldFault (field, inner) e → (∀ entries, inner ≠ .obj entries) →
      e.kind = .invalidTerms) ∧
    (∀ key inner, Json.FilterEntryFault (key, inner) e → key = "mode" ∨ key ∈ Operator.names →
      e.kind = if key = "mode" then .invalidMode else .invalidTerms) ∧
    ∀ entries, value = .obj entries → Terms.ofJson value = .error e →
      ∃ before entry after, entries = before ++ entry :: after ∧
        (∀ x ∈ before, x.2.IsField) ∧ ¬ entry.2.IsField ∧ Json.FieldFault entry e ∧
        ∀ others, Terms.ofJson (.obj (before ++ entry :: others)) = .error e := by
  refine ⟨ofJson_eq_error_iff, fun h => ?_, fun h hobject => ?_, fun field inner h hobject => ?_,
    fun key inner h hkey => ?_, ?_⟩
  · rcases h with - | ⟨before, entry, after, rfl, -, hentry⟩
    · exact nofun
    · exact hentry.kind_ne
  · rcases h with - | -
    · rfl
    · exact absurd rfl (hobject _)
  · rcases h with - | - | -
    · rfl
    · exact absurd rfl (hobject _)
    · exact absurd rfl (hobject _)
  · rw [h.kind_eq]
    split_ifs with hmode hname
    · rfl
    · rfl
    · exact absurd hkey (not_or.mpr ⟨hmode, hname⟩)
  · rintro entries rfl h
    obtain ⟨before, entry, after, rfl, hbefore, hentry⟩ :=
      Json.TermsFault.obj_iff.mp (ofJson_eq_error_iff.mp h)
    refine ⟨before, entry, after, rfl, hbefore, ?_, hentry, fun others => ?_⟩
    · intro hfield
      obtain ⟨term, hterm⟩ : ∃ term, Term.ofJson entry.1 entry.2 = .ok term :=
        Term.exists_ofJson_iff.mpr hfield
      have herror := Term.ofJson_eq_error_iff.mpr hentry
      rw [hterm] at herror
      exact absurd herror (by simp)
    · exact ofJson_eq_error_iff.mpr
        (Json.TermsFault.obj_iff.mpr ⟨before, entry, others, rfl, hbefore, hentry⟩)

/-- A list in a list is reported from two objects down. Of the faults behind it, the connective, the
field and the last entry, none is. -/
theorem Terms.ofJson_reports_list_in_list :
    let entries : List (String × Json) := [
      ("name", .str ""),
      ("owner", .obj [
        ("age", .obj [("in", .arr [.int 1, .arr []]), ("mode", .str "XOR")]),
        ("eq", .int 5)]),
      ("mode", .bool true)]
    let e : CompileError := .notScalar (.arr [])
    Terms.ofJson (.obj entries) = .error e ∧ (Json.obj entries).TermsFault e ∧
      e.kind ≠ .unrecognizedOperator ∧
      ∃ before entry after, entries = before ++ entry :: after ∧
        (∀ x ∈ before, x.2.IsField) ∧ ¬ entry.2.IsField ∧ Json.FieldFault entry e ∧
        ∀ others, Terms.ofJson (.obj (before ++ entry :: others)) = .error e := by
  intro entries e
  have h : Terms.ofJson (.obj entries) = .error e := rfl
  obtain ⟨hfault, hkind, -, -, -, hfirst⟩ := Terms.ofJson_reports_first_fault (.obj entries) e
  exact ⟨h, hfault.mp h, hkind (hfault.mp h), hfirst entries rfl h⟩

end DocQuery
